import ObjectFilter.Document.Yaml.Scalar
import ObjectFilter.Document.Yaml.Tree

/-!
# Documents with their aliases followed

What the parts of a YAML document mean.  Aliases are followed, at most a hundred times as often as a node
starts or ends in the document, and lists and maps are no deeper than 128, so that a document which
holds itself means nothing.

Where a text is asked for, a scalar is taken as it is written.
-/

namespace ObjectFilter.Document.Yaml

/-- reading that may follow so many more aliases -/
abbrev Walk := StateT Nat Option

/-- a document, and what its aliases stand for, the last one first -/
structure Graph where
  root : Tree
  targets : List (Nat × Tree)

namespace Graph

def ofTree (t : Tree) : Graph := ⟨t, t.anchored.reverse⟩

def greatestDepth : Nat := 128

/-- how often aliases may be followed -/
def greatestJumps (g : Graph) : Nat := 100 * g.root.size

def run {β : Type} (g : Graph) (walk : Walk β) : Option β :=
  (walk.run g.greatestJumps).map (·.1)

/-- the node that an alias stands for, and any other node itself -/
def follow (g : Graph) : Tree → Walk Tree
  | .aliasOf n => do
    match ← get with
    | 0 => failure
    | jumps + 1 =>
      set jumps
      g.targets.lookup n
  | t => return t

/-! ## scalars -/

def text (g : Graph) (t : Tree) : Walk String := do
  match ← g.follow t with
  | .scalar _ text _ => return text
  | _ => failure

/-- whether a scalar that is written like this can be a truth value -/
def canBeBool (p : Properties) : ScalarStyle → Bool
  | .plain => true
  | .literal => p.tag = some (coreTag "bool")
  | _ => false

/-- a truth value, which is not quoted -/
def bool (g : Graph) (t : Tree) : Walk Bool := do
  match ← g.follow t with
  | .scalar p text style => if canBeBool p style then bool? text.toList else failure
  | _ => failure

/-- what a scalar stands for on its own -/
def scalarNode? (p : Properties) (text : String) (style : ScalarStyle) : Option Node :=
  match p.tag with
  | some tag => tagged? tag text.toList
  | none => if style = .plain then plain? text.toList else some (.text text)

/-! ## lists and maps -/

def seq (g : Graph) (t : Tree) : Walk (List Tree) := do
  match ← g.follow t with
  | .seq _ items => return items
  | .scalar _ "" .plain => return []
  | _ => failure

/-- a list or a map with a tag of its own is no value -/
def demandPlain (p : Properties) : Walk Unit := do guard !p.isLocal

/-- a part of the document with a meaning for every scalar -/
def node (g : Graph) : Nat → Tree → Walk Node
  | 0, t => do
    match ← g.follow t with
    | .scalar p text style => scalarNode? p text style
    | _ => failure
  | depth + 1, t => do
    match ← g.follow t with
    | .scalar p text style => scalarNode? p text style
    | .seq p items =>
      demandPlain p
      return .seq (← items.mapM (g.node depth))
    | .map p entries =>
      demandPlain p
      return .map (← entries.mapM fun e => do return (← g.node depth e.1, ← g.node depth e.2))
    | .aliasOf _ => failure

/-- the entry of a record that tells its kind under a name -/
def kindEntry (g : Graph) (name : String) (depth : Nat) (entry : Tree × Tree) :
    Walk (Node × Node) := do
  let key ← g.node depth entry.1
  if key.isText name then return (key, .text (← g.text entry.2))
  else return (key, ← g.node depth entry.2)

/-- a record that tells its kind under a name, or as its first item; the kind may be any scalar and is
taken as it is written -/
def kindRecord (g : Graph) (name : String) (depth : Nat) (t : Tree) : Walk Node := do
  match ← g.follow t with
  | .seq p (kind :: items) =>
    demandPlain p
    return .seq (.text (← g.text kind) :: (← items.mapM (g.node depth)))
  | .map p entries =>
    demandPlain p
    return .map (← entries.mapM (g.kindEntry name depth))
  | _ => failure

end Graph
end ObjectFilter.Document.Yaml
