import ObjectFilter.Document.Yaml.Token

/-!
# YAML documents before they are read

A document with its scalars as they are written, and with aliases where a part of it stands for another
one.  The parts that an alias can stand for are numbered; of two with one number the last one counts.
-/

namespace ObjectFilter.Document.Yaml

/-- what may stand in front of a node -/
structure Properties where
  anchor : Option Nat
  tag : Option (List Char)
deriving DecidableEq, Repr

namespace Properties

def none : Properties := ⟨.none, .none⟩

/-- whether the tag names a type that belongs to the document -/
def isLocal (p : Properties) : Bool := p.tag.any (·.head? = some '!')

end Properties

inductive Tree
  | scalar (properties : Properties) (text : String) (style : ScalarStyle)
  | seq (properties : Properties) (items : List Tree)
  | map (properties : Properties) (entries : List (Tree × Tree))
  | aliasOf (anchor : Nat)

namespace Tree

def empty : Tree := scalar .none "" .plain

mutual

/-- how often a node starts or ends; scalars and aliases count once -/
def size : Tree → Nat
  | scalar _ _ _ => 1
  | seq _ items => sizeOfItems items + 2
  | map _ entries => sizeOfEntries entries + 2
  | aliasOf _ => 1

def sizeOfItems : List Tree → Nat
  | [] => 0
  | item :: rest => item.size + sizeOfItems rest

def sizeOfEntries : List (Tree × Tree) → Nat
  | [] => 0
  | (key, item) :: rest => key.size + item.size + sizeOfEntries rest

end

def anchor? : Tree → Option Nat
  | scalar p _ _ => p.anchor
  | seq p _ => p.anchor
  | map p _ => p.anchor
  | aliasOf _ => none

def numbered (t : Tree) : List (Nat × Tree) := (t.anchor?.map (·, t)).toList

mutual

/-- the nodes with numbers, in the order in which they start -/
def anchored : Tree → List (Nat × Tree)
  | t@(seq _ items) => t.numbered ++ anchoredItems items
  | t@(map _ entries) => t.numbered ++ anchoredEntries entries
  | t => t.numbered

def anchoredItems : List Tree → List (Nat × Tree)
  | [] => []
  | item :: rest => item.anchored ++ anchoredItems rest

def anchoredEntries : List (Tree × Tree) → List (Nat × Tree)
  | [] => []
  | (key, item) :: rest => key.anchored ++ item.anchored ++ anchoredEntries rest

end

end Tree
end ObjectFilter.Document.Yaml
