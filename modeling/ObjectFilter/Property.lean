import ObjectFilter.FilterError
import ObjectFilter.Schema
import ObjectFilter.Text.Pieces

/-!
# Properties

A property is a path of names bound to a type: each name is looked up in the type that the one before
it refers to.  Binding finds every link once, and reading then follows the links; behind a null the
whole path reads null.

Two properties are the same if they lead from the same type through the same declarations, however
their paths were written.
-/

namespace ObjectFilter

variable {α : Type} [Schema α]

/-- a declared property, by the type that declares it and its place there -/
structure Link (α : Type) [Schema α] where
  owner : TypeKey
  index : Fin (Schema.descriptor owner : TypeDescriptor α).properties.length

theorem Link.eq_iff {a b : Link α} :
    a = b ↔ a.owner = b.owner ∧ a.index.val = b.index.val := by
  obtain ⟨k, i⟩ := a
  obtain ⟨l, j⟩ := b
  constructor
  · rintro ⟨⟩
    exact ⟨rfl, rfl⟩
  · rintro ⟨h, hij⟩
    cases h
    exact congrArg _ (Fin.ext hij)

instance : DecidableEq (Link α) := fun _ _ => decidable_of_iff' _ Link.eq_iff

namespace Link

def declared (l : Link α) : PropertyDescriptor α :=
  (Schema.descriptor l.owner : TypeDescriptor α).properties[l.index]

def name (l : Link α) : String := l.declared.name

def type (l : Link α) : ValueType := l.declared.type

def read (l : Link α) (a : α) : Value α := l.declared.read a

/-- the first property of a type with a name, without regard to case -/
def find? (owner : TypeKey) (name : String) : Option (Link α) :=
  let properties := (Schema.descriptor owner : TypeDescriptor α).properties
  (properties.findFinIdx? fun p => Text.sameName p.name name).map fun i => ⟨owner, i⟩

def find (owner : TypeKey) (name : String) : Except FilterError (Link α) :=
  match find? owner name with
  | some l => .ok l
  | none => .error (.unknownProperty (typeName α owner) name)

end Link

/-- a path of properties bound to a type; all links but the last lead to objects -/
structure Property (α : Type) [Schema α] where
  owner : TypeKey
  through : List (Link α)
  last : Link α

instance : DecidableEq (Property α) := fun a b =>
  decidable_of_iff (a.owner = b.owner ∧ a.through = b.through ∧ a.last = b.last) (by
    cases a; cases b; simp)

namespace Property

/-! ## binding -/

/-- binds the segments behind a link; `path` is the whole path, for the error of a blank segment -/
def bindAfter (path : String) (link : Link α) :
    List (List Char) → Except FilterError (List (Link α) × Link α)
  | [] => .ok ([], link)
  | segment :: rest => do
    let name := String.ofList (Text.trim segment)
    if name.isEmpty then throw (.invalidPath path)
    match link.type with
    | .object key =>
      let next ← Link.find key name
      let (through, last) ← bindAfter path next rest
      return (link :: through, last)
    | type => throw (.notAnObject link.name (type.name α) name)

/-- binds a path of names with dots between them; white space around a name does not count -/
def bind (owner : TypeKey) (path : String) : Except FilterError (Property α) := do
  let (segment, rest) := Text.cut '.' path.toList
  let name := String.ofList (Text.trim segment)
  if name.isEmpty then throw (.invalidPath path)
  let first ← Link.find owner name
  let (through, last) ← bindAfter path first rest
  return ⟨owner, through, last⟩

/-! ## reading -/

def chain (p : Property α) : List (Link α) := p.through ++ [p.last]

def type (p : Property α) : ValueType := p.last.type

/-- the declared names with dots between them -/
def path (p : Property α) : String := Text.join "." (p.chain.map Link.name)

/-- reads a last link behind other links -/
def readThrough (last : Link α) : List (Link α) → α → Value α
  | [], a => last.read a
  | link :: rest, a =>
    match link.read a with
    | .object next => readThrough last rest next
    | _ => .null

def read (p : Property α) (a : α) : Value α := readThrough p.last p.through a

/-! ## hashing -/

/-- feeds a property to a hash: the type that it is bound to, and then its links -/
def hashWith {σ : Type} (feedType : TypeKey → σ → σ) (feedLink : Link α → σ → σ)
    (p : Property α) (state : σ) : σ :=
  p.chain.foldl (fun state link => feedLink link state) (feedType p.owner state)

/-! ## small facts -/

theorem chain_ne_nil (p : Property α) : p.chain ≠ [] := by simp [chain]

end Property
end ObjectFilter
