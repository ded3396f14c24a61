import ObjectFilter.PreparedCondition

/-!
# Predicates

A compiled list of conditions over the candidates of one type.  A candidate is narrowed to the target
type, and then the conditions are evaluated in order until one of them is false.
-/

namespace ObjectFilter

variable {α : Type} [Schema α]

/-- an evaluator for the candidates of a type -/
structure Predicate (α : Type) [Schema α] where
  target : TypeKey
  conditions : List (PreparedCondition α)

namespace Predicate

def verify (p : Predicate α) (candidate : α) : Bool :=
  p.conditions.all (·.evaluate (narrow p.target candidate))

/-- the answer of every condition, also behind one that is false -/
def each (p : Predicate α) (candidate : α) : List Bool :=
  p.conditions.map (·.evaluate (narrow p.target candidate))

def select (p : Predicate α) (candidates : List α) : List α := candidates.filter p.verify

/-- the conditions up to the first that is false, and that one -/
def upToFirstFalse (narrowed : Option α) :
    List (PreparedCondition α) → List (PreparedCondition α)
  | [] => []
  | c :: rest => if c.evaluate narrowed then c :: upToFirstFalse narrowed rest else [c]

/-- how often `verify` reads a property of the candidate -/
def readCount (p : Predicate α) (candidate : α) : Nat :=
  match narrow p.target candidate with
  | none => 0
  | some a => (upToFirstFalse (some a) p.conditions).countP (·.test.property?.isSome)

def size (p : Predicate α) : Nat := p.conditions.length

def isEmpty (p : Predicate α) : Bool := p.conditions.isEmpty

def labels (p : Predicate α) : List String := p.conditions.map (·.label)

def display (p : Predicate α) : String :=
  let terms := if p.isEmpty then "true" else Text.join " and " p.labels
  s!"{typeName α p.target} where {terms}"

/-! ## small facts -/

theorem verify_eq_all_each (p : Predicate α) (a : α) : p.verify a = (p.each a).all id := by
  simp [verify, each, List.all_map]

theorem mem_select_iff (p : Predicate α) (candidates : List α) (a : α) :
    a ∈ p.select candidates ↔ a ∈ candidates ∧ p.verify a = true := by
  simp [select]

end Predicate
end ObjectFilter
