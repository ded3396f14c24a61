import ObjectFilter.Property
import ObjectFilter.RawLiteral

/-!
# Conditions

The terms of a predicate.  A condition asks whether the candidate is of the target type, or compares one
of its properties with a literal, as text or as a value of the property's type.  Every condition has
a label, which a predicate shows.
-/

namespace ObjectFilter

structure TypeCondition where
  negated : Bool
deriving DecidableEq, Repr

structure StringCondition (α : Type) [Schema α] where
  property : Property α
  operator : StringOperator
  value : RawLiteral
  ignoreCase : Bool
  negated : Bool

instance {α : Type} [Schema α] : DecidableEq (StringCondition α) := fun a b =>
  decidable_of_iff (a.property = b.property ∧ a.operator = b.operator ∧ a.value = b.value
    ∧ a.ignoreCase = b.ignoreCase ∧ a.negated = b.negated) (by cases a; cases b; simp)

/-- compares a property with a literal of its type -/
structure ComparisonCondition (α : Type) [Schema α] where
  property : Property α
  operator : ComparisonOperator
  value : RawLiteral
  negated : Bool

instance {α : Type} [Schema α] : DecidableEq (ComparisonCondition α) := fun a b =>
  decidable_of_iff (a.property = b.property ∧ a.operator = b.operator ∧ a.value = b.value
    ∧ a.negated = b.negated) (by cases a; cases b; simp)

def negatedLabel (negated : Bool) (label : String) : String :=
  if negated then "not " ++ label else label

def TypeCondition.label (c : TypeCondition) : String := negatedLabel c.negated "is target type"

def StringCondition.label {α : Type} [Schema α] (c : StringCondition α) : String :=
  negatedLabel c.negated
    (s!"{c.property.path} {c.operator.display} \"{c.value.display}\""
      ++ if c.ignoreCase then " (ignore case)" else "")

def ComparisonCondition.label {α : Type} [Schema α] (c : ComparisonCondition α) : String :=
  negatedLabel c.negated s!"{c.property.path} {c.operator.display} {c.value.display}"

/-- one term of a predicate -/
inductive Condition (α : Type) [Schema α]
  | type (condition : TypeCondition)
  | string (condition : StringCondition α)
  | comparison (condition : ComparisonCondition α)

instance {α : Type} [Schema α] : DecidableEq (Condition α)
  | .type a, .type b => decidable_of_iff (a = b) (by simp)
  | .string a, .string b => decidable_of_iff (a = b) (by simp)
  | .comparison a, .comparison b => decidable_of_iff (a = b) (by simp)
  | .type _, .string _ | .type _, .comparison _ | .string _, .type _ | .string _, .comparison _
  | .comparison _, .type _ | .comparison _, .string _ => isFalse (by simp)

namespace Condition

variable {α : Type} [Schema α]

def label : Condition α → String
  | type c => c.label
  | string c => c.label
  | comparison c => c.label

def isNegated : Condition α → Bool
  | type c => c.negated
  | string c => c.negated
  | comparison c => c.negated

def property? : Condition α → Option (Property α)
  | type _ => none
  | string c => some c.property
  | comparison c => some c.property

/-- a type condition that is not negated -/
def isTypeGuard : Condition α → Bool
  | type c => !c.negated
  | _ => false

/-- the type condition that a guarded predicate starts with -/
def typeGuard : Condition α := .type ⟨false⟩

theorem isTypeGuard_iff (c : Condition α) : c.isTypeGuard = true ↔ c = typeGuard := by
  cases c with
  | type c =>
    cases c with
    | mk negated => cases negated <;> simp [isTypeGuard, typeGuard]
  | _ => simp [isTypeGuard, typeGuard]

end Condition
end ObjectFilter
