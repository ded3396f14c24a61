import ObjectFilter.Number.Decimal
import ObjectFilter.Value
import ObjectFilter.ValueType

/-!
# Schemas

What the embedding program tells about its types.  `α` is the type of everything it has: candidates,
the objects they refer to, and compound values.  A schema says of which type each of them is, how
compound values compare, and which properties the objects of a type have.  Descriptors refer to
each other by key, so types may refer to themselves and to each other in circles.
-/

namespace ObjectFilter

structure PropertyDescriptor (α : Type) where
  name : String
  type : ValueType
  read : α → Value α

/-- a type with its properties, in the order of their declaration -/
structure TypeDescriptor (α : Type) where
  key : TypeKey
  name : String
  properties : List (PropertyDescriptor α)

/-- the types of an embedding program -/
class Schema (α : Type) where
  /-- of which type something is -/
  typeOf : α → TypeKey
  /-- equality of two values of one compound type -/
  equal : α → α → Bool
  /-- the order of two values of one compound type -/
  order : α → α → Ordering
  /-- a decimal as a compound value -/
  ofDecimal : Number.Decimal → α
  /-- the properties of a type, none for types whose objects cannot be looked into -/
  descriptor : TypeKey → TypeDescriptor α
  typeOf_ofDecimal : ∀ x, typeOf (ofDecimal x) = .decimal
  key_descriptor : ∀ key, (descriptor key).key = key

variable {α : Type} [Schema α]

abbrev Instance (α : Type) [Schema α] (key : TypeKey) : Type := { a : α // Schema.typeOf a = key }

def typeName (α : Type) [Schema α] (key : TypeKey) : String :=
  (Schema.descriptor key : TypeDescriptor α).name

def ValueType.name (α : Type) [Schema α] (t : ValueType) : String := t.nameWith (typeName α)

def narrow (key : TypeKey) (candidate : α) : Option α :=
  if Schema.typeOf candidate = key then some candidate else none

namespace CustomType

/-- whether two things are equal values of the compound type -/
def equal (t : CustomType) (a b : α) : Bool :=
  Schema.typeOf a = t.key && Schema.typeOf b = t.key && Schema.equal a b

/-- the order of two things, if both are values of the compound type and it has an order -/
def compare? (t : CustomType) (a b : α) : Option Ordering :=
  if t.ordered ∧ Schema.typeOf a = t.key ∧ Schema.typeOf b = t.key then some (Schema.order a b)
  else none

end CustomType

/-! ## small facts -/

theorem narrow_eq_some_iff (key : TypeKey) (a b : α) :
    narrow key a = some b ↔ Schema.typeOf a = key ∧ a = b := by
  unfold narrow
  split <;> simp_all

theorem narrow_eq_none_iff (key : TypeKey) (a : α) :
    narrow key a = none ↔ Schema.typeOf a ≠ key := by
  unfold narrow
  split <;> simp_all

end ObjectFilter
