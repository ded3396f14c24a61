import ObjectFilter.Schema

/-!
# Comparators

The three-way comparison that belongs to an ordered type.  It is total on all values: null is below
everything else, two values of the comparator's own kind go by their order, and any other two by
their kinds.
-/

namespace ObjectFilter

open Number (Binary64)

/-- the comparison of a family of ordered types -/
inductive Comparator
  | bool
  | char
  | int
  | uint
  | float
  | text
  | enum
  | custom (type : CustomType)
deriving DecidableEq, Repr

namespace Comparator

variable {α : Type} [Schema α]

/-- the comparator of a type, none if the type has no order -/
def ofType? : ValueType → Option Comparator
  | .bool => some bool
  | .char => some char
  | .signed _ => some int
  | .unsigned _ => some uint
  | .single | .double => some float
  | .text => some text
  | .enum _ => some enum
  | .custom type => if type.ordered then some (custom type) else none
  | .object _ => none

/-- the order of two values of the comparator's own kind -/
def comparePresent? : Comparator → Value α → Value α → Option Ordering
  | bool, .bool x, .bool y => some (compare x.toNat y.toNat)
  | char, .char x, .char y => some (compare x.toNat y.toNat)
  | int, .int x, .int y => some (compare x.toInt y.toInt)
  | uint, .uint x, .uint y => some (compare x.toNat y.toNat)
  | float, .float x, .float y => some (Binary64.compareNumbers x y)
  | text, .text x, .text y => some (compare (x.toList.map Char.toNat) (y.toList.map Char.toNat))
  | enum, .enum x, .enum y => some (compare x.discriminant.toInt y.discriminant.toInt)
  | custom type, .custom x, .custom y => type.compare? x y
  | _, _, _ => none

def compareValues (c : Comparator) (a b : Value α) : Ordering :=
  match a, b with
  | .null, .null => .eq
  | .null, _ => .lt
  | _, .null => .gt
  | a, b => (c.comparePresent? a b).getD (compare a.rank b.rank)

/-! ## small facts -/

theorem ofType?_isSome (t : ValueType) : (ofType? t).isSome = t.isOrdered := by
  cases t with
  | custom type => cases h : type.ordered <;> simp [ofType?, ValueType.isOrdered, h]
  | _ => rfl

end Comparator
end ObjectFilter
