/-!
# Double-precision numbers

A number is held as its 64 bits.  Every finite number is a whole multiple of the least positive one,
so its magnitude is a natural number of *units*, and infinity continues the scale: it is the number
of units that the next exponent would start at.  Rounding and comparing are done on units, exactly.

* `ofUnits`   the number with a given count of units, the inverse of `units` on the numbers there are;
* `roundUnits`   the nearest count of units that a format has, a tie going to the even significand;
* `compareNumbers`   a total order in which NaN is below every number and the two zeros are equal.
-/

namespace ObjectFilter.Number

/-- a double-precision number, by its bit pattern -/
structure Binary64 where
  bits : UInt64
deriving DecidableEq, Repr

namespace Binary64

def negative (x : Binary64) : Bool := Nat.pow 2 63 ≤ x.bits.toNat

def exponent (x : Binary64) : Nat := x.bits.toNat / Nat.pow 2 52 % Nat.pow 2 11

/-- the stored part of the significand -/
def fraction (x : Binary64) : Nat := x.bits.toNat % Nat.pow 2 52

def isNaN (x : Binary64) : Bool := x.exponent == 2047 && x.fraction != 0

def isInfinite (x : Binary64) : Bool := x.exponent == 2047 && x.fraction == 0

def isFinite (x : Binary64) : Bool := x.exponent != 2047

/-- the magnitude as a multiple of the least positive number -/
def units (x : Binary64) : Nat :=
  if x.exponent = 0 then x.fraction else (Nat.pow 2 52 + x.fraction) * Nat.pow 2 (x.exponent - 1)

/-- the signed value as a multiple of the least positive number -/
def value (x : Binary64) : Int := if x.negative then -(x.units : Int) else x.units

def one : Nat := Nat.pow 2 1074

def infiniteUnits : Nat := Nat.pow 2 2098

/-- the biased exponent and the stored fraction, as one number, for a count of units -/
def encode (u : Nat) : Nat :=
  if u < Nat.pow 2 52 then u
  else (u.log2 - 52 + 1) * Nat.pow 2 52 + (u / Nat.pow 2 (u.log2 - 52) - Nat.pow 2 52)

def ofUnits (negative : Bool) (u : Nat) : Binary64 :=
  ⟨UInt64.ofNat ((if negative then Nat.pow 2 63 else 0) + encode u)⟩

def nan (negative : Bool) : Binary64 :=
  ⟨if negative then 0xFFF8000000000000 else 0x7FF8000000000000⟩

def infinity (negative : Bool) : Binary64 := ofUnits negative infiniteUnits

/-! ## rounding -/

/-- a binary format inside double precision: the length of its significand, the logarithm of its
least positive number in units, and the units of its infinity -/
structure Format where
  precision : Nat
  least : Nat
  infinite : Nat
deriving DecidableEq, Repr

def Format.double : Format := ⟨53, 0, infiniteUnits⟩

def Format.single : Format := ⟨24, 925, Nat.pow 2 1202⟩

/-- the whole number nearest to `n / d`, a tie going to the even one -/
def nearest (n d : Nat) : Nat :=
  let q := n / d
  let r := n % d
  if 2 * r < d then q else if d < 2 * r then q + 1 else q + q % 2

/-- the units of the format's number nearest to `n / d` units, infinity from half a step above the
greatest number on -/
def roundUnits (f : Format) (n d : Nat) : Nat :=
  let q := n / d
  let length := if q = 0 then 0 else q.log2 + 1
  let shift := max (length - f.precision) f.least
  let u := nearest n (d * Nat.pow 2 shift) * Nat.pow 2 shift
  if f.infinite ≤ u then infiniteUnits else u

def round (f : Format) (negative : Bool) (n d : Nat) : Binary64 :=
  ofUnits negative (roundUnits f n d)

def toSingle (x : Binary64) : Binary64 :=
  if x.isNaN then nan x.negative else round .single x.negative x.units 1

def ofInt (f : Format) (n : Int) : Binary64 := round f (n < 0) (n.natAbs * one) 1

/-- the product of two numbers, neither of them NaN or infinite -/
def times (x y : Binary64) : Binary64 :=
  round .double (x.negative ^^ y.negative) (x.units * y.units) one

/-- the quotient of two numbers, neither of them NaN or infinite and the second not zero -/
def dividedBy (x y : Binary64) : Binary64 :=
  round .double (x.negative ^^ y.negative) (x.units * one) y.units

/-! ## order -/

def partialCompare (x y : Binary64) : Option Ordering :=
  if x.isNaN || y.isNaN then none else some (compare x.value y.value)

/-- the order of two numbers, where NaN equals NaN and is below every number -/
def compareNumbers (x y : Binary64) : Ordering :=
  match partialCompare x y with
  | some o => o
  | none => compare y.isNaN.toNat x.isNaN.toNat

/-! ## small facts -/

example : ofInt .double 1 = ⟨0x3FF0000000000000⟩ := by decide +kernel

example : (infinity false).bits = 0x7FF0000000000000 := by decide +kernel

end Binary64
end ObjectFilter.Number
