import ObjectFilter.Document.Node
import ObjectFilter.Number.FloatNumeral
import ObjectFilter.Number.Numeral
import ObjectFilter.Number.Width

/-!
# Numerals in JSON

A numeral without a point and a power of ten is an integer if it fits 64 bits; minus zero is not.  Any
other is a floating-point number: up to twenty digits are taken as an integer, rounded, and then scaled
by the power of ten, which rounds again.  Numerals that come out infinite are no numbers.
-/

namespace ObjectFilter.Document.Json

open Number (Binary64 Width)

structure Numeral where
  negative : Bool
  whole : List Char
  /-- the digits behind the point, none where there is no point -/
  decimals : List Char
  /-- the power of ten, where one is written -/
  power : Option Int
deriving DecidableEq, Repr

def tenTo (power : Nat) : Binary64 := Binary64.ofScientific .double false 1 power

/-- a number times a power of ten, in steps that each round; none if it is too large -/
def scaled : Nat → Binary64 → Int → Option Binary64
  | 0, x, _ => some x
  | steps + 1, x, power =>
    if power.natAbs ≤ 308 then
      let y := if 0 ≤ power then x.times (tenTo power.natAbs) else x.dividedBy (tenTo power.natAbs)
      if y.isInfinite then none else some y
    else if x.units = 0 then some x
    else if 0 ≤ power then none
    else scaled steps (x.dividedBy (tenTo 308)) (power + 308)

def limit : Nat := Width.w64.greatestUnsigned

/-- the value of the first digits that stay within the limit, continuing from `n`, and the number
of digits behind them -/
def significand (n : Nat) : List Char → Nat × Nat
  | [] => (n, 0)
  | c :: rest =>
    let next := 10 * n + (c.toNat - '0'.toNat)
    if next ≤ limit then significand next rest else (n, rest.length + 1)

namespace Numeral

def float? (x : Numeral) : Option Binary64 :=
  let (n, dropped) := significand 0 x.whole
  let (n, ignored) := significand n x.decimals
  let power := dropped - ((x.decimals.length : Int) - ignored) + x.power.getD 0
  (scaled 4 (Binary64.ofInt .double n) power).map fun y => Binary64.ofUnits x.negative y.units

/-- the integer of a numeral, if it is one of 64 bits -/
def integer? (x : Numeral) : Option Int :=
  let n := Number.decimalValue 0 x.whole
  if !x.decimals.isEmpty || x.power.isSome then none
  else if !x.negative && n ≤ limit then some n
  else if x.negative && n ≠ 0 && Width.w64.least ≤ -(n : Int) then some (-n)
  else none

def node? (x : Numeral) : Option Node :=
  match x.integer? with
  | some n => some (.int n)
  | none => x.float?.map .float

end Numeral

example : (Numeral.mk true ['0'] [] none).integer? = none := by decide +kernel

end ObjectFilter.Document.Json
