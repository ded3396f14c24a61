import ObjectFilter.Number.Binary64

/-!
# The fewest digits that read back

The decimal text of a number: the fewest significant digits that still round to it, and of those
the nearest to it, a tie going away from zero.  The digits are written in positional notation,
however far the point lies from them.
-/

namespace ObjectFilter.Number

/-- a positive decimal number `digits * 10 ^ power` -/
structure Scientific where
  digits : Nat
  power : Int
deriving DecidableEq, Repr

namespace Scientific

/-- without the zeros at the end of the digits -/
def normalized (s : Scientific) : Nat → Scientific
  | 0 => s
  | n + 1 =>
    if s.digits % 10 = 0 && s.digits ≠ 0 then normalized ⟨s.digits / 10, s.power + 1⟩ n else s

/-- positional notation, with at least `places` digits behind the point -/
def positional (s : Scientific) (places : Nat) : List Char :=
  let digits := Nat.toDigits 10 s.digits
  let behind := (-s.power).toNat
  let whole :=
    if behind < digits.length then digits.take (digits.length - behind) else ['0']
  let whole := if 0 ≤ s.power then whole ++ List.replicate s.power.toNat '0' else whole
  let decimals :=
    List.replicate (behind - digits.length) '0' ++ digits.drop (digits.length - behind)
  let decimals := decimals ++ List.replicate (places - decimals.length) '0'
  if decimals.isEmpty then whole else whole ++ '.' :: decimals

/-- one digit, the others behind the point, and the power of ten -/
def exponential (s : Scientific) : List Char :=
  let digits := Nat.toDigits 10 s.digits
  let power := s.power + (digits.length - 1 : Nat)
  digits.take 1 ++ (if 1 < digits.length then '.' :: digits.drop 1 else [])
    ++ 'e' :: (toString power).toList

end Scientific

/-- the reals that round to a number, as fractions over `4 * one`: both bounds, and whether they
belong to it -/
structure RoundingInterval where
  low : Nat
  high : Nat
  closed : Bool
deriving DecidableEq, Repr

namespace RoundingInterval

/-- the interval of the number with `u` units -/
def ofUnits (u : Nat) : RoundingInterval :=
  let step := Nat.pow 2 (u.log2 - 52)
  let stepBelow := if u = Nat.pow 2 u.log2 && 52 < u.log2 then step / 2 else step
  ⟨4 * u - 2 * stepBelow, 4 * u + 2 * step, (u / step) % 2 == 0⟩

/-- whether the fraction `n / (d * 4 * one)` lies in the interval -/
def holds (i : RoundingInterval) (n d : Nat) : Bool :=
  if i.closed then i.low * d ≤ n && n ≤ i.high * d else i.low * d < n && n < i.high * d

end RoundingInterval

namespace Binary64

def tenTo (power : Int) : Nat × Nat :=
  if 0 ≤ power then (Nat.pow 10 power.toNat, 1) else (1, Nat.pow 10 (-power).toNat)

/-- the point of the grid of multiples of `10 ^ power` that lies in the interval of `u` units, the
one nearest to the number if its two neighbours both do -/
def onGrid (u : Nat) (power : Int) : Option Scientific :=
  let (n, d) := tenTo power
  let interval := RoundingInterval.ofUnits u
  let spacing := n * (4 * one)
  let below := 4 * u * d / spacing
  let rest := 4 * u * d % spacing
  let hasBelow := below ≠ 0 && interval.holds (below * spacing) d
  let hasAbove := interval.holds ((below + 1) * spacing) d
  if hasBelow && (!hasAbove || 2 * rest < spacing) then some ⟨below, power⟩
  else if hasAbove then some ⟨below + 1, power⟩
  else none

/-- how often `u` units have to be multiplied by ten to reach one, at most `fuel` times -/
def timesTen (u : Nat) : Nat → Nat
  | 0 => 0
  | fuel + 1 => if one ≤ u then 0 else timesTen (u * 10) fuel + 1

/-- the power of ten of the leading digit of `u` units -/
def leadingPower (u : Nat) : Int :=
  if one ≤ u then ((Nat.toDigits 10 (u / one)).length - 1 : Nat) else -(timesTen u 400 : Int)

/-- the first grid from `power` downwards that has a point in the interval -/
def firstGrid (u : Nat) (power : Int) : Nat → Option Scientific
  | 0 => onGrid u power
  | n + 1 =>
    match onGrid u power with
    | some s => some s
    | none => firstGrid u (power - 1) n

/-- the fewest digits that read back as a positive finite number of `u` units -/
def shortest (u : Nat) : Scientific :=
  match firstGrid u (leadingPower u) 20 with
  | some s => s.normalized 20
  | none => ⟨u, 0⟩

def text (write : Scientific → List Char) (x : Binary64) : String :=
  if x.isNaN then "NaN"
  else
    let magnitude :=
      if x.isInfinite then "inf".toList
      else if x.units = 0 then write ⟨0, 0⟩
      else write (shortest x.units)
    String.ofList (if x.negative then '-' :: magnitude else magnitude)

/-- positional notation, however many zeros it takes -/
def display (x : Binary64) : String := x.text (·.positional 0)

/-- positional notation with a digit behind the point, or a power of ten for magnitudes from `10^16`
on and below `10^-4` -/
def report (x : Binary64) : String :=
  x.text fun s =>
    let top := s.power + ((Nat.toDigits 10 s.digits).length : Int)
    if s.digits ≠ 0 && (16 < top || top < -3) then s.exponential else s.positional 1

/-! ## small facts -/

example : (ofInt .double 1).display = "1" := by decide +kernel

example : (ofUnits true 0).display = "-0" := by decide +kernel

end Binary64
end ObjectFilter.Number
