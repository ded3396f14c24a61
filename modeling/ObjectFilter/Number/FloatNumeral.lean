import ObjectFilter.Number.Binary64

/-!
# Floating-point numerals

Reading a number from decimal notation: digits with at most one point, of which at least one digit is
there, then an optional power of ten.  The words `inf`, `infinity` and `nan` count in any case.  The
number read is the one of the format nearest to the exact value.
-/

namespace ObjectFilter.Number

inductive FloatNumeralError
  | empty
  | invalid
deriving DecidableEq, Repr

def FloatNumeralError.message : FloatNumeralError → String
  | empty => "cannot parse float from empty string"
  | invalid => "invalid float literal"

/-- the value of decimal digits read from the left, continuing from `acc` -/
def decimalValue (acc : Nat) (digits : List Char) : Nat :=
  digits.foldl (fun n c => 10 * n + (c.toNat - '0'.toNat)) acc

/-- a sign in front, if there is one, and the rest -/
def takeSign : List Char → Bool × List Char
  | '-' :: rest => (true, rest)
  | '+' :: rest => (false, rest)
  | cs => (false, cs)

namespace Binary64

/-- the number of the format nearest to `digits * 10 ^ power` -/
def ofScientific (f : Format) (negative : Bool) (digits : Nat) (power : Int) : Binary64 :=
  let top := power + ((Nat.toDigits 10 digits).length : Int)
  if digits = 0 || top < -400 then ofUnits negative 0
  else if 400 < top then infinity negative
  else if 0 ≤ power then round f negative (digits * Nat.pow 10 power.toNat * one) 1
  else round f negative (digits * one) (Nat.pow 10 (-power).toNat)

/-- the power of ten behind the digits: nothing, or an `e` and an integer -/
def readPower : List Char → Option Int
  | [] => some 0
  | c :: rest =>
    if c = 'e' || c = 'E' then
      let (negative, digits) := takeSign rest
      if digits.isEmpty || !digits.all Char.isDigit then none
      else
        let n : Int := decimalValue 0 digits
        some (if negative then -n else n)
    else none

def readMagnitude (f : Format) (negative : Bool) (cs : List Char) : Option Binary64 :=
  let whole := cs.takeWhile Char.isDigit
  let rest := cs.dropWhile Char.isDigit
  let (decimals, rest) :=
    match rest with
    | '.' :: r => (r.takeWhile Char.isDigit, r.dropWhile Char.isDigit)
    | r => ([], r)
  if whole.isEmpty && decimals.isEmpty then none
  else
    (readPower rest).map fun power =>
      ofScientific f negative (decimalValue 0 (whole ++ decimals)) (power - decimals.length)

def read (f : Format) (cs : List Char) : Except FloatNumeralError Binary64 :=
  if cs.isEmpty then .error .empty
  else
    let (negative, body) := takeSign cs
    let word := body.map Char.toLower
    if word = "inf".toList || word = "infinity".toList then .ok (infinity negative)
    else if word = "nan".toList then .ok (nan negative)
    else
      match readMagnitude f negative body with
      | some x => .ok x
      | none => .error .invalid

example : (read .double "-1.5".toList).toOption = some ⟨0xBFF8000000000000⟩ := by decide +kernel

end Binary64
end ObjectFilter.Number
