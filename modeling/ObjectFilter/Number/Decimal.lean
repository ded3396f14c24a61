/-!
# Scaled decimals

A decimal number with a sign, a mantissa below `2^96` and at most 28 digits behind the point.  The
digits behind the point are kept as they were written, so `1.50` and `1.5` are two decimals of one
value, and order and equality go by the value.

Reading takes digits from the left.  From the 28th digit behind the point on, or where the next digit
would no longer fit, the next digit rounds the mantissa, and digits and underscores that follow it do
not count.  A power of ten behind the digits moves the point.
-/

namespace ObjectFilter.Number

/-- a decimal number `± mantissa / 10 ^ scale` -/
structure Decimal where
  negative : Bool
  mantissa : Nat
  scale : Nat
deriving DecidableEq, Repr

inductive DecimalError
  | empty
  | noDigits
  | secondPoint
  | leadingSeparator
  | unknownCharacter
  | tooManyDigits
  | roundedTooLarge
  | badPower
  | scaleTooGreat (scale : Nat)
  | valueTooGreat
deriving DecidableEq, Repr

def DecimalError.message : DecimalError → String
  | empty => "Invalid decimal: empty"
  | noDigits => "Invalid decimal: no digits found"
  | secondPoint => "Invalid decimal: two decimal points"
  | leadingSeparator => "Invalid decimal: must start lead with a number"
  | unknownCharacter => "Invalid decimal: unknown character"
  | tooManyDigits => "Invalid decimal: overflow from too many digits"
  | roundedTooLarge => "Invalid decimal: overflow from mantissa after rounding"
  | badPower => "Failed to parse"
  | scaleTooGreat scale => s!"Scale exceeds the maximum precision allowed: {scale} > 28"
  | valueTooGreat => "Number exceeds maximum value that can be represented."

namespace Decimal

/-- mantissas are below this -/
def limit : Nat := Nat.pow 2 96

/-- no decimal has more digits behind the point -/
def greatestScale : Nat := 28

/-- a decimal from its parts; zero has no sign -/
def ofParts (negative : Bool) (mantissa scale : Nat) : Decimal :=
  ⟨negative && mantissa != 0, mantissa, scale⟩

/-! ## reading -/

structure Reading where
  negative : Bool
  mantissa : Nat
  scale : Nat
  /-- the point has been read -/
  point : Bool
  /-- a digit has been read -/
  started : Bool
deriving DecidableEq, Repr

namespace Reading

def finish (r : Reading) : Except DecimalError Decimal :=
  if r.started then .ok (ofParts r.negative r.mantissa r.scale) else .error .noDigits

def fault (c : Char) : DecimalError :=
  if c = '.' then .secondPoint else if c = '_' then .leadingSeparator else .unknownCharacter

/-- rounds by a digit that has no place any more -/
def roundOff (r : Reading) (digit : Nat) : Except DecimalError Decimal :=
  if digit < 5 then r.finish
  else if r.mantissa + 1 < limit then finish { r with mantissa := r.mantissa + 1 }
  else if r.scale = 0 then .error .roundedTooLarge
  else finish { r with mantissa := (r.mantissa + 5) / 10, scale := r.scale - 1 }

/-- the fault of the first character that is neither a digit nor an underscore -/
def tailFault? (cs : List Char) : Option DecimalError :=
  (cs.find? fun c => !(c.isDigit || c = '_')).map fault

/-- rounds by the character behind the last digit that has a place -/
def roundAt (r : Reading) (c : Char) (rest : List Char) : Except DecimalError Decimal :=
  match tailFault? (if c = '_' then rest else c :: rest) with
  | some e => .error e
  | none => r.roundOff (if c = '_' then 0 else c.toNat - '0'.toNat)

/-- the reading after one more digit -/
def push (r : Reading) (digit : Nat) : Reading :=
  { r with
    mantissa := r.mantissa * 10 + digit
    scale := if r.point then r.scale + 1 else r.scale
    started := true }

/-- mantissas below this have room for another digit in a word of 64 bits, with some to spare -/
def shortLimit : Nat := (Nat.pow 2 64 - 1) / 10 - 255

/-- whether the mantissa was short before its last digit -/
def isShort (r : Reading) : Bool := r.mantissa / 10 < shortLimit

/-- reads on to the end of the text; behind the last place an underscore stands for a zero if the
mantissa is short, and is left out otherwise -/
def run (r : Reading) : List Char → Except DecimalError Decimal
  | [] => r.finish
  | c :: rest =>
    if r.point && greatestScale ≤ r.scale then
      if c = '_' && !r.isShort then r.run rest else r.roundAt c rest
    else if c.isDigit then
      let next := r.push (c.toNat - '0'.toNat)
      if next.mantissa < limit then next.run rest
      else if r.point then r.roundAt c rest
      else .error .tooManyDigits
    else if c = '.' && !r.point then run { r with point := true } rest
    else if c = '_' && r.started then r.run rest
    else .error (fault c)

end Reading

/-- reads digits with at most one point, and an optional sign in front -/
def readPlain : List Char → Except DecimalError Decimal
  | [] => .error .empty
  | '-' :: rest => Reading.run ⟨true, 0, 0, false, false⟩ rest
  | '+' :: rest => Reading.run ⟨false, 0, 0, false, false⟩ rest
  | cs => Reading.run ⟨false, 0, 0, false, false⟩ cs

/-- the decimal with its point moved to the right -/
def raise (x : Decimal) (places : Nat) : Except DecimalError Decimal :=
  if places ≤ x.scale then .ok { x with scale := x.scale - places }
  else if greatestScale < places then .error (.scaleTooGreat places)
  else
    let mantissa := x.mantissa * Nat.pow 10 (places - x.scale)
    if mantissa < limit then .ok { x with mantissa := mantissa, scale := 0 }
    else .error .valueTooGreat

/-- a mantissa without its last digits, of which the first rounds it -/
def withoutLast (mantissa : Nat) : Nat → Nat
  | 0 => mantissa
  | digits + 1 => (mantissa / Nat.pow 10 digits + 5) / 10

/-- the decimal with its point moved to the left; digits behind the last place go away, and the sign
stays even if nothing else does -/
def lower (x : Decimal) (places : Nat) : Except DecimalError Decimal :=
  if greatestScale < places then .error (.scaleTooGreat places)
  else if x.scale + places ≤ greatestScale then .ok { x with scale := x.scale + places }
  else
    let mantissa := withoutLast x.mantissa (x.scale + places - greatestScale)
    .ok { x with mantissa := mantissa, scale := greatestScale }

/-- the digits of a power of ten, as a number of 32 bits; a plus sign may stand in front -/
def readPlaces (cs : List Char) : Except DecimalError Nat :=
  let digits := if cs.head? = some '+' then cs.drop 1 else cs
  let places := digits.foldl (fun n c => 10 * n + (c.toNat - '0'.toNat)) 0
  if !digits.isEmpty && digits.all Char.isDigit && places < Nat.pow 2 32 then .ok places
  else .error .badPower

/-- reads a decimal: digits, and perhaps an `e` with a power of ten behind them -/
def read (cs : List Char) : Except DecimalError Decimal :=
  let isMark := fun c => c = 'e' || c = 'E'
  match cs.takeWhile (!isMark ·), cs.dropWhile (!isMark ·) with
  | digits, [] => readPlain digits
  | digits, _ :: power => do
    let x ← readPlain digits
    match power with
    | '-' :: places => x.lower (← readPlaces places)
    | places => x.raise (← readPlaces places)

/-! ## text and order -/

def display (x : Decimal) : String :=
  let digits := Nat.toDigits 10 x.mantissa
  let digits := List.replicate (x.scale + 1 - digits.length) '0' ++ digits
  let whole := digits.take (digits.length - x.scale)
  let decimals := digits.drop (digits.length - x.scale)
  let text := if decimals.isEmpty then whole else whole ++ '.' :: decimals
  String.ofList (if x.negative then '-' :: text else text)

/-- the value as a multiple of `10 ^ -28` -/
def value (x : Decimal) : Int :=
  let magnitude : Int := (x.mantissa * Nat.pow 10 (greatestScale - x.scale) : Nat)
  if x.negative then -magnitude else magnitude

def order (x y : Decimal) : Ordering := compare x.value y.value

def same (x y : Decimal) : Bool := x.order y == .eq

/-! ## small facts -/

example : (read "1.50".toList).toOption = some ⟨false, 150, 2⟩ := by decide +kernel

end Decimal
end ObjectFilter.Number
