import ObjectFilter.Document.Node
import ObjectFilter.Number.FloatNumeral
import ObjectFilter.Number.Numeral
import ObjectFilter.Number.Width

/-!
# Bare values

The values of a TOML document that are written without brackets and quotes: truth values, integers of
64 bits, floating-point numbers, dates and times.  A single underscore may stand between two digits.
-/

namespace ObjectFilter.Document.Toml

open Number (Binary64 Width)

/-! ## digits -/

/-- digits with single underscores between them -/
def isDigits (p : Char → Bool) : List Char → Bool
  | [] => false
  | [c] => p c
  | c :: '_' :: rest => p c && isDigits p rest
  | c :: rest => p c && isDigits p rest

def withoutUnderscores (cs : List Char) : List Char := cs.filter (· ≠ '_')

/-- digits without a zero in front of others -/
def isWhole (cs : List Char) : Bool :=
  isDigits Char.isDigit cs && (cs.head? ≠ some '0' || cs.length = 1)

/-! ## numbers -/

def integerOf? (n : Int) : Option Node :=
  if Width.w64.least ≤ n ∧ n ≤ Width.w64.greatest then some (.int n) else none

/-- an integer with a radix, behind the zero and the letter in front -/
def radixInteger? (radix : Nat) (cs : List Char) : Option Node := do
  guard (isDigits (fun c => (Number.digit? radix c).isSome) cs)
  let digits ← (withoutUnderscores cs).mapM (Number.digit? radix)
  integerOf? (digits.foldl (fun n d => radix * n + d) 0 : Nat)

def integer? (negative : Bool) (cs : List Char) : Option Node := do
  guard (isWhole cs)
  let n : Int := Number.decimalValue 0 (withoutUnderscores cs)
  integerOf? (if negative then -n else n)

/-- splits at the first of some characters, which goes away; none if there is none of them -/
def splitAt? (p : Char → Bool) (cs : List Char) : Option (List Char × List Char) :=
  match cs.dropWhile (!p ·) with
  | [] => none
  | _ :: rest => some (cs.takeWhile (!p ·), rest)

/-- a power of ten, which may have a sign and zeros in front -/
def isPower (cs : List Char) : Bool := isDigits Char.isDigit (Number.takeSign cs).2

/-- digits, and a point with digits behind it or a power of ten or both -/
def isFloat (cs : List Char) : Bool :=
  let isMark := fun c => c = 'e' || c = 'E'
  match splitAt? (· = '.') cs, splitAt? isMark cs with
  | some (whole, rest), _ =>
    isWhole whole
      && match splitAt? isMark rest with
        | some (decimals, power) => isDigits Char.isDigit decimals && isPower power
        | none => isDigits Char.isDigit rest
  | none, some (whole, power) => isWhole whole && isPower power
  | none, none => false

/-- a floating-point number; one that is too large is no number, unless it is negative -/
def float? (negative : Bool) (cs : List Char) : Option Node := do
  guard (isFloat cs)
  let x ← Binary64.readMagnitude .double negative (withoutUnderscores cs)
  if x.isInfinite && !negative then none else some (.float x)

/-! ## dates and times -/

def inRange (count low high : Nat) (cs : List Char) : Bool :=
  cs.length = count && cs.all Char.isDigit
    && low ≤ Number.decimalValue 0 cs && Number.decimalValue 0 cs ≤ high

def daysIn (year month : Nat) : Nat :=
  if month = 2 then
    if year % 4 = 0 && (year % 100 ≠ 0 || year % 400 = 0) then 29 else 28
  else if [4, 6, 9, 11].contains month then 30
  else 31

/-- a date such as `1979-05-27` -/
def isDate (cs : List Char) : Bool :=
  match splitAt? (· = '-') cs with
  | none => false
  | some (year, rest) =>
    match splitAt? (· = '-') rest with
    | none => false
    | some (month, day) =>
      inRange 4 0 9999 year && inRange 2 1 12 month
        && inRange 2 1 (daysIn (Number.decimalValue 0 year) (Number.decimalValue 0 month)) day

/-- a time such as `07:32:00.5` -/
def isTime (cs : List Char) : Bool :=
  let minute := fun (cs : List Char) => inRange 2 0 23 (cs.take 2) && (cs.drop 2).take 1 = [':']
    && inRange 2 0 59 ((cs.drop 3).take 2)
  let second := fun (cs : List Char) => cs.take 1 = [':'] && inRange 2 0 60 ((cs.drop 1).take 2)
  let fraction := fun (cs : List Char) =>
    match cs with
    | [] => true
    | c :: digits => c = '.' && !digits.isEmpty && digits.all Char.isDigit
  minute cs && second (cs.drop 5) && fraction (cs.drop 8)

def isOffset (cs : List Char) : Bool :=
  match cs with
  | [c] => c = 'Z' || c = 'z'
  | sign :: rest =>
    (sign = '+' || sign = '-') && rest.length = 5 && inRange 2 0 23 (rest.take 2)
      && (rest.drop 2).take 1 = [':'] && inRange 2 0 59 (rest.drop 3)
  | [] => true

/-- a time with an offset, which may be left out -/
def isOffsetTime (cs : List Char) : Bool :=
  let startsOffset := fun c => c = 'Z' || c = 'z' || c = '+' || c = '-'
  isTime (cs.takeWhile (!startsOffset ·)) && isOffset (cs.dropWhile (!startsOffset ·))

/-- a date, a time, or both with a letter or a blank between them -/
def isMoment (cs : List Char) : Bool :=
  isDate cs || isTime cs
    || (isDate (cs.take 10) && ['T', 't', ' '].any (some · == cs[10]?) && isOffsetTime (cs.drop 11))

/-! ## all of them -/

/-- a number behind its sign -/
def number? (signed negative : Bool) : List Char → Option Node
  | ['i', 'n', 'f'] => some (.float (Binary64.infinity negative))
  | ['n', 'a', 'n'] => some (.float (Binary64.nan negative))
  | cs =>
    match cs, signed with
    | '0' :: 'x' :: digits, false => radixInteger? 16 digits
    | '0' :: 'o' :: digits, false => radixInteger? 8 digits
    | '0' :: 'b' :: digits, false => radixInteger? 2 digits
    | _, _ => (integer? negative cs).or (float? negative cs)

/-- the value that characters without brackets and quotes stand for -/
def bare? (cs : List Char) : Option Node :=
  if cs = "true".toList then some (.bool true)
  else if cs = "false".toList then some (.bool false)
  else if isMoment cs then some (.moment (String.ofList cs))
  else
    match cs with
    | '-' :: rest => number? true true rest
    | '+' :: rest => number? true false rest
    | _ => number? false false cs

example : (bare? "1979-05-27 07:32:00Z".toList).isSome = true := by decide +kernel

example : (bare? "1__0".toList).isNone = true := by decide +kernel

end ObjectFilter.Document.Toml
