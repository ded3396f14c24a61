import ObjectFilter.Number.Width

/-!
# Integer numerals

Reading an integer of a given width from its digits in base ten or sixteen.  The digits are read from
the left, and the first fault met is the one reported: a character that is no digit, or a digit
that takes the number out of range.  One plus sign may stand in front, and for signed integers one
minus sign.
-/

namespace ObjectFilter.Number

inductive NumeralError
  | empty
  | invalidDigit
  | tooLarge
  | tooSmall
deriving DecidableEq, Repr

def NumeralError.message : NumeralError → String
  | empty => "cannot parse integer from empty string"
  | invalidDigit => "invalid digit found in string"
  | tooLarge => "number too large to fit in target type"
  | tooSmall => "number too small to fit in target type"

/-- the value of a digit, small or capital letters standing for ten and above -/
def digit? (radix : Nat) (c : Char) : Option Nat :=
  let value :=
    if c.isDigit then some (c.toNat - '0'.toNat)
    else if c.isLower then some (c.toNat - 'a'.toNat + 10)
    else if c.isUpper then some (c.toNat - 'A'.toNat + 10)
    else none
  value.filter (· < radix)

/-- reads digits into `acc`; a number above `limit` is the fault `overflow` -/
def readDigits (radix limit : Nat) (overflow : NumeralError) (acc : Nat) :
    List Char → Except NumeralError Nat
  | [] => .ok acc
  | c :: rest =>
    match digit? radix c with
    | none => .error .invalidDigit
    | some d =>
      if acc * radix + d ≤ limit then readDigits radix limit overflow (acc * radix + d) rest
      else .error overflow

def readUnsigned (w : Width) (radix : Nat) : List Char → Except NumeralError Nat
  | [] => .error .empty
  | ['+'] => .error .invalidDigit
  | '+' :: digits => readDigits radix w.greatestUnsigned .tooLarge 0 digits
  | digits => readDigits radix w.greatestUnsigned .tooLarge 0 digits

def readSigned (w : Width) : List Char → Except NumeralError Int
  | [] => .error .empty
  | ['+'] => .error .invalidDigit
  | ['-'] => .error .invalidDigit
  | '+' :: digits => (readDigits 10 w.greatest.toNat .tooLarge 0 digits).map Int.ofNat
  | '-' :: digits => (readDigits 10 w.least.natAbs .tooSmall 0 digits).map fun (n : Nat) => -(n : Int)
  | digits => (readDigits 10 w.greatest.toNat .tooLarge 0 digits).map Int.ofNat

/-! ## small facts -/

theorem readDigits_nil (radix limit : Nat) (overflow : NumeralError) (acc : Nat) :
    readDigits radix limit overflow acc [] = .ok acc := rfl

end ObjectFilter.Number
