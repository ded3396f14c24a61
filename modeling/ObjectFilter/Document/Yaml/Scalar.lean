import ObjectFilter.Document.Node
import ObjectFilter.Number.FloatNumeral
import ObjectFilter.Number.Numeral
import ObjectFilter.Number.Width

/-!
# What scalars mean

What a scalar of a YAML document means when it is written without quotes: null, a truth value, a number,
or else a text.  Digits with a zero in front are a text, and so is everything with an underscore.  An
integer that does not fit 64 bits but 128 is no value at all; one that fits neither is a floating-point
number.

A tag of the core types asks for one of these, whether there are quotes or not; a scalar with another
tag is a text, unless the tag belongs to the document, which has no such types.
-/

namespace ObjectFilter.Document.Yaml

open Number (Binary64 Width)

def isNullWord (cs : List Char) : Bool := ["null", "Null", "NULL", "~"].any (·.toList = cs)

def isNull (cs : List Char) : Bool := cs.isEmpty || isNullWord cs

def bool? (cs : List Char) : Option Bool :=
  if ["true", "True", "TRUE"].any (·.toList = cs) then some true
  else if ["false", "False", "FALSE"].any (·.toList = cs) then some false
  else none

/-! ## integers -/

/-- digits with a zero in front of them, which are no number -/
def isPadded (cs : List Char) : Bool :=
  match (Number.takeSign cs).2 with
  | '0' :: digits => !digits.isEmpty && digits.all Char.isDigit
  | _ => false

/-- the number of digits in a radix -/
def digits? (radix : Nat) (cs : List Char) : Option Nat := do
  guard !cs.isEmpty
  let digits ← cs.mapM (Number.digit? radix)
  return digits.foldl (fun n d => radix * n + d) 0

/-- the number of digits behind a zero and the letter of a radix -/
def radixNumber? : List Char → Option Nat
  | '0' :: 'x' :: digits => digits? 16 digits
  | '0' :: 'o' :: digits => digits? 8 digits
  | '0' :: 'b' :: digits => digits? 2 digits
  | _ => none

/-- the integer that a plain scalar stands for, of any size -/
def integer? (cs : List Char) : Option Int := do
  let (negative, body) := Number.takeSign cs
  let n ←
    match radixNumber? body with
    | some n => some n
    | none => if isPadded cs then none else digits? 10 body
  return if negative then -n else n

/-! ## floating-point numbers -/

def float? (cs : List Char) : Option Binary64 :=
  let word := (Number.takeSign cs).2
  let negative := cs.head? = some '-'
  if [".inf", ".Inf", ".INF"].any (·.toList = word) then some (Binary64.infinity negative)
  else if [".nan", ".NaN", ".NAN"].any (·.toList = cs) then some (Binary64.nan false)
  else if cs.head? = some '+' && word.head?.any (fun c => c = '+' || c = '-') then none
  else
    match Binary64.read .double (if cs.head? = some '+' then word else cs) with
    | .ok x => if x.isFinite then some x else none
    | .error _ => none

/-! ## all of them -/

def numberOrText (cs : List Char) : Option Node :=
  match integer? cs with
  | some n =>
    if Width.w64.least ≤ n ∧ n ≤ Width.w64.greatestUnsigned then some (.int n)
    else if -(Nat.pow 2 127 : Nat) ≤ n ∧ n < Nat.pow 2 128 then none
    else
      match float? cs with
      | some x => some (.float x)
      | none => some (.text (String.ofList cs))
  | none =>
    if isPadded cs then some (.text (String.ofList cs))
    else
      match float? cs with
      | some x => some (.float x)
      | none => some (.text (String.ofList cs))

def plain? (cs : List Char) : Option Node :=
  if isNull cs then some .null
  else
    match bool? cs with
    | some b => some (.bool b)
    | none => numberOrText cs

/-! ## tags -/

def coreTag (name : String) : List Char := "tag:yaml.org,2002:".toList ++ name.toList

/-- the integer of 64 bits that a scalar stands for -/
def shortInteger? (cs : List Char) : Option Int := do
  let n ← integer? cs
  if Width.w64.least ≤ n ∧ n ≤ Width.w64.greatestUnsigned then some n else none

def tagged? (tag cs : List Char) : Option Node :=
  if tag.head? = some '!' then none
  else if tag = coreTag "bool" then (bool? cs).map .bool
  else if tag = coreTag "int" then (shortInteger? cs).map .int
  else if tag = coreTag "float" then (float? cs).map .float
  else if tag = coreTag "null" then if isNullWord cs then some .null else none
  else some (.text (String.ofList cs))

example : (plain? "007".toList).bind Node.text? = some "007" := by decide +kernel

end ObjectFilter.Document.Yaml
