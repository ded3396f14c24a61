import ObjectFilter.Enumeration
import ObjectFilter.Number.Shortest
import ObjectFilter.Number.Width

/-!
# Values

What a property reads and what a literal holds.  Integers are widened to 64 bits; `α` is the type of
everything of the embedding program that is no scalar: compound values, and objects with properties
of their own.
-/

namespace ObjectFilter

open Number (Binary64 Width)

/-- a value read from a candidate or held by a literal -/
inductive Value (α : Type)
  | null
  | bool (b : Bool)
  | char (c : Char)
  | int (n : Int64)
  | uint (n : UInt64)
  | float (x : Binary64)
  | text (s : String)
  | enum (v : EnumValue)
  | custom (a : α)
  | object (a : α)
deriving DecidableEq, Repr

namespace Value

variable {α : Type}

def isNull : Value α → Bool
  | null => true
  | _ => false

def asBool? : Value α → Option Bool
  | bool b => some b
  | _ => none

def asChar? : Value α → Option Char
  | char c => some c
  | _ => none

/-- an integer of either kind, if it fits signed integers -/
def asInt? : Value α → Option Int64
  | int n => some n
  | uint n => if (n.toNat : Int) ≤ Width.w64.greatest then some (Int64.ofNat n.toNat) else none
  | _ => none

/-- an integer of either kind, if it fits unsigned integers -/
def asUInt? : Value α → Option UInt64
  | uint n => some n
  | int n => if 0 ≤ n.toInt then some (UInt64.ofNat n.toInt.toNat) else none
  | _ => none

def asFloat? : Value α → Option Binary64
  | float x => some x
  | _ => none

def asText? : Value α → Option String
  | text s => some s
  | _ => none

def asEnum? : Value α → Option EnumValue
  | enum v => some v
  | _ => none

def asAny? : Value α → Option α
  | custom a | object a => some a
  | _ => none

/-- the value apart from any candidate; compound values and objects stay with theirs -/
def detached? : Value α → Option (Value α)
  | custom _ | object _ => none
  | v => some v

/-- the place of the kind of value in the order of the kinds -/
def rank : Value α → Nat
  | null => 0
  | bool _ => 1
  | char _ => 2
  | int _ => 3
  | uint _ => 4
  | float _ => 5
  | text _ => 6
  | enum _ => 7
  | custom _ => 8
  | object _ => 9

def display : Value α → String
  | null => "null"
  | bool b => toString b
  | char c => String.ofList ['\'', c, '\'']
  | int n => toString n.toInt
  | uint n => toString n.toNat
  | float x => x.display
  | text s => "\"" ++ s ++ "\""
  | enum v => v.display
  | custom _ => "<custom>"
  | object _ => "<object>"

end Value
end ObjectFilter
