import ObjectFilter.Number.Shortest

/-!
# Literals as they are supplied

A literal before it is resolved: text to be read against the type of a property, or a scalar that is
already typed.  Floating-point literals are the same if their bits are, so that a literal can be
part of a key.
-/

namespace ObjectFilter

open Number (Binary64)

/-- a literal before it is resolved -/
inductive RawLiteral
  | text (s : String)
  | null
  | bool (b : Bool)
  | char (c : Char)
  | int (n : Int64)
  | uint (n : UInt64)
  | float (x : Binary64)
deriving DecidableEq, Repr

namespace RawLiteral

def isText : RawLiteral → Bool
  | text _ => true
  | _ => false

def display : RawLiteral → String
  | text s => s
  | null => "null"
  | bool b => toString b
  | char c => String.ofList [c]
  | int n => toString n.toInt
  | uint n => toString n.toNat
  | float x => x.display

end RawLiteral
end ObjectFilter
