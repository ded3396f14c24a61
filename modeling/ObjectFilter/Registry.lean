import ObjectFilter.Number.FloatNumeral
import ObjectFilter.Number.Numeral
import ObjectFilter.Schema

/-!
# Registries of literal parsers

A registry says how the literals of a type are read, by the key of the type.  The default registry
reads the twelve scalar types and decimals.  A parser that the embedding program registers gives a
compound value of the type it is registered for, and takes the place of the parser that was there.
-/

namespace ObjectFilter

open Number (Width Binary64)

inductive NumberStyle
  | integer
  /-- hexadecimal digits, without the letters in front that mark them -/
  | hex
deriving DecidableEq, Repr

def NumberStyle.radix : NumberStyle → Nat
  | integer => 10
  | hex => 16

inductive Parsed (α : Type)
  | scalar (value : Value α)
  | compound (value : α)
deriving DecidableEq, Repr

/-- a parser of literals; an error is its reason -/
inductive Parser (α : Type)
  /-- reads the digits of a literal in the notation it was written in -/
  | styled (parse : String → NumberStyle → Except String (Parsed α))
  /-- reads the text of a literal as it is -/
  | plain (parse : String → Except String (Parsed α))

namespace Parser

variable {α : Type}

/-- reads a text; a parser without notations reads it as it is -/
def run : Parser α → String → NumberStyle → Except String (Parsed α)
  | styled parse, text, style => parse text style
  | plain parse, text, _ => parse text

/-! ## the scalar types -/

/-- integers of a signed type; hexadecimal digits are its bit pattern -/
def signed (w : Width) : Parser α :=
  .styled fun text style =>
    let number :=
      match style with
      | .integer => Number.readSigned w text.toList
      | .hex => (Number.readUnsigned w style.radix text.toList).map w.reinterpret
    (number.map fun n => .scalar (.int (Int64.ofInt n))).mapError Number.NumeralError.message

def unsigned (w : Width) : Parser α :=
  .styled fun text style =>
    let number := Number.readUnsigned w style.radix text.toList
    (number.map fun n => .scalar (.uint (UInt64.ofNat n))).mapError Number.NumeralError.message

/-- numbers of a floating-point format -/
def float (f : Binary64.Format) : Parser α :=
  .plain fun text =>
    ((Binary64.read f text.toList).map fun x => .scalar (.float x)).mapError
      Number.FloatNumeralError.message

/-- the two truth values, in any case -/
def bool : Parser α :=
  .plain fun text =>
    let word := Text.asciiLower text.toList
    if word = "true".toList then .ok (.scalar (.bool true))
    else if word = "false".toList then .ok (.scalar (.bool false))
    else .error "expected true or false"

/-- a text of one character -/
def char : Parser α :=
  .plain fun text =>
    match text.toList with
    | [c] => .ok (.scalar (.char c))
    | _ => .error "expected exactly one character"

def decimal [Schema α] : Parser α :=
  .plain fun text =>
    ((Number.Decimal.read text.toList).map fun x => .compound (Schema.ofDecimal x)).mapError
      Number.DecimalError.message

end Parser

structure Registry (α : Type) where
  entries : List (TypeKey × Parser α)

namespace Registry

section
variable {α : Type}

def empty : Registry α := ⟨[]⟩

def get? (r : Registry α) (key : TypeKey) : Option (Parser α) :=
  (r.entries.find? (·.1 = key)).map (·.2)

def contains (r : Registry α) (key : TypeKey) : Bool := (r.get? key).isSome

def size (r : Registry α) : Nat := r.entries.length

def isEmpty (r : Registry α) : Bool := r.entries.isEmpty

def insert (r : Registry α) (key : TypeKey) (parser : Parser α) : Registry α :=
  ⟨(key, parser) :: r.entries.filter (·.1 ≠ key)⟩

def ofList (entries : List (TypeKey × Parser α)) : Registry α :=
  entries.foldl (fun r e => r.insert e.1 e.2) empty

/-- the parsers of the twelve scalar types -/
def scalarParsers : List (TypeKey × Parser α) :=
  [.w8, .w16, .w32, .w64].map (fun w => (.signed w, .signed w))
    ++ [.w8, .w16, .w32, .w64].map (fun w => (.unsigned w, .unsigned w))
    ++ [(.single, .float .single), (.double, .float .double), (.bool, .bool), (.char, .char)]

end

variable {α : Type} [Schema α]

/-- the parsers of the scalar types and of decimals -/
def defaults : Registry α := ofList (scalarParsers ++ [(.decimal, .decimal)])

/-- the registry with a parser of compound values of a type -/
def register (r : Registry α) (key : TypeKey)
    (parse : String → Except String (Instance α key)) : Registry α :=
  r.insert key (.plain fun text => (parse text).map fun v => .compound v.1)

/-- the registry with a parser of compound values that are written as numbers -/
def registerStyled (r : Registry α) (key : TypeKey)
    (parse : String → NumberStyle → Except String (Instance α key)) : Registry α :=
  r.insert key (.styled fun text style => (parse text style).map fun v => .compound v.1)

/-! ## small facts -/

omit [Schema α] in
theorem get?_insert_self (r : Registry α) (key : TypeKey) (parser : Parser α) :
    (r.insert key parser).get? key = some parser := by
  simp [get?, insert]

omit [Schema α] in
theorem get?_insert_of_ne (r : Registry α) {key k : TypeKey} (parser : Parser α) (h : k ≠ key) :
    (r.insert key parser).get? k = r.get? k := by
  have hk : key ≠ k := fun e => h e.symm
  simp only [get?, insert, List.find?_cons, hk, decide_false, List.find?_filter]
  congr 2
  funext e
  by_cases he : e.1 = k <;> simp [he, h]

end Registry
end ObjectFilter
