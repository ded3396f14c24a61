import ObjectFilter.Schema

/-!
# Fields

Which types of fields can be properties, with the declared type of the property and the value that is
read from the field.  `PropertyDescriptor.ofField` makes a property from a field of a record.
-/

namespace ObjectFilter

open Number (Binary64)

/-- a single-precision number, widened -/
structure Single where
  widened : Binary64
deriving DecidableEq, Repr

def Single.ofDouble (x : Binary64) : Single := ⟨x.toSingle⟩

/-- a type whose values are the members of an enumeration -/
class Enumerated (β : Type) where
  enumeration : Enumeration
  discriminant : β → Int64

/-- a type of fields that can be properties -/
class Field (α β : Type) where
  type : ValueType
  value : β → Value α

namespace Field

variable {α : Type}

instance : Field α Bool := ⟨.bool, .bool⟩

instance : Field α Char := ⟨.char, .char⟩

instance : Field α Int8 := ⟨.signed .w8, fun n => .int n.toInt64⟩

instance : Field α Int16 := ⟨.signed .w16, fun n => .int n.toInt64⟩

instance : Field α Int32 := ⟨.signed .w32, fun n => .int n.toInt64⟩

instance : Field α Int64 := ⟨.signed .w64, .int⟩

instance : Field α UInt8 := ⟨.unsigned .w8, fun n => .uint n.toUInt64⟩

instance : Field α UInt16 := ⟨.unsigned .w16, fun n => .uint n.toUInt64⟩

instance : Field α UInt32 := ⟨.unsigned .w32, fun n => .uint n.toUInt64⟩

instance : Field α UInt64 := ⟨.unsigned .w64, .uint⟩

instance : Field α Single := ⟨.single, fun x => .float x.widened⟩

instance : Field α Binary64 := ⟨.double, .float⟩

instance : Field α String := ⟨.text, .text⟩

instance : Field α (Option String) :=
  ⟨.text, fun
    | some s => .text s
    | none => .null⟩

instance (priority := low) {β : Type} [Enumerated β] : Field α β :=
  ⟨.enum (Enumerated.enumeration β),
    fun m => .enum ⟨Enumerated.enumeration β, Enumerated.discriminant m⟩⟩

end Field

/-- a property that reads a field of a record; things that are no such record read null -/
def PropertyDescriptor.ofField {α γ β : Type} [Field α β] (record? : α → Option γ) (name : String)
    (field : γ → β) : PropertyDescriptor α where
  name := name
  type := Field.type α β
  read a :=
    match record? a with
    | some r => Field.value (field r)
    | none => .null

end ObjectFilter
