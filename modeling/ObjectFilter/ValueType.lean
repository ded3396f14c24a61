import ObjectFilter.Enumeration
import ObjectFilter.Number.Width

/-!
# Declared types

The type that a property is declared with.  A `TypeKey` is the identity of a type of the embedding
program; every declared type but text and the enumerations has one, and a compound type is told
apart by its key alone, whatever name it was declared under.
-/

namespace ObjectFilter

open Number (Width)

/-- the identity of a type of the embedding program -/
inductive TypeKey
  | bool
  | char
  | signed (width : Width)
  | unsigned (width : Width)
  | single
  | double
  | decimal
  | named (id : String)
deriving DecidableEq, Repr

/-- a compound type: values that are neither scalars nor text nor members of an enumeration -/
structure CustomType where
  name : String
  key : TypeKey
  /-- declared with an order, not only with an equality -/
  ordered : Bool
deriving DecidableEq, Repr

inductive ValueType
  | bool
  | char
  | signed (width : Width)
  | unsigned (width : Width)
  | single
  | double
  /-- text, or null -/
  | text
  | enum (enumeration : Enumeration)
  | custom (type : CustomType)
  /-- an object whose properties can be read in turn, or null -/
  | object (key : TypeKey)
deriving DecidableEq, Repr

namespace ValueType

/-- scalars, whose literals are constants -/
def isPrimitive : ValueType → Bool
  | text | enum _ | custom _ | object _ => false
  | _ => true

/-- types with a null value -/
def isReference : ValueType → Bool
  | text | object _ => true
  | _ => false

def isEnumeration : ValueType → Bool
  | enum _ => true
  | _ => false

/-- types whose values have an order -/
def isOrdered : ValueType → Bool
  | custom type => type.ordered
  | object _ => false
  | _ => true

/-- the key that a parser of the type's literals is registered under; text and enumerations are
read without one -/
def key? : ValueType → Option TypeKey
  | bool => some .bool
  | char => some .char
  | signed w => some (.signed w)
  | unsigned w => some (.unsigned w)
  | single => some .single
  | double => some .double
  | custom type => some type.key
  | object key => some key
  | text | enum _ => none

def signedRange? : ValueType → Option (Int × Int)
  | signed w => some (w.least, w.greatest)
  | _ => none

def unsignedMax? : ValueType → Option Nat
  | unsigned w => some w.greatestUnsigned
  | _ => none

/-- whether two declared types are one; compound types and objects go by their key -/
def same : ValueType → ValueType → Bool
  | custom a, custom b => a.key = b.key
  | a, b => a = b

/-- the name of the type, given the names of the objects' types -/
def nameWith (objectName : TypeKey → String) : ValueType → String
  | bool => "bool"
  | char => "char"
  | signed w => s!"i{w.bits}"
  | unsigned w => s!"u{w.bits}"
  | single => "f32"
  | double => "f64"
  | text => "text"
  | enum e => e.name
  | custom type => type.name
  | object key => objectName key

end ValueType
end ObjectFilter
