import ObjectFilter.Catalog
import ObjectFilter.Registry
import ObjectFilter.World.Types

/-!
# The literals and the catalog of the world

Parsers for the compound types of the world, the registry that reads points, and the catalog of the types
that predicates are usually about.
-/

namespace ObjectFilter.World

def registerPoint (r : Registry Entity) : Registry Entity :=
  r.register (.named "Point3D") fun text =>
    ((Point3D.read text).map fun p => ⟨.point p, rfl⟩).mapError PointError.message

def registerSerial (r : Registry Entity) : Registry Entity :=
  r.registerStyled (.named "Serial") fun text style =>
    ((Number.readUnsigned .w32 style.radix text.toList).map fun n =>
      ⟨.serial (UInt32.ofNat n), rfl⟩).mapError Number.NumeralError.message

/-- registers decimal numerals for 32-bit integers, as compound values -/
def registerInt32 (r : Registry Entity) : Registry Entity :=
  r.register (.signed .w32) fun text =>
    ((Number.readSigned .w32 text.toList).map fun n =>
      ⟨.int32 (Int32.ofInt n), rfl⟩).mapError Number.NumeralError.message

/-- registers numerals for bytes, as compound values -/
def registerByte (r : Registry Entity) : Registry Entity :=
  r.registerStyled (.unsigned .w8) fun text style =>
    ((Number.readUnsigned .w8 style.radix text.toList).map fun n =>
      ⟨.byte (UInt8.ofNat n), rfl⟩).mapError Number.NumeralError.message

def registerMobile (r : Registry Entity) : Registry Entity :=
  r.register (.named "Mobile") fun text =>
    if text.isEmpty then .error "a mobile needs a name"
    else .ok ⟨.mobile { name := text }, rfl⟩

/-- the default registry, and points -/
def registry : Registry Entity := registerPoint .defaults

/-- the types that predicates are usually about -/
def catalog : Catalog Entity := .ofList [.named "Container", .named "Weapon", .named "Mobile"]

end ObjectFilter.World
