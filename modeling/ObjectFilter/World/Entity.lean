import ObjectFilter.World.Members
import ObjectFilter.World.Point

/-!
# The inhabitants of the world

Items, creatures and the compound values among their fields: everything that a predicate over this
world can be asked about.
-/

namespace ObjectFilter.World

open Number (Binary64 Decimal)

/-- a creature that may own items -/
structure Mobile where
  name : String := ""
  serial : UInt32 := 0
  hue : Int32 := 0
deriving DecidableEq, Repr

/-- an item that holds other items -/
structure Container where
  name : Option String := none
  hue : Int32 := 0
  amount : UInt16 := 0
  weight : Binary64 := ⟨0⟩
  material : Material := .iron
  location : Point3D := ⟨0, 0, 0⟩
  movable : Bool := true
  glyph : Char := 'c'
  owner : Option Mobile := none
deriving DecidableEq, Repr

structure Weapon where
  name : Option String := none
  hue : Int32 := 0
  damage : Int64 := 0
  speed : Single := ⟨⟨0⟩⟩
  serial : UInt64 := 0
deriving DecidableEq, Repr

structure Character where
  name : String := ""
  hitPoints : UInt16 := 0
  color : Dye := .red
deriving DecidableEq, Repr

/-- the fields of a gadget that are no references -/
structure Settings where
  typeText : String := ""
  isOn : Bool := false
  tiny : Int8 := 0
  small : Int16 := 0
  normal : Int32 := 0
  wide : Int64 := 0
  byte : UInt8 := 0
  word : UInt16 := 0
  dword : UInt32 := 0
  qword : UInt64 := 0
  ratio : Single := ⟨⟨0⟩⟩
  precise : Binary64 := ⟨0⟩
  letter : Char := '\x00'
  label : Option String := none
  shared : String := ""
  fixed : String := ""
  side : Alignment := .neutral
  extreme : Extreme := .lowest
  serial : UInt32 := 0
  spot : Point3D := ⟨0, 0, 0⟩
  price : Decimal := ⟨false, 0, 0⟩
  size : Int32 := 0
  otherLabel : String := ""
  sigma : String := ""
deriving DecidableEq, Repr

/-- a gadget, which may be a part of another one -/
inductive Gadget
  | mk (settings : Settings) (parent : Option Gadget) (maker : Option Character)

namespace Gadget

def settings : Gadget → Settings
  | mk s _ _ => s

def parent : Gadget → Option Gadget
  | mk _ p _ => p

def maker : Gadget → Option Character
  | mk _ _ m => m

end Gadget

/-- something of the world -/
inductive Entity
  | mobile (m : Mobile)
  | container (c : Container)
  | weapon (w : Weapon)
  | character (c : Character)
  | gadget (g : Gadget)
  /-- something whose every property reads one value, whatever type it is declared with -/
  | odd (value : Value Entity)
  /-- something of a type that is not described -/
  | stranger
  | point (p : Point3D)
  | serial (n : UInt32)
  | decimal (x : Decimal)
  | int32 (n : Int32)
  | byte (n : UInt8)

namespace Entity

def mobile? : Entity → Option Mobile
  | mobile m => some m
  | _ => none

def container? : Entity → Option Container
  | container c => some c
  | _ => none

def weapon? : Entity → Option Weapon
  | weapon w => some w
  | _ => none

def character? : Entity → Option Character
  | character c => some c
  | _ => none

def gadget? : Entity → Option Gadget
  | gadget g => some g
  | _ => none

def point? : Entity → Option Point3D
  | point p => some p
  | _ => none

def typeOf : Entity → TypeKey
  | mobile _ => .named "Mobile"
  | container _ => .named "Container"
  | weapon _ => .named "Weapon"
  | character _ => .named "Character"
  | gadget _ => .named "Gadget"
  | odd _ => .named "Odd"
  | stranger => .named "Stranger"
  | point _ => .named "Point3D"
  | serial _ => .named "Serial"
  | decimal _ => .decimal
  | int32 _ => .signed .w32
  | byte _ => .unsigned .w8

def equal : Entity → Entity → Bool
  | point a, point b => a = b
  | serial a, serial b => a = b
  | decimal a, decimal b => a.same b
  | int32 a, int32 b => a = b
  | byte a, byte b => a = b
  | _, _ => false

def order : Entity → Entity → Ordering
  | serial a, serial b => compare a.toNat b.toNat
  | decimal a, decimal b => a.order b
  | int32 a, int32 b => compare a.toInt b.toInt
  | byte a, byte b => compare a.toNat b.toNat
  | _, _ => .eq

/-- the text of a compound value, or the name of an object -/
def text : Entity → String
  | mobile m => m.name
  | container c => c.name.getD ""
  | weapon w => w.name.getD ""
  | character c => c.name
  | gadget g => g.settings.typeText
  | point p => p.display
  | serial n => toString n.toNat
  | decimal x => x.display
  | int32 n => toString n.toInt
  | byte n => toString n.toNat
  | odd _ | stranger => ""

end Entity
end ObjectFilter.World
