import ObjectFilter.World.Entity

/-!
# The types of the world

Every type with its properties in order.  Gadgets refer to gadgets, so the types refer to each other in
a circle.  One gadget property is hidden behind another whose name differs only in case.
-/

namespace ObjectFilter.World

open Number (Decimal)

/-! ## types of fields -/

def pointType : CustomType := ⟨"Point3D", .named "Point3D", false⟩

def serialType : CustomType := ⟨"Serial", .named "Serial", true⟩

def decimalType : CustomType := ⟨"Decimal", .decimal, true⟩

instance : Field Entity Point3D := ⟨.custom pointType, fun p => .custom (.point p)⟩

instance : Field Entity Decimal := ⟨.custom decimalType, fun x => .custom (.decimal x)⟩

structure Serial where
  number : UInt32
deriving DecidableEq, Repr

instance : Field Entity Serial := ⟨.custom serialType, fun s => .custom (.serial s.number)⟩

/-- a reference to an object, or null -/
def reference {β : Type} (object : β → Entity) : Option β → Value Entity
  | some b => .object (object b)
  | none => .null

instance : Field Entity (Option Mobile) := ⟨.object (.named "Mobile"), reference .mobile⟩

instance : Field Entity (Option Character) := ⟨.object (.named "Character"), reference .character⟩

instance : Field Entity (Option Gadget) := ⟨.object (.named "Gadget"), reference .gadget⟩

/-! ## properties -/

def mobileProperties : List (PropertyDescriptor Entity) :=
  [.ofField Entity.mobile? "Name" Mobile.name,
   .ofField Entity.mobile? "Serial" Mobile.serial,
   .ofField Entity.mobile? "Hue" Mobile.hue]

def containerProperties : List (PropertyDescriptor Entity) :=
  [.ofField Entity.container? "Name" Container.name,
   .ofField Entity.container? "Hue" Container.hue,
   .ofField Entity.container? "Amount" Container.amount,
   .ofField Entity.container? "Weight" Container.weight,
   .ofField Entity.container? "Material" Container.material,
   .ofField Entity.container? "Location" Container.location,
   .ofField Entity.container? "Movable" Container.movable,
   .ofField Entity.container? "Glyph" Container.glyph,
   .ofField Entity.container? "Owner" Container.owner]

def weaponProperties : List (PropertyDescriptor Entity) :=
  [.ofField Entity.weapon? "Name" Weapon.name,
   .ofField Entity.weapon? "Hue" Weapon.hue,
   .ofField Entity.weapon? "Damage" Weapon.damage,
   .ofField Entity.weapon? "Speed" Weapon.speed,
   .ofField Entity.weapon? "Serial" Weapon.serial]

def characterProperties : List (PropertyDescriptor Entity) :=
  [.ofField Entity.character? "Name" Character.name,
   .ofField Entity.character? "HitPoints" Character.hitPoints,
   .ofField Entity.character? "Color" Character.color]

def setting {β : Type} [Field Entity β] (name : String) (field : Settings → β) :
    PropertyDescriptor Entity :=
  .ofField Entity.gadget? name fun g => field g.settings

def gadgetProperties : List (PropertyDescriptor Entity) :=
  [setting "Type" Settings.typeText,
   setting "IsOn" Settings.isOn,
   setting "Tiny" Settings.tiny,
   setting "Small" Settings.small,
   setting "Normal" Settings.normal,
   setting "Wide" Settings.wide,
   setting "Byte" Settings.byte,
   setting "Word" Settings.word,
   setting "Dword" Settings.dword,
   setting "Qword" Settings.qword,
   setting "Ratio" Settings.ratio,
   setting "PreciseValue" Settings.precise,
   setting "Letter" Settings.letter,
   setting "Label" Settings.label,
   setting "Shared" Settings.shared,
   setting "Fixed" Settings.fixed,
   setting "Side" Settings.side,
   setting "Extreme" Settings.extreme,
   setting "Serial" fun s => Serial.mk s.serial,
   setting "Spot" Settings.spot,
   setting "Price" Settings.price,
   .ofField Entity.gadget? "Parent" Gadget.parent,
   .ofField Entity.gadget? "Maker" Gadget.maker,
   setting "Größe" Settings.size,
   setting "LABEL" Settings.otherLabel,
   setting "Σας" Settings.sigma]

/-- a property of odd things, which all read the same value -/
def oddProperty (name : String) (type : ValueType) : PropertyDescriptor Entity where
  name := name
  type := type
  read
    | .odd value => value
    | _ => .null

def oddProperties : List (PropertyDescriptor Entity) :=
  [oddProperty "AsBool" .bool,
   oddProperty "AsChar" .char,
   oddProperty "AsInt" (.signed .w32),
   oddProperty "AsUInt" (.unsigned .w64),
   oddProperty "AsFloat" .double,
   oddProperty "AsText" .text,
   oddProperty "AsEnum" (.enum material),
   oddProperty "AsPoint" (.custom pointType),
   oddProperty "AsSerial" (.custom serialType),
   oddProperty "AsObject" (.object (.named "Mobile"))]

/-! ## the schema -/

def describe : TypeKey → TypeDescriptor Entity
  | .named "Mobile" => ⟨.named "Mobile", "Mobile", mobileProperties⟩
  | .named "Container" => ⟨.named "Container", "Container", containerProperties⟩
  | .named "Weapon" => ⟨.named "Weapon", "Weapon", weaponProperties⟩
  | .named "Character" => ⟨.named "Character", "Player", characterProperties⟩
  | .named "Gadget" => ⟨.named "Gadget", "Gadget", gadgetProperties⟩
  | .named "Odd" => ⟨.named "Odd", "Odd", oddProperties⟩
  | key => ⟨key, "", []⟩

instance : Schema Entity where
  typeOf := Entity.typeOf
  equal := Entity.equal
  order := Entity.order
  ofDecimal := .decimal
  descriptor := describe
  typeOf_ofDecimal _ := rfl
  key_descriptor key := by unfold describe; split <;> rfl

end ObjectFilter.World
