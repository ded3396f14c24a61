import ObjectFilter.Proofs.Condition.Matching
import ObjectFilter.Proofs.Property.Path
import ObjectFilter.World.Parsers

/-!
# The world is typed

Containers, weapons, mobiles, characters and gadgets read what their properties declare, and refer to each
other only.  So no comparison of a predicate over them falls back on the order of the kinds, however
long the paths and whatever is registered for types that are no scalars.
-/

namespace ObjectFilter.World

open Property (gadgetLink)

/-! ## fields of the world -/

instance : LawfulField Entity Point3D := ⟨fun _ => .custom rfl⟩

instance : LawfulField Entity Number.Decimal := ⟨fun _ => .custom rfl⟩

instance : LawfulField Entity Serial := ⟨fun _ => .custom rfl⟩

theorem hasKind_reference {β : Type} {object : β → Entity} {key : TypeKey}
    (hobject : ∀ b, Entity.typeOf (object b) = key) (b : Option β) :
    (reference object b).HasKind (.object key) := by
  cases b with
  | none => exact .null rfl
  | some b => exact .object (hobject b)

instance : LawfulField Entity (Option Mobile) := ⟨hasKind_reference fun _ => rfl⟩

instance : LawfulField Entity (Option Character) := ⟨hasKind_reference fun _ => rfl⟩

instance : LawfulField Entity (Option Gadget) := ⟨hasKind_reference fun _ => rfl⟩

/-! ## properties of the world -/

section
variable {a : Entity}

theorem isSome_mobile? (h : Schema.typeOf a = .named "Mobile") : a.mobile?.isSome = true := by
  cases a <;> simp_all [Schema.typeOf, Entity.typeOf, Entity.mobile?]

theorem isSome_container? (h : Schema.typeOf a = .named "Container") :
    a.container?.isSome = true := by
  cases a <;> simp_all [Schema.typeOf, Entity.typeOf, Entity.container?]

theorem isSome_weapon? (h : Schema.typeOf a = .named "Weapon") : a.weapon?.isSome = true := by
  cases a <;> simp_all [Schema.typeOf, Entity.typeOf, Entity.weapon?]

theorem isSome_character? (h : Schema.typeOf a = .named "Character") :
    a.character?.isSome = true := by
  cases a <;> simp_all [Schema.typeOf, Entity.typeOf, Entity.character?]

theorem isSome_gadget? (h : Schema.typeOf a = .named "Gadget") : a.gadget?.isSome = true := by
  cases a <;> simp_all [Schema.typeOf, Entity.typeOf, Entity.gadget?]

end

theorem readsKind_mobile : ∀ d ∈ mobileProperties, d.ReadsKind (.named "Mobile") := by
  simp only [mobileProperties, List.forall_mem_cons]
  and_intros
  all_goals first
    | exact readsKind_ofField (fun _ => isSome_mobile?) _ _
    | exact List.forall_mem_nil _

theorem readsKind_container : ∀ d ∈ containerProperties, d.ReadsKind (.named "Container") := by
  simp only [containerProperties, List.forall_mem_cons]
  and_intros
  all_goals first
    | exact readsKind_ofField (fun _ => isSome_container?) _ _
    | exact List.forall_mem_nil _

theorem readsKind_weapon : ∀ d ∈ weaponProperties, d.ReadsKind (.named "Weapon") := by
  simp only [weaponProperties, List.forall_mem_cons]
  and_intros
  all_goals first
    | exact readsKind_ofField (fun _ => isSome_weapon?) _ _
    | exact List.forall_mem_nil _

theorem readsKind_character : ∀ d ∈ characterProperties, d.ReadsKind (.named "Character") := by
  simp only [characterProperties, List.forall_mem_cons]
  and_intros
  all_goals first
    | exact readsKind_ofField (fun _ => isSome_character?) _ _
    | exact List.forall_mem_nil _

theorem readsKind_gadget : ∀ d ∈ gadgetProperties, d.ReadsKind (.named "Gadget") := by
  simp only [gadgetProperties, setting, List.forall_mem_cons]
  and_intros
  all_goals first
    | exact readsKind_ofField (fun _ => isSome_gadget?) _ _
    | exact List.forall_mem_nil _

/-! ## the types of the world -/

/-- the types that refer to each other only -/
def describedTypes : List TypeKey :=
  [.named "Container", .named "Weapon", .named "Mobile", .named "Character", .named "Gadget"]

/-- the key that a declared type refers to is one of the list -/
def refersWithin (keys : List TypeKey) (d : PropertyDescriptor Entity) : Bool :=
  match d.type with
  | .object key => key ∈ keys
  | _ => true

theorem refersWithin_described :
    ∀ key ∈ describedTypes, ∀ d ∈ (describe key).properties,
      refersWithin describedTypes d = true := by
  decide

theorem closedTypes : ClosedTypes Entity describedTypes where
  reads := by
    simp only [describedTypes, List.forall_mem_cons]
    exact ⟨readsKind_container, readsKind_weapon, readsKind_mobile, readsKind_character,
      readsKind_gadget, by simp⟩
  refers key hkey d hd other hother := by
    have hwithin := refersWithin_described key hkey d hd
    unfold refersWithin at hwithin
    rw [hother] at hwithin
    exact of_decide_eq_true hwithin

theorem compile_isMatched {r : Registry Entity} (hr : r.Built) (typeGuard : Bool)
    {target : TypeKey} (htarget : target ∈ describedTypes) {conditions : List (Condition Entity)}
    (hbound : ∀ condition ∈ conditions, ∀ p, condition.property? = some p → p.IsBound)
    {predicate : Predicate Entity}
    (h : ((⟨r, typeGuard⟩ : Compiler Entity).compile target conditions).result = .ok predicate)
    {prepared : PreparedCondition Entity} (hmem : prepared ∈ predicate.conditions) {a : Entity}
    (ha : Schema.typeOf a = target) :
    prepared.test.IsMatched a ∧ ∀ p, prepared.test.property? = some p → p.read a = .null →
      p.type.isReference = true ∨ p.HasNullLink a :=
  isMatched_of_compile closedTypes hr htarget hbound h hmem ha

/-- `Parent.Parent.Serial`, a compound value with an order -/
def serialOfGrandparent : Property Entity :=
  ⟨.named "Gadget", [gadgetLink ⟨21, by decide⟩, gadgetLink ⟨21, by decide⟩],
    gadgetLink ⟨18, by decide⟩⟩

/-- a gadget behind two others, whose serial number is given -/
def nestedGadget (serial : UInt32) : Entity :=
  .gadget (.mk {} (some (.mk {} (some (.mk { serial := serial } none none)) none)) none)

/-- `Parent.Parent.Serial > 0x1F` -/
def grandparentAbove31 : ComparisonCondition Entity :=
  ⟨serialOfGrandparent, .greater, .text "0x1F", false⟩

/-- serial numbers are read from literals, and the one behind two links is compared with 31 -/
theorem compile_isMatched_nested :
    ∃ predicate : Predicate Entity,
      ((⟨registerSerial registry, true⟩ : Compiler Entity).compile (.named "Gadget")
        [.comparison grandparentAbove31]).result = .ok predicate ∧
      (∀ prepared ∈ predicate.conditions, prepared.test.IsMatched (nestedGadget 40)) ∧
      ∃ o, (Comparator.custom serialType).comparePresent?
        (serialOfGrandparent.read (nestedGadget 40)) (.custom (.serial 31)) = some o := by
  have hbuilt : (registerSerial registry).Built :=
    .registerStyled (.register .defaults rfl _) rfl _
  have hpath : Property.bind (.named "Gadget") "Parent.Parent.Serial"
      = .ok serialOfGrandparent := by
    decide +kernel
  have hbound : ∀ condition ∈ [Condition.comparison grandparentAbove31], ∀ p,
      condition.property? = some p → p.IsBound := by
    rintro condition hcondition p hp
    rw [List.mem_singleton.mp hcondition] at hp
    cases hp
    exact ⟨_, hpath⟩
  obtain ⟨predicate, hcompile, hmem⟩ : ∃ predicate : Predicate Entity,
      ((⟨registerSerial registry, true⟩ : Compiler Entity).compile (.named "Gadget")
        [.comparison grandparentAbove31]).result = .ok predicate ∧
      grandparentAbove31.prepared (.slot ⟨.serial 31, "Serial", "0x1F"⟩) ∈
        predicate.conditions :=
    ⟨_, rfl, List.mem_cons_of_mem _ List.mem_cons_self⟩
  have hmatched : ∀ prepared ∈ predicate.conditions,
      prepared.test.IsMatched (nestedGadget 40) := fun prepared hprepared =>
    (compile_isMatched hbuilt true (by decide) hbound hcompile hprepared rfl).1
  obtain ⟨o, ho, -⟩ := hmatched _ hmem (nomatch ·) (nomatch ·)
  exact ⟨predicate, hcompile, hmatched, o, ho⟩

end ObjectFilter.World
