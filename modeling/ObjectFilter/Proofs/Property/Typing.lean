import ObjectFilter.Field
import ObjectFilter.Proofs.Outcome
import ObjectFilter.Proofs.Property.Reading

/-!
# The kinds of what is read

Every declared type has a kind of values.  A property of a field reads values of the kind of its type, and
so does a bound path, as long as no link on the way reads null: each of its links is declared by the
type that the link before refers to.

* `readsKind_ofField`      a property of a field;
* `connects_of_bind`       the types along a bound path;
* `hasKind_or_nullLink`    a bound path reads a value of its kind, or has a null link.
-/

namespace ObjectFilter

open Number (Width Binary64)

variable {α : Type} [Schema α]

/-! ## kinds -/

/-- the value is of the kind that a declared type has -/
inductive Value.HasKind : Value α → ValueType → Prop
  | null {t : ValueType} (h : t.isReference = true) : HasKind .null t
  | bool (b : Bool) : HasKind (.bool b) .bool
  | char (c : Char) : HasKind (.char c) .char
  | int (n : Int64) (w : Width) : HasKind (.int n) (.signed w)
  | uint (n : UInt64) (w : Width) : HasKind (.uint n) (.unsigned w)
  | single (x : Binary64) : HasKind (.float x) .single
  | double (x : Binary64) : HasKind (.float x) .double
  | text (s : String) : HasKind (.text s) .text
  | enum (e : Enumeration) (d : Int64) : HasKind (.enum ⟨e, d⟩) (.enum e)
  | custom {t : CustomType} {a : α} (h : Schema.typeOf a = t.key) : HasKind (.custom a) (.custom t)
  | object {key : TypeKey} {a : α} (h : Schema.typeOf a = key) : HasKind (.object a) (.object key)

theorem Value.HasKind.isReference_of_null {v : Value α} {t : ValueType} (h : v.HasKind t)
    (hnull : v = .null) : t.isReference = true := by
  cases h with
  | null h => exact h
  | _ => cases hnull

theorem Value.HasKind.of_object {v : Value α} {key : TypeKey} (h : v.HasKind (.object key)) :
    (∃ a, v = .object a ∧ Schema.typeOf a = key) ∨ v = .null := by
  cases h with
  | null h => exact .inr rfl
  | object h => exact .inl ⟨_, rfl, h⟩

/-! ## fields -/

/-- a type of fields whose values are of the kind of the declared type -/
class LawfulField (α β : Type) [Schema α] [Field α β] : Prop where
  hasKind (b : β) : (Field.value b : Value α).HasKind (Field.type α β)

instance : LawfulField α Bool := ⟨.bool⟩

instance : LawfulField α Char := ⟨.char⟩

instance : LawfulField α Int8 := ⟨fun _ => .int _ _⟩

instance : LawfulField α Int16 := ⟨fun _ => .int _ _⟩

instance : LawfulField α Int32 := ⟨fun _ => .int _ _⟩

instance : LawfulField α Int64 := ⟨fun n => .int n _⟩

instance : LawfulField α UInt8 := ⟨fun _ => .uint _ _⟩

instance : LawfulField α UInt16 := ⟨fun _ => .uint _ _⟩

instance : LawfulField α UInt32 := ⟨fun _ => .uint _ _⟩

instance : LawfulField α UInt64 := ⟨fun n => .uint n _⟩

instance : LawfulField α Single := ⟨fun x => .single x.widened⟩

instance : LawfulField α Binary64 := ⟨.double⟩

instance : LawfulField α String := ⟨.text⟩

instance : LawfulField α (Option String) where
  hasKind
    | some s => .text s
    | none => .null rfl

instance (priority := low) {β : Type} [Enumerated β] : LawfulField α β := ⟨fun _ => .enum _ _⟩

/-- what the property reads from the objects of a type is of the kind of its declared type -/
def PropertyDescriptor.ReadsKind (d : PropertyDescriptor α) (owner : TypeKey) : Prop :=
  ∀ a, Schema.typeOf a = owner → (d.read a).HasKind d.type

theorem readsKind_ofField {β γ : Type} [Field α β] [LawfulField α β] {record? : α → Option γ}
    {owner : TypeKey} (hrecord : ∀ a, Schema.typeOf a = owner → (record? a).isSome = true)
    (name : String) (field : γ → β) :
    (PropertyDescriptor.ofField record? name field).ReadsKind owner := by
  intro a ha
  obtain ⟨r, hr⟩ := Option.isSome_iff_exists.mp (hrecord a ha)
  have hread : (PropertyDescriptor.ofField record? name field).read a = Field.value (field r) := by
    unfold PropertyDescriptor.ofField
    simp only [hr]
  rw [hread]
  exact LawfulField.hasKind (field r)

/-! ## types that refer to each other -/

/-- the properties of the types read what they declare, and refer to no other types -/
structure ClosedTypes (α : Type) [Schema α] (keys : List TypeKey) : Prop where
  reads : ∀ key ∈ keys, ∀ d ∈ (Schema.descriptor key : TypeDescriptor α).properties,
    d.ReadsKind key
  refers : ∀ key ∈ keys, ∀ d ∈ (Schema.descriptor key : TypeDescriptor α).properties,
    ∀ other, d.type = .object other → other ∈ keys

/-- links from one type to another: each is declared by the type that the one before refers to -/
inductive Connects : TypeKey → List (Link α) → TypeKey → Prop
  | nil (key : TypeKey) : Connects key [] key
  | cons {link : Link α} {rest : List (Link α)} {key last : TypeKey}
      (h : link.type = .object key) (hrest : Connects key rest last) :
      Connects link.owner (link :: rest) last

theorem Link.declared_mem (l : Link α) :
    l.declared ∈ (Schema.descriptor l.owner : TypeDescriptor α).properties := List.getElem_mem _

namespace ClosedTypes

variable {keys : List TypeKey} (hclosed : ClosedTypes α keys)
include hclosed

theorem hasKind_link {l : Link α} (hl : l.owner ∈ keys) {a : α}
    (ha : Schema.typeOf a = l.owner) : (l.read a).HasKind l.type :=
  hclosed.reads l.owner hl l.declared l.declared_mem a ha

theorem mem_of_object {l : Link α} (hl : l.owner ∈ keys) {key : TypeKey}
    (htype : l.type = .object key) : key ∈ keys :=
  hclosed.refers l.owner hl l.declared l.declared_mem key htype

theorem mem_of_connects {owner last : TypeKey} {links : List (Link α)}
    (h : Connects owner links last) (howner : owner ∈ keys) : last ∈ keys := by
  induction h with
  | nil key => exact howner
  | @cons link rest key last htype hrest ih =>
    exact ih (hclosed.mem_of_object howner htype)

/-- links that connect two types lead from an object of the one to an object of the other, or one of
them reads null -/
theorem leads_or_null {owner last : TypeKey} {links : List (Link α)}
    (h : Connects owner links last) (howner : owner ∈ keys) {a : α}
    (ha : Schema.typeOf a = owner) :
    (∃ b, Leads links a b ∧ Schema.typeOf b = last) ∨
      ∃ before link after b, links = before ++ link :: after ∧ Leads before a b ∧
        link.read b = .null := by
  induction h generalizing a with
  | nil key => exact .inl ⟨a, .nil a, ha⟩
  | @cons link rest key last htype hrest ih =>
    have hkind : (link.read a).HasKind (.object key) := by
      rw [← htype]
      exact hclosed.hasKind_link howner ha
    -- the first link reads an object of the type that the rest starts from, or ends the way
    rcases hkind.of_object with ⟨b, hread, hb⟩ | hnull
    · have hkey : key ∈ keys := hclosed.mem_of_object howner htype
      rcases ih hkey hb with ⟨c, hleads, hc⟩ | ⟨before, other, after, c, rfl, hleads, hnull⟩
      · exact .inl ⟨c, .cons hread hleads, hc⟩
      · exact .inr ⟨link :: before, other, after, c, rfl, .cons hread hleads, hnull⟩
    · exact .inr ⟨[], link, rest, a, rfl, .nil a, hnull⟩

end ClosedTypes

/-! ## bound paths -/

theorem Link.owner_of_find {owner : TypeKey} {name : String} {l : Link α}
    (h : Link.find owner name = .ok l) : l.owner = owner := by
  unfold Link.find at h
  split at h
  · next hfind =>
    cases h
    obtain ⟨i, -, rfl⟩ := Option.map_eq_some_iff.mp hfind
    rfl
  · cases h

namespace Property

/-- the property is what a path is bound to -/
def IsBound (p : Property α) : Prop := ∃ path, Property.bind p.owner path = .ok p

theorem connects_of_bindAfter {path : String} {segments : List (List Char)} :
    ∀ {link last : Link α} {through : List (Link α)},
      bindAfter path link segments = .ok (through, last) →
        Connects link.owner through last.owner := by
  induction segments with
  | nil =>
    intro link last through h
    cases h
    exact .nil _
  | cons segment rest ih =>
    intro link last through h
    rw [bindAfter] at h
    dsimp only at h
    split at h
    · cases h
    · split at h
      · next key htype =>
        obtain ⟨next, hfind, h⟩ := (bind_eq_ok_iff ..).mp h
        obtain ⟨⟨through', last'⟩, hrest, h⟩ := (bind_eq_ok_iff ..).mp h
        cases h
        obtain rfl := Link.owner_of_find hfind
        exact .cons htype (ih hrest)
      · cases h

theorem connects_of_bind {owner : TypeKey} {path : String} {p : Property α}
    (h : Property.bind owner path = .ok p) : Connects p.owner p.through p.last.owner := by
  unfold Property.bind at h
  dsimp only at h
  split at h
  · cases h
  · obtain ⟨first, hfind, h⟩ := (bind_eq_ok_iff ..).mp h
    obtain ⟨⟨through, last⟩, hrest, h⟩ := (bind_eq_ok_iff ..).mp h
    cases h
    obtain rfl := Link.owner_of_find hfind
    exact connects_of_bindAfter hrest

/-- a bound path reads a value of the kind of its type, unless a link on the way is null -/
theorem IsBound.hasKind_or_nullLink {p : Property α} (hp : p.IsBound) {keys : List TypeKey}
    (hclosed : ClosedTypes α keys) (howner : p.owner ∈ keys) {a : α}
    (ha : Schema.typeOf a = p.owner) : (p.read a).HasKind p.type ∨ p.HasNullLink a := by
  obtain ⟨path, hbind⟩ := hp
  have hconnects : Connects p.owner p.through p.last.owner := connects_of_bind hbind
  rcases hclosed.leads_or_null hconnects howner ha with ⟨b, hleads, hb⟩ | hnull
  · left
    rw [read_of_leads hleads]
    exact hclosed.hasKind_link (hclosed.mem_of_connects hconnects howner) hb
  · exact .inr hnull

end Property
end ObjectFilter
