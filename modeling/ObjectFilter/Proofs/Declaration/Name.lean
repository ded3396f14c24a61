import ObjectFilter.Declaration
import ObjectFilter.Proofs.Text.Case
import Mathlib.Data.List.Forall2

/-!
# Published names

What a declaration is published under.  A raw identifier spells what stands behind its mark.  A property is
named by what its field spells, in Pascal case, and no such name has a mark in it.  Types and members are
named by their identifiers as they are written: a raw one keeps its mark.

* `withoutRawMark_of_isName`      an identifier has one mark at most;
* `hash_notMem_capitalized`       Pascal case brings no mark in;
* `publishFrom_named`             the members of an enumeration, one by one;
* `published_names`               the names of everything that is published.
-/

namespace ObjectFilter

open Text

/-! ## capitals -/

/-- the code point of the sign in the mark; what is no character becomes another one -/
theorem eq_of_ofNat_eq_hash {n : Nat} (h : Char.ofNat n = '#') : n = 35 := by
  by_cases hvalid : n.isValidChar
  · rw [Char.ofNat, dif_pos hvalid] at h
    exact congrArg Char.toNat h
  · rw [Char.ofNat, dif_neg hvalid] at h
    exact absurd h (by decide)

theorem hash_notMem_upperExpansions : ∀ e ∈ upperExpansions, 35 ∉ e.2 := by decide +kernel

theorem hash_notMem_upperShifts :
    ∀ s ∈ upperShifts, 35 - s.delta < s.first ∨ s.last < 35 - s.delta := by
  decide +kernel

/-- no other character has the sign as its capital -/
theorem eq_hash_of_mem_upper {c : Char} (h : '#' ∈ upper c) : c = '#' := by
  unfold upper at h
  split at h
  · -- the uppercase form is several characters, none of them the sign
    next code form hfind =>
    obtain ⟨n, hn, hchar⟩ := List.mem_map.mp h
    rw [eq_of_ofNat_eq_hash hchar] at hn
    exact absurd hn (hash_notMem_upperExpansions _ (List.mem_of_find?_eq_some hfind))
  · have hshifted := eq_of_ofNat_eq_hash (List.mem_singleton.mp h).symm
    unfold shifted at hshifted
    split at hshifted
    · next s hfind =>
      have hmoves : s.moves c.toNat = true := by
        have hsome := List.find?_some hfind
        exact hsome
      have hle := Shift.le_of_moves hmoves
      have hapart := hash_notMem_upperShifts s (List.mem_of_find?_eq_some hfind)
      omega
    · exact Char.toNat_inj.mp hshifted

theorem hash_notMem_capitalized {cs : List Char} (h : '#' ∉ cs) : '#' ∉ capitalized cs := by
  cases cs with
  | nil => exact h
  | cons c rest =>
    rw [List.mem_cons, not_or] at h
    rw [capitalized, List.mem_append, not_or]
    exact ⟨fun hmem => h.1 (eq_hash_of_mem_upper hmem).symm, h.2⟩

/-! ## identifiers -/

/-- what an identifier spells: the word behind the mark of a raw one -/
def spelling : List Char → List Char
  | 'r' :: '#' :: word => word
  | word => word

/-- the identifier with the mark of a raw one in front -/
def IsRaw (identifier : String) : Prop := ['r', '#'] <+: identifier.toList

/-- the mark of a raw identifier stands somewhere in the name -/
def Marked (name : String) : Prop := ['r', '#'] <:+: name.toList

instance (identifier : String) : Decidable (IsRaw identifier) :=
  inferInstanceAs (Decidable (_ <+: _))

instance (name : String) : Decidable (Marked name) := inferInstanceAs (Decidable (_ <:+: _))

theorem hash_notMem_of_isWord {word : List Char} (h : isWord word = true) : '#' ∉ word := by
  cases word with
  | nil => cases h
  | cons c rest =>
    rw [isWord, Bool.and_eq_true, List.all_eq_true] at h
    rw [List.mem_cons, not_or]
    refine ⟨?_, ?_⟩
    · rintro rfl
      exact absurd h.1 (by decide)
    · intro hmem
      exact absurd (h.2 _ hmem) (by decide)

theorem isName_cases {cs : List Char} (h : isName cs = true) :
    (∃ word, cs = 'r' :: '#' :: word ∧ '#' ∉ word) ∨ '#' ∉ cs := by
  unfold isName at h
  split at h
  · next word => exact .inl ⟨word, rfl, hash_notMem_of_isWord h⟩
  · rw [Bool.and_eq_true] at h
    exact .inr (hash_notMem_of_isWord h.1)

theorem withoutRawMark_of_hash_notMem {cs : List Char} (h : '#' ∉ cs) : withoutRawMark cs = cs := by
  unfold withoutRawMark
  split
  · exact absurd (List.mem_cons_of_mem _ List.mem_cons_self) h
  · rfl

theorem spelling_of_hash_notMem {cs : List Char} (h : '#' ∉ cs) : spelling cs = cs := by
  unfold spelling
  split
  · exact absurd (List.mem_cons_of_mem _ List.mem_cons_self) h
  · rfl

theorem withoutRawMark_of_isName {cs : List Char} (h : isName cs = true) :
    withoutRawMark cs = spelling cs := by
  rcases isName_cases h with ⟨word, rfl, hword⟩ | hword
  · rw [withoutRawMark, spelling, withoutRawMark_of_hash_notMem hword]
  · rw [withoutRawMark_of_hash_notMem hword, spelling_of_hash_notMem hword]

theorem hash_notMem_spelling {cs : List Char} (h : isName cs = true) : '#' ∉ spelling cs := by
  rcases isName_cases h with ⟨word, rfl, hword⟩ | hword
  · exact hword
  · rwa [spelling_of_hash_notMem hword]

theorem not_marked_of_hash_notMem {name : String} (h : '#' ∉ name.toList) : ¬ Marked name := by
  intro hmarked
  exact h (hmarked.subset (List.mem_cons_of_mem _ List.mem_cons_self))

/-! ## names by default -/

/-- what the identifier spells, its parts between underscores with a capital in front of each; without a
mark -/
structure InPascalCase (identifier name : String) : Prop where
  toList_eq : name.toList = (pieces '_' (spelling identifier.toList)).flatMap capitalized
  not_marked : ¬ Marked name

/-- the identifier as it is written: what it spells, and the mark in front of that if it is raw -/
structure AsWritten (identifier name : String) : Prop where
  of_plain : ¬ IsRaw identifier → name.toList = spelling identifier.toList ∧ ¬ Marked name
  of_raw : IsRaw identifier → name.toList = 'r' :: '#' :: spelling identifier.toList

theorem inPascalCase_of_isName {identifier : String} (h : isName identifier.toList = true) :
    InPascalCase identifier (pascalCase identifier) := by
  have htoList : (pascalCase identifier).toList =
      (pieces '_' (spelling identifier.toList)).flatMap capitalized := by
    unfold pascalCase
    dsimp only
    rw [String.toList_ofList, withoutRawMark_of_isName h]
  refine ⟨htoList, not_marked_of_hash_notMem ?_⟩
  rw [htoList, List.mem_flatMap]
  rintro ⟨piece, hpiece, hmem⟩
  refine hash_notMem_capitalized ?_ hmem
  exact fun hin => hash_notMem_spelling h (mem_of_mem_pieces hpiece hin)

theorem asWritten_of_isName {identifier : String} (h : isName identifier.toList = true) :
    AsWritten identifier identifier := by
  rcases isName_cases h with ⟨word, hraw, -⟩ | hword
  · have hisRaw : IsRaw identifier := ⟨word, hraw.symm⟩
    refine ⟨fun hplain => absurd hisRaw hplain, fun _ => ?_⟩
    rw [hraw, spelling]
  · refine ⟨fun _ => ⟨(spelling_of_hash_notMem hword).symm, not_marked_of_hash_notMem hword⟩, ?_⟩
    intro hraw
    exact absurd (hraw.subset (List.mem_cons_of_mem _ List.mem_cons_self)) hword

/-- the name that is given, or else one by default -/
def NamedBy (given : Option String) (default : String → Prop) (name : String) : Prop :=
  match given with
  | some s => name = s
  | none => default name

theorem namedBy_getD {given : Option String} {default : String → Prop} {name : String}
    (h : default name) : NamedBy given default (given.getD name) := by
  cases given with
  | some s => rfl
  | none => exact h

/-! ## fields and variants -/

def publishedFields (fields : List FieldDeclaration) : List FieldDeclaration :=
  fields.filter fun f => !hasFlag f.attributes "skip"

def FieldDeclaration.property (f : FieldDeclaration) : PublishedProperty :=
  ⟨(textOf? f.attributes "rename").getD (pascalCase f.name), f.name, f.type⟩

theorem filterMap_publish? (fields : List FieldDeclaration) :
    fields.filterMap (·.publish?) = (publishedFields fields).map FieldDeclaration.property := by
  unfold publishedFields
  rw [← List.filterMap_eq_map, List.filterMap_filter]
  congr 1
  funext f
  unfold FieldDeclaration.publish?
  cases hasFlag f.attributes "skip" <;> rfl

structure FieldDeclaration.PublishedAs (f : FieldDeclaration) (p : PublishedProperty) : Prop where
  field_eq : p.field = f.name
  type_eq : p.type = f.type
  named : NamedBy (textOf? f.attributes "rename") (InPascalCase f.name) p.name

structure VariantDeclaration.PublishedAs (v : VariantDeclaration) (m : PublishedMember) : Prop where
  variant_eq : m.variant = v.name
  named : NamedBy (textOf? v.attributes "rename") (AsWritten v.name) m.name

theorem property_named {fields : List FieldDeclaration}
    (h : ∀ f ∈ fields, isName f.name.toList = true) :
    List.Forall₂ FieldDeclaration.PublishedAs fields (fields.map FieldDeclaration.property) := by
  rw [List.forall₂_map_right_iff, List.forall₂_same]
  intro f hf
  exact ⟨rfl, rfl, namedBy_getD (inPascalCase_of_isName (h f hf))⟩

theorem publishFrom_named {variants : List VariantDeclaration} :
    ∀ next, (∀ v ∈ variants, isName v.name.toList = true) →
      List.Forall₂ VariantDeclaration.PublishedAs variants
        (VariantDeclaration.publishFrom next variants) := by
  induction variants with
  | nil =>
    intro next h
    exact .nil
  | cons v rest ih =>
    intro next h
    obtain ⟨hv, hrest⟩ := List.forall_mem_cons.mp h
    exact .cons ⟨rfl, namedBy_getD (asWritten_of_isName hv)⟩ (ih _ hrest)

/-! ## declarations -/

namespace Declaration

theorem publishType_eq_ok_iff (d : Declaration) (t : PublishedType) :
    d.publishType = .ok t ↔ d.generic = false ∧ ∃ fields, d.body = .struct fields ∧
      t = ⟨d.publishedName, (publishedFields fields).map FieldDeclaration.property⟩ := by
  unfold publishType
  cases d.generic with
  | true => exact iff_of_false nofun nofun
  | false =>
    cases d.body with
    | struct fields =>
      rw [if_neg Bool.false_ne_true]
      dsimp only
      rw [filterMap_publish?, Except.ok.injEq]
      constructor
      · rintro rfl
        exact ⟨rfl, fields, rfl, rfl⟩
      · rintro ⟨-, _, hfields, rfl⟩
        cases hfields
        rfl
    | _ => exact iff_of_false nofun nofun

theorem publishEnum_eq_ok_iff (d : Declaration) (e : PublishedEnum) :
    d.publishEnum = .ok e ↔ d.generic = false ∧ ∃ variants, d.body = .enum variants ∧
      (∀ v ∈ variants, v.shape = .unit) ∧
        e = ⟨d.publishedName, VariantDeclaration.publishFrom 0 variants⟩ := by
  unfold publishEnum
  cases d.generic with
  | true => exact iff_of_false nofun nofun
  | false =>
    cases d.body with
    | enum variants =>
      rw [if_neg Bool.false_ne_true]
      dsimp only
      by_cases hunit : ∀ v ∈ variants, v.shape = .unit
      · have hall : variants.all (·.shape = .unit) = true := by simpa using hunit
        rw [if_pos hall, Except.ok.injEq]
        constructor
        · rintro rfl
          exact ⟨rfl, variants, rfl, hunit, rfl⟩
        · rintro ⟨-, _, hvariants, -, rfl⟩
          cases hvariants
          rfl
      · have hall : ¬ variants.all (·.shape = .unit) = true := by simpa using hunit
        rw [if_neg hall]
        refine iff_of_false nofun ?_
        rintro ⟨-, _, hvariants, hshapes, -⟩
        cases hvariants
        exact hunit hshapes
    | _ => exact iff_of_false nofun nofun

def parts (d : Declaration) : List String :=
  match d.body with
  | .struct fields => fields.map (·.name)
  | .enum variants => variants.map (·.name)
  | _ => []

/-- the declaration names everything by identifiers -/
structure WellNamed (d : Declaration) : Prop where
  name : isName d.name.toList = true
  parts : ∀ part ∈ d.parts, isName part.toList = true

end Declaration

theorem published_names (d : Declaration) (h : d.WellNamed) :
    (∀ t, d.publishType = .ok t →
      NamedBy (textOf? d.attributes "name") (AsWritten d.name) t.name ∧
      ∃ fields, d.body = .struct fields ∧
        List.Forall₂ FieldDeclaration.PublishedAs (publishedFields fields) t.properties) ∧
    ∀ e, d.publishEnum = .ok e →
      NamedBy (textOf? d.attributes "name") (AsWritten d.name) e.name ∧
      ∃ variants, d.body = .enum variants ∧
        List.Forall₂ VariantDeclaration.PublishedAs variants e.members := by
  have hname : NamedBy (textOf? d.attributes "name") (AsWritten d.name) d.publishedName :=
    namedBy_getD (asWritten_of_isName h.name)
  refine ⟨?_, ?_⟩
  · intro t ht
    obtain ⟨-, fields, hbody, rfl⟩ := (d.publishType_eq_ok_iff t).mp ht
    refine ⟨hname, fields, hbody, property_named ?_⟩
    intro f hf
    have hmem : f.name ∈ d.parts := by
      unfold Declaration.parts
      rw [hbody]
      exact List.mem_map_of_mem (List.mem_of_mem_filter hf)
    exact h.parts _ hmem
  · intro e he
    obtain ⟨-, variants, hbody, -, rfl⟩ := (d.publishEnum_eq_ok_iff e).mp he
    refine ⟨hname, variants, hbody, publishFrom_named 0 ?_⟩
    intro v hv
    have hmem : v.name ∈ d.parts := by
      unfold Declaration.parts
      rw [hbody]
      exact List.mem_map_of_mem hv
    exact h.parts _ hmem

/-- an attribute with one argument -/
def inspect (key : String) (value : ArgumentValue) : Attribute :=
  ⟨attributeName, .list [⟨key, value⟩]⟩

/-- a raw name for a struct, and fields with raw names, one of them renamed and one left out -/
def matchRecord : Declaration :=
  ⟨"r#match", false, [inspect "name" (.text "Record")],
    .struct
      [⟨"r#type", "String", []⟩, ⟨"r#move", "i32", [inspect "rename" (.text "r#step")]⟩,
       ⟨"r#loop", "i32", [inspect "skip" .flag]⟩]⟩

/-- an enumeration with a raw variant -/
def shape : Declaration :=
  ⟨"Shape", false, [],
    .enum [⟨"Round", none, .unit, []⟩, ⟨"r#Loop", none, .unit, []⟩]⟩

/-- a field left out and one renamed, a name given and names by default -/
theorem published_names_matchRecord :
    (∃ t, matchRecord.publishType = .ok t ∧ t.name = "Record" ∧
      ∃ kind step, t.properties = [kind, step] ∧ InPascalCase "r#type" kind.name ∧
        step.name = "r#step") ∧
    ∃ e, shape.publishEnum = .ok e ∧ AsWritten "Shape" e.name ∧
      ∃ round loop, e.members = [round, loop] ∧ AsWritten "Round" round.name ∧
        AsWritten "r#Loop" loop.name := by
  have hrecord : matchRecord.WellNamed := ⟨by decide +kernel, by decide +kernel⟩
  have hshape : shape.WellNamed := ⟨by decide +kernel, by decide +kernel⟩
  refine ⟨?_, ?_⟩
  · obtain ⟨t, ht⟩ : ∃ t, matchRecord.publishType = .ok t := ⟨_, rfl⟩
    obtain ⟨hname, fields, hbody, hproperties⟩ := (published_names matchRecord hrecord).1 t ht
    have hgiven : textOf? matchRecord.attributes "name" = some "Record" := by decide +kernel
    have hstep : textOf? [inspect "rename" (.text "r#step")] "rename" = some "r#step" := by
      decide +kernel
    have hfields : publishedFields fields =
        [⟨"r#type", "String", []⟩, ⟨"r#move", "i32", [inspect "rename" (.text "r#step")]⟩] := by
      cases hbody
      decide +kernel
    rw [hfields] at hproperties
    obtain ⟨kind, _, hkind, hrest, heq⟩ := List.forall₂_cons_left_iff.mp hproperties
    obtain ⟨step, _, hmove, hnil, rfl⟩ := List.forall₂_cons_left_iff.mp hrest
    cases hnil
    have hmoveName := hmove.named
    rw [hgiven] at hname
    rw [hstep] at hmoveName
    exact ⟨t, ht, hname, kind, step, heq, hkind.named, hmoveName⟩
  · obtain ⟨e, he⟩ : ∃ e, shape.publishEnum = .ok e := ⟨_, rfl⟩
    obtain ⟨hname, variants, hbody, hmembers⟩ := (published_names shape hshape).2 e he
    cases hbody
    obtain ⟨round, _, hround, hrest, heq⟩ := List.forall₂_cons_left_iff.mp hmembers
    obtain ⟨loop, _, hloop, hnil, rfl⟩ := List.forall₂_cons_left_iff.mp hrest
    cases hnil
    exact ⟨e, he, hname, round, loop, heq, hround.named, hloop.named⟩

/-- a raw variant is published with its mark, which is not what it spells -/
theorem member_keeps_mark :
    shape.WellNamed ∧ ∃ e, shape.publishEnum = .ok e ∧
      ∃ m ∈ e.members, m.variant = "r#Loop" ∧ m.name = "r#Loop" ∧
        m.name.toList ≠ spelling "r#Loop".toList ∧ Marked m.name := by
  refine ⟨⟨by decide +kernel, by decide +kernel⟩, _, rfl, _, List.mem_cons_of_mem _ List.mem_cons_self,
    ?_⟩
  decide +kernel

end ObjectFilter
