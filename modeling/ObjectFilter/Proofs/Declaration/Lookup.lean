import ObjectFilter.Proofs.Declaration.Name
import ObjectFilter.Proofs.Text.Insensitive
import ObjectFilter.Proofs.Text.Name
import ObjectFilter.Property
import ObjectFilter.World.Types
import Mathlib.Data.Nat.Find

/-!
# Looking up what is published

A published name is looked up without regard to case, and the first that answers does.  So it leads to its
own property or member exactly if no name in front of it is the same but for case; such a name is hidden for
good.  Nothing keeps two names of one declaration apart: names can be given, and Pascal case forgets where
the underscores were.

* `exists_firstNamed`, `FirstNamed.eq_iff`   the name that answers, and when that is the one looked up;
* `find?_of_firstNamed`, `byName?_of_firstNamed`   the two look-ups;
* `Plain.sameName_iff`   which identifiers run into one another in Pascal case;
* `published_lookup`     what the names of everything that is published lead to.
-/

namespace ObjectFilter

open Text

/-! ## the first name -/

/-- the name at the place is the first that is the given one but for case -/
structure FirstNamed (names : List String) (name : String) (i : Nat) : Prop where
  answers : ∃ n, names[i]? = some n ∧ sameName n name = true
  front : ∀ j < i, ∀ n, names[j]? = some n → sameName n name = false

/-- in front of the place stands a name that is the same as the one there but for case -/
def Shadowed (names : List String) (i : Nat) : Prop :=
  ∃ j < i, ∃ n ∈ names[j]?, ∃ name ∈ names[i]?, sameName n name = true

instance (names : List String) (i : Nat) : Decidable (Shadowed names i) :=
  inferInstanceAs (Decidable (∃ j < i, ∃ n ∈ names[j]?, ∃ name ∈ names[i]?, sameName n name = true))

section
variable {names : List String} {name : String} {i j : Nat}

theorem exists_firstNamed (h : names[i]? = some name) : ∃ j, FirstNamed names name j := by
  classical
  have hsome : ∃ j n, names[j]? = some n ∧ sameName n name = true :=
    ⟨i, name, h, sameName_self name⟩
  refine ⟨Nat.find hsome, Nat.find_spec hsome, ?_⟩
  intro j hj n hn
  rw [Bool.eq_false_iff]
  intro hsame
  exact Nat.find_min hsome hj ⟨n, hn, hsame⟩

/-- what is found under a name is what stands at the first place of that name -/
theorem find?_eq_some_iff_firstNamed {β : Type} (nameOf : β → String) (xs : List β) (name : String)
    (x : β) :
    xs.find? (fun x => sameName (nameOf x) name) = some x ↔
      ∃ i, xs[i]? = some x ∧ FirstNamed (xs.map nameOf) name i := by
  rw [List.find?_eq_some_iff_getElem]
  constructor
  · rintro ⟨hname, i, hi, rfl, hfront⟩
    refine ⟨i, List.getElem?_eq_getElem hi, ⟨_, ?_, hname⟩, ?_⟩
    · rw [List.getElem?_map, List.getElem?_eq_getElem hi]
      rfl
    · intro j hj n hn
      have hjlt : j < xs.length := by omega
      rw [List.getElem?_map, List.getElem?_eq_getElem hjlt] at hn
      cases hn
      simpa using hfront j hj
  · rintro ⟨i, hx, ⟨n, hn, hname⟩, hfront⟩
    rw [List.getElem?_map, hx] at hn
    cases hn
    obtain ⟨hi, rfl⟩ := List.getElem?_eq_some_iff.mp hx
    refine ⟨hname, i, hi, rfl, ?_⟩
    intro j hj
    rw [Bool.not_eq_true']
    refine hfront j hj _ ?_
    rw [List.getElem?_map, List.getElem?_eq_getElem (by omega)]
    rfl

/-- a name answers for itself if it is not hidden behind another one -/
theorem FirstNamed.eq_iff (h : FirstNamed names name j) (hi : names[i]? = some name) :
    j = i ↔ ¬ Shadowed names i := by
  constructor
  · rintro rfl ⟨k, hk, n, hn, name', hname', hsame⟩
    cases hi.symm.trans hname'
    rw [h.front k hk n hn] at hsame
    cases hsame
  · intro hclear
    have hge : ¬ i < j := by
      intro hlt
      have hself := h.front i hlt name hi
      rw [sameName_self] at hself
      cases hself
    have hle : ¬ j < i := by
      intro hlt
      obtain ⟨n, hn, hsame⟩ := h.answers
      exact hclear ⟨j, hlt, n, hn, name, hi, hsame⟩
    omega

end

/-! ## look-ups -/

section
variable {α : Type} [Schema α] {name : String} {i : Nat}

theorem Link.find?_of_firstNamed {key : TypeKey}
    (h : FirstNamed ((Schema.descriptor key : TypeDescriptor α).properties.map (·.name)) name i) :
    ∃ link : Link α, Link.find? key name = some link ∧ link.owner = key ∧ link.index.val = i := by
  obtain ⟨n, hn, hsame⟩ := h.answers
  rw [List.getElem?_map, Option.map_eq_some_iff] at hn
  obtain ⟨p, hp, rfl⟩ := hn
  obtain ⟨hi, rfl⟩ := List.getElem?_eq_some_iff.mp hp
  refine ⟨⟨key, ⟨i, hi⟩⟩, ?_, rfl, rfl⟩
  unfold find?
  refine Option.map_eq_some_iff.mpr ⟨⟨i, hi⟩, ?_, rfl⟩
  rw [List.findFinIdx?_eq_some_iff]
  refine ⟨hsame, ?_⟩
  intro j hj
  rw [Bool.not_eq_true]
  refine h.front j hj _ ?_
  rw [List.getElem?_map, List.getElem?_eq_getElem j.isLt]
  rfl

end

theorem Enumeration.byName?_of_firstNamed {e : Enumeration} {name : String} {i : Nat}
    (h : FirstNamed (e.members.map (·.1)) name i) {m : String × Int64}
    (hm : e.members[i]? = some m) : e.byName? name = some m.2 := by
  have hfind : e.members.find? (fun n => sameName n.1 name) = some m :=
    (find?_eq_some_iff_firstNamed Prod.fst e.members name m).mpr ⟨i, hm, h⟩
  unfold byName?
  rw [hfind]
  rfl

/-! ## names in Pascal case -/

/-- what a look-up sees of an identifier in Pascal case: no underscores and no case -/
def letters (identifier : String) : List Char :=
  folded ((spelling identifier.toList).filter (· ≠ '_'))

theorem upperExpansions_not_ascii : ∀ e ∈ upperExpansions, 128 ≤ e.1 := by decide +kernel

theorem upperShifts_not_ascii :
    ∀ s ∈ upperShifts, 128 ≤ s.first ∨ s = ⟨'a'.toNat, 'z'.toNat, 1, -32⟩ := by
  decide +kernel

theorem lower_letter : ∀ n < 26,
    lower (Char.ofNat ('a'.toNat + n - 32)) = lower (Char.ofNat ('a'.toNat + n)) := by
  decide +kernel

theorem upper_ascii_cases {c : Char} (h : c.toNat < 128) :
    upper c = [c] ∨ ∃ n < 26, c = Char.ofNat ('a'.toNat + n) ∧
      upper c = [Char.ofNat ('a'.toNat + n - 32)] := by
  have hnone : upperExpansions.find? (·.1 == c.toNat) = none := by
    rw [List.find?_eq_none]
    intro e he heq
    have hlarge := upperExpansions_not_ascii e he
    rw [beq_iff_eq] at heq
    omega
  unfold upper
  rw [hnone]
  dsimp only
  -- of the runs of letters only the first one lies in ASCII
  unfold shifted
  cases hfind : upperShifts.find? (·.moves c.toNat) with
  | none =>
    left
    simp only [Char.ofNat_toNat]
  | some s =>
    right
    have hmoves : s.moves c.toNat = true := by
      have hsome := List.find?_some hfind
      exact hsome
    have hle := Shift.le_of_moves hmoves
    rcases upperShifts_not_ascii s (List.mem_of_find?_eq_some hfind) with hlarge | rfl
    · omega
    · have ha : 'a'.toNat = 97 := rfl
      have hz : 'z'.toNat = 122 := rfl
      dsimp only at hle
      refine ⟨c.toNat - 'a'.toNat, by omega, ?_, ?_⟩
      · rw [Nat.add_sub_cancel' hle.1, Char.ofNat_toNat]
      · rw [Nat.add_sub_cancel' hle.1]
        dsimp only
        congr 2
        omega

theorem folded_upper_of_ascii {c : Char} (h : c.toNat < 128) : folded (upper c) = lower c := by
  rcases upper_ascii_cases h with hself | ⟨n, hn, rfl, hupper⟩
  · rw [hself, folded_cons, folded_nil, List.append_nil]
  · rw [hupper, folded_cons, folded_nil, List.append_nil, lower_letter n hn]

theorem folded_capitalized {cs : List Char} (h : ∀ c ∈ cs, c.toNat < 128) :
    folded (capitalized cs) = folded cs := by
  cases cs with
  | nil => rfl
  | cons c rest =>
    rw [capitalized, folded_append, folded_cons, folded_upper_of_ascii (h c List.mem_cons_self)]

theorem folded_flatMap_capitalized {parts : List (List Char)}
    (h : ∀ part ∈ parts, ∀ c ∈ part, c.toNat < 128) :
    folded (parts.flatMap capitalized) = folded parts.flatten := by
  induction parts with
  | nil => rfl
  | cons part rest ih =>
    obtain ⟨hpart, hrest⟩ := List.forall_mem_cons.mp h
    rw [List.flatMap_cons, List.flatten_cons, folded_append, folded_append,
      folded_capitalized hpart, ih hrest]

theorem mem_of_mem_spelling {cs : List Char} {c : Char} (h : c ∈ spelling cs) : c ∈ cs := by
  unfold spelling at h
  split at h
  · exact List.mem_cons_of_mem _ (List.mem_cons_of_mem _ h)
  · exact h

theorem folded_pascalCase {identifier : String} (h : isName identifier.toList = true)
    (hascii : isAscii identifier.toList = true) :
    folded (pascalCase identifier).toList = letters identifier := by
  rw [isAscii, List.all_eq_true] at hascii
  have hparts : ∀ part ∈ pieces '_' (spelling identifier.toList), ∀ c ∈ part, c.toNat < 128 := by
    intro part hpart c hc
    exact of_decide_eq_true (hascii c (mem_of_mem_spelling (mem_of_mem_pieces hpart hc)))
  rw [(inPascalCase_of_isName h).toList_eq, folded_flatMap_capitalized hparts, flatten_pieces,
    letters]

/-! ## published names -/

/-- a field that is named by its identifier, which is one of ASCII characters -/
structure FieldDeclaration.Plain (f : FieldDeclaration) : Prop where
  not_renamed : textOf? f.attributes "rename" = none
  isName : isName f.name.toList = true
  ascii : isAscii f.name.toList = true

/-- plain fields run into one another exactly if they differ in underscores, case and mark only -/
theorem FieldDeclaration.Plain.sameName_iff {f g : FieldDeclaration} (hf : f.Plain) (hg : g.Plain) :
    sameName f.property.name g.property.name = true ↔ letters f.name = letters g.name := by
  unfold property
  rw [hf.not_renamed, hg.not_renamed, Text.sameName_iff, Option.getD_none, Option.getD_none,
    folded_pascalCase hf.isName hf.ascii, folded_pascalCase hg.isName hg.ascii]

def PublishedType.names (t : PublishedType) : List String := t.properties.map (·.name)

def PublishedEnum.names (e : PublishedEnum) : List String := e.members.map (·.name)

/-- the type has the properties that were published -/
def PublishedType.Describes {α : Type} (t : PublishedType) (d : TypeDescriptor α) : Prop :=
  d.name = t.name ∧ d.properties.map (·.name) = t.names

theorem PublishedEnum.names_enumeration (e : PublishedEnum) :
    e.enumeration.members.map (·.1) = e.names := by
  unfold enumeration names
  rw [List.map_map]
  rfl

theorem PublishedType.find?_name {α : Type} [Schema α] {t : PublishedType} {key : TypeKey}
    (h : t.Describes (Schema.descriptor key : TypeDescriptor α)) {i : Nat} {p : PublishedProperty}
    (hp : t.properties[i]? = some p) :
    ∃ link : Link α, Link.find? key p.name = some link ∧ link.owner = key ∧
      FirstNamed t.names p.name link.index.val ∧ (link.index.val = i ↔ ¬ Shadowed t.names i) := by
  have hname : t.names[i]? = some p.name := by
    rw [names, List.getElem?_map, hp]
    rfl
  obtain ⟨j, hfirst⟩ := exists_firstNamed hname
  have hplace : FirstNamed ((Schema.descriptor key : TypeDescriptor α).properties.map (·.name))
      p.name j := by
    rw [h.2]
    exact hfirst
  obtain ⟨link, hfind, howner, rfl⟩ := Link.find?_of_firstNamed hplace
  exact ⟨link, hfind, howner, hfirst, hfirst.eq_iff hname⟩

theorem PublishedEnum.byName?_name {e : PublishedEnum} {i : Nat} {m : PublishedMember}
    (hm : e.members[i]? = some m) :
    ∃ j first, e.members[j]? = some first ∧ FirstNamed e.names m.name j ∧
      (j = i ↔ ¬ Shadowed e.names i) ∧
        e.enumeration.byName? m.name = some (Int64.ofInt first.discriminant) := by
  have hname : e.names[i]? = some m.name := by
    rw [names, List.getElem?_map, hm]
    rfl
  obtain ⟨j, hfirst⟩ := exists_firstNamed hname
  obtain ⟨n, hn, -⟩ := hfirst.answers
  rw [names, List.getElem?_map, Option.map_eq_some_iff] at hn
  obtain ⟨first, hj, -⟩ := hn
  refine ⟨j, first, hj, hfirst, hfirst.eq_iff hname, ?_⟩
  have hplace : FirstNamed (e.enumeration.members.map (·.1)) m.name j := by
    rw [names_enumeration]
    exact hfirst
  have hmember : e.enumeration.members[j]? =
      some (first.name, Int64.ofInt first.discriminant) := by
    rw [enumeration, List.getElem?_map, hj]
    rfl
  exact Enumeration.byName?_of_firstNamed hplace hmember

theorem published_lookup (α : Type) [Schema α] (d : Declaration) :
    (∀ t, d.publishType = .ok t →
      (∃ fields, d.body = .struct fields ∧
        t.names = (publishedFields fields).map (·.property.name)) ∧
      ∀ key, t.Describes (Schema.descriptor key : TypeDescriptor α) →
        ∀ i p, t.properties[i]? = some p →
          ∃ link : Link α, Link.find? key p.name = some link ∧ link.owner = key ∧
            FirstNamed t.names p.name link.index.val ∧
              (link.index.val = i ↔ ¬ Shadowed t.names i)) ∧
    (∀ e, d.publishEnum = .ok e → ∀ i m, e.members[i]? = some m →
      ∃ j first, e.members[j]? = some first ∧ FirstNamed e.names m.name j ∧
        (j = i ↔ ¬ Shadowed e.names i) ∧
          e.enumeration.byName? m.name = some (Int64.ofInt first.discriminant)) ∧
    ∀ f g : FieldDeclaration, f.Plain → g.Plain →
      (sameName f.property.name g.property.name = true ↔ letters f.name = letters g.name) := by
  refine ⟨?_, fun e _ i m hm => e.byName?_name hm, fun f g hf hg => hf.sameName_iff hg⟩
  intro t ht
  refine ⟨?_, fun key hdescribes i p hp => t.find?_name hdescribes hp⟩
  obtain ⟨-, fields, hbody, rfl⟩ := (d.publishType_eq_ok_iff t).mp ht
  refine ⟨fields, hbody, ?_⟩
  rw [PublishedType.names, List.map_map]
  rfl

/-! ## hidden names -/

/-- a declaration of gadgets, where a field is renamed to what an earlier one is called in another case -/
def widget : Declaration :=
  let plain (f : String × String) : FieldDeclaration := ⟨f.1, f.2, []⟩
  let renamed (name type published : String) : FieldDeclaration :=
    ⟨name, type, [inspect "rename" (.text published)]⟩
  ⟨"Widget", false, [inspect "name" (.text "Gadget")],
    .struct
      ([("r#type", "String"), ("is_on", "bool"), ("tiny", "i8"), ("small", "i16"), ("normal", "i32"),
        ("wide", "i64"), ("byte", "u8"), ("word", "u16"), ("dword", "u32"), ("qword", "u64"),
        ("ratio", "f32"), ("precise_value", "f64"), ("letter", "char"), ("label", "Option<String>"),
        ("shared", "Arc<str>"), ("fixed", "String"), ("side", "Alignment"), ("extreme", "Extreme"),
        ("serial", "Serial"), ("spot", "Point3D"), ("price", "Decimal"),
        ("parent", "Option<Box<Widget>>"), ("maker", "Option<Character>"), ("größe", "i32")].map plain
        ++ [renamed "other_label" "String" "LABEL", plain ("σας", "String")])⟩

/-- a declaration of alignments, where a variant is renamed to what an earlier one is called in another
case -/
def alignment : Declaration :=
  ⟨"Alignment", false, [],
    .enum
      [⟨"Evil", some (-5), .unit, []⟩, ⟨"Neutral", some 0, .unit, []⟩,
       ⟨"Five", some 2, .unit, [inspect "rename" (.text "5")]⟩, ⟨"Good", some 5, .unit, []⟩,
       ⟨"Epic", some 7, .unit, [inspect "rename" (.text "Épique")]⟩,
       ⟨"Better", some 9, .unit, [inspect "rename" (.text "good")]⟩]⟩

theorem describes_gadget {t : PublishedType} (h : widget.publishType = .ok t) :
    t.Describes (Schema.descriptor (.named "Gadget") : TypeDescriptor World.Entity) := by
  cases h
  constructor
  · decide +kernel
  · decide +kernel

/-- names with nothing in front of them that is the same but for case, and two identifiers that become
one name -/
theorem published_lookup_widget :
    (∃ t, widget.publishType = .ok t ∧ ¬ Shadowed t.names 13 ∧
      ∃ link : Link World.Entity, Link.find? (.named "Gadget") "Label" = some link ∧
        link.index.val = 13) ∧
    (∃ e, alignment.publishEnum = .ok e ∧ e.enumeration.byName? "Good" = some (Int64.ofInt 5)) ∧
    sameName (FieldDeclaration.property ⟨"is_on", "bool", []⟩).name
      (FieldDeclaration.property ⟨"r#ison", "i32", []⟩).name = true := by
  refine ⟨?_, ?_, ?_⟩
  · obtain ⟨t, ht⟩ : ∃ t, widget.publishType = .ok t := ⟨_, rfl⟩
    have hdescribes := describes_gadget ht
    have hlabel : t.properties[13]? = some ⟨"Label", "label", "Option<String>"⟩ := by
      cases ht
      decide +kernel
    have hclear : ¬ Shadowed t.names 13 := by
      cases ht
      decide +kernel
    obtain ⟨link, hfind, -, -, hplace⟩ :=
      ((published_lookup World.Entity widget).1 t ht).2 _ hdescribes 13 _ hlabel
    exact ⟨t, ht, hclear, link, hfind, hplace.mpr hclear⟩
  · obtain ⟨e, he⟩ : ∃ e, alignment.publishEnum = .ok e := ⟨_, rfl⟩
    have hgood : e.members[3]? = some ⟨"Good", "Good", 5⟩ := by
      cases he
      decide +kernel
    have hclear : ¬ Shadowed e.names 3 := by
      cases he
      decide +kernel
    obtain ⟨j, first, hj, -, hplace, hname⟩ :=
      (published_lookup World.Entity alignment).2.1 e he 3 _ hgood
    rw [hplace.mpr hclear, hgood] at hj
    cases hj
    exact ⟨e, he, hname⟩
  · have hplain : FieldDeclaration.Plain ⟨"is_on", "bool", []⟩ :=
      ⟨rfl, by decide +kernel, by decide +kernel⟩
    have hraw : FieldDeclaration.Plain ⟨"r#ison", "i32", []⟩ :=
      ⟨rfl, by decide +kernel, by decide +kernel⟩
    refine ((published_lookup World.Entity widget).2.2 _ _ hplain hraw).mpr ?_
    decide +kernel

/-- a property that is not found under its own name, and a member whose name stands for another one -/
theorem names_hidden :
    (∃ t, widget.publishType = .ok t ∧
      t.Describes (Schema.descriptor (.named "Gadget") : TypeDescriptor World.Entity) ∧
      ∃ p, t.properties[24]? = some p ∧ ∃ link : Link World.Entity,
        Link.find? (.named "Gadget") p.name = some link ∧ link.index.val = 13) ∧
    ∃ e, alignment.publishEnum = .ok e ∧ e.enumeration = World.alignment ∧
      ∃ m ∈ e.members, m.discriminant = 9 ∧ e.enumeration.byName? m.name = some 5 := by
  refine ⟨?_, ?_⟩
  · refine ⟨_, rfl, describes_gadget rfl, ⟨"LABEL", "other_label", "String"⟩, by decide +kernel,
      ⟨.named "Gadget", ⟨13, by decide⟩⟩, by decide +kernel, rfl⟩
  · refine ⟨_, rfl, by decide +kernel, ⟨"good", "Better", 9⟩, by decide +kernel, rfl, by decide +kernel⟩

end ObjectFilter
