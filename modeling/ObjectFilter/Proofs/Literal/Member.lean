import ObjectFilter.Proofs.Literal.Spelling
import ObjectFilter.Proofs.Text.Name

/-!
# The spellings of a member

A member of an enumeration can be supplied by its name in any case or by its discriminant, as a text with
white space around it or as a typed literal of either kind.  Names come before numerals, so an enumeration
has to tell its members apart by name and by discriminant, and to have no numeral for a name; then all
spellings of a member come to it, and an integer that no member has is refused.

* `byName?_of_sameName`     a member is found under its name in any case;
* `memberOf?_toString`      what the decimal text of an integer names;
* `resolve_member`          the spellings of every member, and the integers that are none.
-/

namespace ObjectFilter

open Number (Width SpellsSigned)

/-! ## decimal texts have one case -/

/-- a digit is written without regard to case -/
theorem not_isCased_of_writes {c : Char} {d : Nat} (h : Number.Writes 10 c d) :
    Text.isCased c = false := by
  have hdigit : Number.digit? 10 c = some d := (Number.digit?_eq_some_iff (by omega) c d).mpr h
  by_cases hc : c.toNat < 128
  · have hcased : (Number.digit? 10 c).isSome = true → Text.isCased c = false :=
      Number.of_ascii (fun c => (Number.digit? 10 c).isSome = true → Text.isCased c = false)
        (by decide +kernel) hc
    exact hcased (by rw [hdigit]; rfl)
  · rw [Number.digit?_of_not_ascii 10 c (by omega)] at hdigit
    cases hdigit

theorem not_isCased_of_spells {cs : List Char} {n : Nat} (h : Number.Spells 10 cs n) :
    ∀ c ∈ cs, Text.isCased c = false := by
  intro c hc
  obtain ⟨-, ds, hds, -⟩ := h
  obtain ⟨d, -, hd⟩ := exists_of_forall₂_left hds hc
  exact not_isCased_of_writes hd

theorem not_isCased_of_toString (n : Int) : ∀ c ∈ (toString n).toList, Text.isCased c = false := by
  rcases Number.toString_cases n with ⟨-, hdigits⟩ | ⟨-, digits, hminus, hdigits⟩
  · exact not_isCased_of_spells hdigits
  · rw [hminus]
    exact List.forall_mem_cons.mpr ⟨by decide, not_isCased_of_spells hdigits⟩

theorem readSigned_toString_of_mem {n : Int} (hl : Width.w64.least ≤ n)
    (hg : n ≤ Width.w64.greatest) : Number.readSigned .w64 (toString n).toList = .ok n :=
  (Number.readSigned_eq_ok_iff .w64 _ n).mpr ⟨⟨hl, hg⟩, Number.spellsSigned_toString n⟩

namespace Enumeration

/-- the members can be told apart by their names without regard to case, and by their discriminants;
no name is the numeral of a discriminant, and none has white space around it -/
structure IsClear (e : Enumeration) : Prop where
  names_apart : e.members.Pairwise fun m n => Text.sameName m.1 n.1 = false
  names_trimmed : ∀ m ∈ e.members, Text.trimmed m.1 = m.1
  names_not_numerals : ∀ m ∈ e.members, ∀ n, Width.w64.least ≤ n → n ≤ Width.w64.greatest →
    ¬ SpellsSigned m.1.toList n
  discriminants_apart : e.members.Pairwise fun m n => m.2 ≠ n.2

/-- the literal is a way to supply the member -/
inductive Spelling (m : String × Int64) : RawLiteral → Prop
  | name {text word : String} (h : Text.Padded text.toList word.toList)
      (hword : Text.sameName m.1 word = true) : Spelling m (.text text)
  | decimal {text : String} (h : Text.Padded text.toList (toString m.2.toInt).toList) :
      Spelling m (.text text)
  | int : Spelling m (.int m.2)
  | uint {k : UInt64} (h : (k.toNat : Int) = m.2.toInt) : Spelling m (.uint k)

/-! ## look-ups -/

theorem find?_eq_some_of_unique {β : Type} {p : β → Bool} {l : List β} {x : β} (hx : x ∈ l)
    (hp : p x = true) (hunique : ∀ y ∈ l, p y = true → y = x) : l.find? p = some x := by
  cases hfind : l.find? p with
  | none => exact absurd hp (List.find?_eq_none.mp hfind x hx)
  | some y => rw [hunique y (List.mem_of_find?_eq_some hfind) (List.find?_some hfind)]

namespace IsClear

variable {e : Enumeration} (h : e.IsClear)
include h

theorem eq_of_sameName {m n : String × Int64} (hm : m ∈ e.members) (hn : n ∈ e.members)
    (hname : Text.sameName m.1 n.1 = true) : m = n := by
  by_contra hne
  have hsymm : Std.Symm fun m n : String × Int64 => Text.sameName m.1 n.1 = false :=
    ⟨fun m n hmn => by rw [Text.sameName_comm, hmn]⟩
  have hapart := h.names_apart.forall hm hn hne
  rw [hname] at hapart
  cases hapart

theorem eq_of_discriminant {m n : String × Int64} (hm : m ∈ e.members) (hn : n ∈ e.members)
    (hd : m.2 = n.2) : m = n := by
  by_contra hne
  have hsymm : Std.Symm fun m n : String × Int64 => m.2 ≠ n.2 := ⟨fun m n hmn => hmn.symm⟩
  exact h.discriminants_apart.forall hm hn hne hd

theorem byName?_of_sameName {m : String × Int64} (hm : m ∈ e.members) {text : String}
    (htext : Text.sameName m.1 text = true) : e.byName? text = some m.2 := by
  have hfind : e.members.find? (fun n => Text.sameName n.1 text) = some m := by
    refine find?_eq_some_of_unique hm htext ?_
    intro n hn hname
    refine h.eq_of_sameName hn hm ?_
    rw [Text.sameName_comm] at htext
    rw [← Text.sameName_congr htext]
    exact hname
  unfold byName?
  rw [hfind]
  rfl

theorem memberName?_of_mem {m : String × Int64} (hm : m ∈ e.members) :
    e.memberName? m.2 = some m.1 := by
  have hfind : e.members.find? (fun n => decide (n.2 = m.2)) = some m := by
    refine find?_eq_some_of_unique hm (decide_eq_true rfl) ?_
    intro n hn hd
    exact h.eq_of_discriminant hn hm (of_decide_eq_true hd)
  unfold memberName?
  rw [hfind]
  rfl

end IsClear

theorem byName?_toString {e : Enumeration} {n : Int} (h : ∀ m ∈ e.members, m.1 ≠ toString n) :
    e.byName? (toString n) = none := by
  have hfind : e.members.find? (fun m => Text.sameName m.1 (toString n)) = none := by
    rw [List.find?_eq_none]
    intro m hm hname
    exact h m hm (Text.eq_of_sameName (not_isCased_of_toString n) hname)
  unfold byName?
  rw [hfind]
  rfl

/-- a decimal text that is no name stands for the discriminant it is the numeral of -/
theorem memberOf?_toString {e : Enumeration} {n : Int} (h : ∀ m ∈ e.members, m.1 ≠ toString n)
    {d : Int64} : memberOf? e (toString n) = some d ↔ d.toInt = n ∧ e.names d = true := by
  unfold memberOf?
  rw [byName?_toString h]
  dsimp only
  by_cases hn : Width.w64.least ≤ n ∧ n ≤ Width.w64.greatest
  · rw [readSigned_toString_of_mem hn.1 hn.2]
    dsimp only
    rw [Option.ite_none_right_eq_some, Option.some_inj]
    constructor
    · rintro ⟨hnames, rfl⟩
      exact ⟨Width.w64.toInt_ofInt_of_mem hn.1 hn.2, hnames⟩
    · rintro ⟨rfl, hnames⟩
      rw [Int64.ofInt_toInt]
      exact ⟨hnames, rfl⟩
  · rw [Number.readSigned_toString .w64 hn]
    refine iff_of_false nofun ?_
    rintro ⟨rfl, -⟩
    exact hn (Width.w64.toInt_mem d.toBitVec)

theorem memberOf?_of_sameName {e : Enumeration} (h : e.IsClear) {m : String × Int64}
    (hm : m ∈ e.members) {text : String} (htext : Text.sameName m.1 text = true) :
    memberOf? e text = some m.2 := by
  unfold memberOf?
  rw [h.byName?_of_sameName hm htext]

/-- no name is the decimal text of an integer that can be a discriminant -/
theorem IsClear.ne_toString {e : Enumeration} (h : e.IsClear) {n : Int}
    (hl : Width.w64.least ≤ n) (hg : n ≤ Width.w64.greatest) :
    ∀ m ∈ e.members, m.1 ≠ toString n := by
  intro m hm hname
  have hspells := Number.spellsSigned_toString n
  rw [← hname] at hspells
  exact h.names_not_numerals m hm n hl hg hspells

/-! ## literals -/

variable {α : Type} [Schema α]

theorem resolve_enum_int (r : Registry α) (e : Enumeration) (d : Int64) :
    r.resolve (.enum e) (.int d) =
      if e.names d then .ok (.const (.enum ⟨e, d⟩))
      else .error (.mismatch (toString d.toInt) e.name) := by
  rw [Registry.resolve_of_not_isText r _ _ rfl]
  simp only [coerce?, coerceInt?_enum]
  cases e.names d with
  | true => rfl
  | false => rfl

/-- an unsigned literal is taken for the signed one of its value, if there is one -/
theorem resolve_enum_uint (r : Registry α) (e : Enumeration) (k : UInt64) :
    r.resolve (.enum e) (.uint k) =
      if (k.toNat : Int) ≤ Width.w64.greatest ∧ e.names (Int64.ofNat k.toNat) then
        .ok (.const (.enum ⟨e, Int64.ofNat k.toNat⟩))
      else .error (.mismatch (toString k.toNat) e.name) := by
  rw [Registry.resolve_of_not_isText r _ _ rfl]
  simp only [coerce?, coerceUInt?_of_signed (t := .enum e) rfl, coerceInt?_enum]
  by_cases hk : (k.toNat : Int) ≤ Width.w64.greatest
  · rw [if_pos hk]
    cases hnames : e.names (Int64.ofNat k.toNat) with
    | true => rw [if_pos rfl, if_pos ⟨hk, rfl⟩]
    | false =>
      rw [if_neg Bool.false_ne_true, if_neg fun h => Bool.false_ne_true h.2]
      rfl
  · rw [if_neg hk, if_neg fun h => hk h.1]
    rfl

theorem Spelling.resolve_eq {e : Enumeration} (h : e.IsClear) {m : String × Int64}
    (hm : m ∈ e.members) {raw : RawLiteral} (hraw : Spelling m raw) (r : Registry α) :
    r.resolve (.enum e) raw = .ok (.const (.enum ⟨e, m.2⟩)) := by
  have hnames : e.names m.2 = true := (names_iff e m.2).mpr ⟨m, hm, rfl⟩
  cases hraw with
  | @name text word htext hword =>
    have htrimmed : Text.trimmed text = Text.trimmed word := by
      unfold Text.trimmed
      rw [htext.trim_eq]
    have hname : Text.sameName m.1 (Text.trimmed text) = true := by
      rw [htrimmed, ← h.names_trimmed m hm]
      exact Text.sameName_trimmed hword
    rw [Registry.resolve_text, Registry.resolveText_enum, memberOf?_of_sameName h hm hname]
  | decimal htext =>
    have hrange : Width.w64.least ≤ m.2.toInt ∧ m.2.toInt ≤ Width.w64.greatest :=
      Width.w64.toInt_mem m.2.toBitVec
    have hne := h.ne_toString hrange.1 hrange.2
    rw [Registry.resolve_text, Registry.resolveText_enum, trimmed_of_decimal htext,
      (memberOf?_toString hne).mpr ⟨rfl, hnames⟩]
  | int => rw [resolve_enum_int, if_pos hnames]
  | @uint k hk =>
    have hle : (k.toNat : Int) ≤ Width.w64.greatest := hk ▸ (Width.w64.toInt_mem m.2.toBitVec).2
    rw [resolve_enum_uint, Width.ofNat_eq_of_toNat_eq hk, if_pos ⟨hle, hnames⟩]

theorem resolve_enum_decimal_of_not_mem {e : Enumeration} {n : Int}
    (hn : ∀ m ∈ e.members, m.2.toInt ≠ n) (hname : ∀ m ∈ e.members, m.1 ≠ toString n)
    {text : String} (htext : Text.Padded text.toList (toString n).toList) (r : Registry α) :
    r.resolve (.enum e) (.text text) = .error (.unknownMember (toString n) e.name) := by
  have hnone : memberOf? e (toString n) = none := by
    rw [Option.eq_none_iff_forall_ne_some]
    intro d hd
    obtain ⟨rfl, hnames⟩ := (memberOf?_toString hname).mp hd
    obtain ⟨m, hm, rfl⟩ := (names_iff e d).mp hnames
    exact hn m hm rfl
  rw [Registry.resolve_text, Registry.resolveText_enum, trimmed_of_decimal htext, hnone]

theorem names_eq_false_of_not_mem {e : Enumeration} {n : Int}
    (hn : ∀ m ∈ e.members, m.2.toInt ≠ n) {d : Int64} (hd : d.toInt = n) : e.names d = false := by
  rw [← Bool.not_eq_true, names_iff]
  rintro ⟨m, hm, rfl⟩
  exact hn m hm hd

/-- a member comes from all of its spellings, and an integer that is no discriminant from none of its own.
A name may be the numeral of an integer beyond the discriminants, and then that text is the name -/
theorem resolve_member {e : Enumeration} (h : e.IsClear) (r : Registry α) :
    (∀ m ∈ e.members, (⟨e, m.2⟩ : EnumValue).name? = some m.1 ∧
      ∀ raw, Spelling m raw → r.resolve (.enum e) raw = .ok (.const (.enum ⟨e, m.2⟩))) ∧
    ∀ n : Int, (∀ m ∈ e.members, m.2.toInt ≠ n) →
      (∀ text : String, Text.Padded text.toList (toString n).toList →
        (Width.w64.least ≤ n ∧ n ≤ Width.w64.greatest ∨ ∀ m ∈ e.members, m.1 ≠ toString n) →
          r.resolve (.enum e) (.text text) = .error (.unknownMember (toString n) e.name)) ∧
      (∀ d : Int64, d.toInt = n →
        r.resolve (.enum e) (.int d) = .error (.mismatch (toString n) e.name)) ∧
      ∀ k : UInt64, (k.toNat : Int) = n →
        r.resolve (.enum e) (.uint k) = .error (.mismatch (toString n) e.name) := by
  constructor
  · intro m hm
    exact ⟨h.memberName?_of_mem hm, fun raw hraw => hraw.resolve_eq h hm r⟩
  · intro n hn
    refine ⟨?_, ?_, ?_⟩
    · intro text htext hname
      rcases hname with ⟨hl, hg⟩ | hname
      · exact resolve_enum_decimal_of_not_mem hn (h.ne_toString hl hg) htext r
      · exact resolve_enum_decimal_of_not_mem hn hname htext r
    · rintro d rfl
      rw [resolve_enum_int, names_eq_false_of_not_mem hn rfl]
      rfl
    · rintro k rfl
      have hrefused : ¬ ((k.toNat : Int) ≤ Width.w64.greatest ∧
          e.names (Int64.ofNat k.toNat) = true) := by
        rintro ⟨hle, hnames⟩
        rw [names_eq_false_of_not_mem hn (Width.toInt_ofNat_of_le hle)] at hnames
        cases hnames
      rw [resolve_enum_uint, if_neg hrefused]
      rfl

/-- that no name is a numeral shows when the names are read -/
theorem names_not_numerals_of_read {e : Enumeration}
    (h : ∀ m ∈ e.members, (Number.readSigned .w64 m.1.toList).toOption = none) :
    ∀ m ∈ e.members, ∀ n, Width.w64.least ≤ n → n ≤ Width.w64.greatest →
      ¬ SpellsSigned m.1.toList n := by
  intro m hm n hl hg hspells
  have hread := (Number.readSigned_eq_ok_iff .w64 _ n).mpr ⟨⟨hl, hg⟩, hspells⟩
  have hnone := h m hm
  rw [hread] at hnone
  cases hnone

theorem isClear_extreme : World.extreme.IsClear where
  names_apart := by decide +kernel
  names_trimmed := by decide +kernel
  names_not_numerals := names_not_numerals_of_read (by decide +kernel)
  discriminants_apart := by decide +kernel

/-- the greatest discriminant in three spellings, and the integer above it -/
theorem resolve_member_extreme :
    (Registry.defaults : Registry World.Entity).resolve (.enum World.extreme) (.text " hIGHEST\n") =
      .ok (.const (.enum ⟨World.extreme, 9223372036854775807⟩)) ∧
    (Registry.defaults : Registry World.Entity).resolve (.enum World.extreme)
      (.text "9223372036854775807 ") = .ok (.const (.enum ⟨World.extreme, 9223372036854775807⟩)) ∧
    (Registry.defaults : Registry World.Entity).resolve (.enum World.extreme)
      (.uint 9223372036854775807) = .ok (.const (.enum ⟨World.extreme, 9223372036854775807⟩)) ∧
    (Registry.defaults : Registry World.Entity).resolve (.enum World.extreme)
      (.text "9223372036854775808") = .error (.unknownMember "9223372036854775808" "Extreme") ∧
    (Registry.defaults : Registry World.Entity).resolve (.enum World.extreme)
      (.uint 9223372036854775808) = .error (.mismatch "9223372036854775808" "Extreme") := by
  obtain ⟨hmembers, hothers⟩ :=
    resolve_member isClear_extreme (.defaults : Registry World.Entity)
  have hmem : ("Highest", 9223372036854775807) ∈ World.extreme.members := by decide
  obtain ⟨-, hspellings⟩ := hmembers _ hmem
  have hname : Text.Padded " hIGHEST\n".toList "hIGHEST".toList :=
    ⟨[' '], ['\n'], List.forall_mem_singleton.mpr (by decide),
      List.forall_mem_singleton.mpr (by decide), rfl⟩
  have hnumeral : Text.Padded "9223372036854775807 ".toList
      (toString (9223372036854775807 : Int)).toList :=
    ⟨[], [' '], List.forall_mem_nil _, List.forall_mem_singleton.mpr (by decide), by decide +kernel⟩
  have hplain : Text.Padded "9223372036854775808".toList
      (toString (9223372036854775808 : Int)).toList :=
    ⟨[], [], List.forall_mem_nil _, List.forall_mem_nil _, by decide +kernel⟩
  obtain ⟨htext, -, huint⟩ := hothers 9223372036854775808 (by decide)
  exact ⟨hspellings _ (.name hname (by decide +kernel)), hspellings _ (.decimal hnumeral),
    hspellings _ (.uint rfl), htext _ hplain (.inr (by decide +kernel)), huint _ rfl⟩

/-- the second member is called by the integer above the greatest discriminant -/
def scale : Enumeration := ⟨"Scale", [("Small", 0), ("9223372036854775808", 1)]⟩

/-- the decimal text of an integer that is no discriminant comes to the member of that name -/
theorem numeral_taken_as_name :
    scale.IsClear ∧ (∀ m ∈ scale.members, m.2.toInt ≠ 9223372036854775808) ∧
      (Registry.defaults : Registry World.Entity).resolve (.enum scale)
        (.text (toString (9223372036854775808 : Int))) = .ok (.const (.enum ⟨scale, 1⟩)) := by
  have hclear : scale.IsClear :=
    { names_apart := by decide +kernel
      names_trimmed := by decide +kernel
      names_not_numerals := names_not_numerals_of_read (by decide +kernel)
      discriminants_apart := by decide +kernel }
  have hmember : memberOf? scale (Text.trimmed (toString (9223372036854775808 : Int))) = some 1 := by
    decide +kernel
  refine ⟨hclear, by decide, ?_⟩
  rw [Registry.resolve_text, Registry.resolveText_enum, hmember]

end Enumeration
end ObjectFilter
