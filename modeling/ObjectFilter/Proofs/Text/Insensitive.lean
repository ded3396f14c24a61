import ObjectFilter.Proofs.Text.Lowercase

/-!
# What the four insensitive tests compare

The shortcuts for ASCII texts, and for texts that folding cannot change, give what the general comparison
gives.  So each test is one relation between lowercase forms, for all texts:

* `equals_iff`, `startsWith_iff`   between the folded characters;
* `endsWith_iff`, `contains_iff`   between the lowercase forms of the whole texts.
-/

namespace ObjectFilter.Text

/-! ## texts on which all lowercase forms agree -/

theorem lower_ascii : ∀ n < 128, lower (Char.ofNat n) = [(Char.ofNat n).toLower] := by
  decide +kernel

theorem lower_of_ascii {c : Char} (h : c.toNat < 128) : lower c = [c.toLower] := by
  have hlower := lower_ascii c.toNat h
  rwa [Char.ofNat_toNat] at hlower

theorem folded_of_isAscii {cs : List Char} (h : isAscii cs = true) :
    folded cs = asciiLower cs := by
  induction cs with
  | nil => rfl
  | cons c cs ih =>
    rw [isAscii, List.all_cons, Bool.and_eq_true, decide_eq_true_iff] at h
    rw [folded_cons, lower_of_ascii h.1, ih h.2]
    rfl

theorem lowerText_of_isAscii {cs : List Char} (h : isAscii cs = true) :
    lowerText cs = asciiLower cs := by
  rw [lowerText_eq_folded, folded_of_isAscii h]
  intro hmem
  rw [isAscii, List.all_eq_true] at h
  have hsigma := h 'Σ' hmem
  revert hsigma
  decide

theorem toLower_of_not_isUpper {c : Char} (h : c.isUpper = false) : c.toLower = c := by
  have hletter : decide ('A'.val ≤ c.val ∧ c.val ≤ 'Z'.val) = false := h
  unfold Char.toLower
  rw [dif_neg (of_decide_eq_false hletter)]

theorem lowerText_of_not_needsFold {cs : List Char} (h : needsFold cs = false) :
    lowerText cs = cs := by
  rw [needsFold, List.any_eq_false] at h
  have hascii : isAscii cs = true := by
    rw [isAscii, List.all_eq_true]
    intro c hc
    have hplain := h c hc
    rw [Bool.or_eq_true, not_or, decide_eq_true_iff] at hplain
    rw [decide_eq_true_iff]
    omega
  rw [lowerText_of_isAscii hascii, asciiLower]
  refine (List.map_congr_left ?_).trans (List.map_id cs)
  intro c hc
  have hplain := h c hc
  rw [Bool.or_eq_true, not_or, Bool.not_eq_true] at hplain
  exact toLower_of_not_isUpper hplain.1

theorem fold_eq_lowerText (cs : List Char) : fold cs = lowerText cs := by
  unfold fold
  split
  · rfl
  · next h =>
    rw [Bool.not_eq_true] at h
    exact (lowerText_of_not_needsFold h).symm

/-! ## parts of a text -/

theorem mem_windows_iff (length : Nat) (cs part : List Char) :
    part ∈ windows length cs ↔ part <:+: cs ∧ part.length = length := by
  unfold windows
  rw [List.mem_map]
  constructor
  · rintro ⟨i, hi, rfl⟩
    rw [List.mem_range] at hi
    refine ⟨(List.take_prefix _ _).isInfix.trans (List.drop_suffix _ _).isInfix, ?_⟩
    rw [List.length_take, List.length_drop]
    omega
  · rintro ⟨⟨before, after, rfl⟩, rfl⟩
    refine ⟨before.length, ?_, ?_⟩
    · rw [List.mem_range, List.length_append, List.length_append]
      omega
    · rw [List.append_assoc, List.drop_left, List.take_left]

/-! ## ASCII texts -/

namespace Insensitive

variable (s t : List Char)

namespace Ascii

theorem equals_iff : equals s t = true ↔ asciiLower s = asciiLower t := beq_iff_eq

theorem startsWith_iff : startsWith s t = true ↔ asciiLower t <+: asciiLower s := by
  rw [startsWith, Bool.and_eq_true, decide_eq_true_iff, equals_iff, asciiLower, List.map_take,
    List.prefix_iff_eq_take, length_asciiLower]
  constructor
  · rintro ⟨-, h⟩
    exact h.symm
  · intro h
    have hlength := congrArg List.length h
    rw [List.length_take, length_asciiLower, length_asciiLower] at hlength
    exact ⟨by omega, h.symm⟩

theorem endsWith_iff : endsWith s t = true ↔ asciiLower t <:+ asciiLower s := by
  rw [endsWith, Bool.and_eq_true, decide_eq_true_iff, equals_iff, asciiLower, List.map_drop,
    List.suffix_iff_eq_drop, length_asciiLower, length_asciiLower]
  constructor
  · rintro ⟨-, h⟩
    exact h.symm
  · intro h
    have hlength := congrArg List.length h
    rw [List.length_drop, length_asciiLower, length_asciiLower] at hlength
    exact ⟨by omega, h.symm⟩

theorem contains_iff : contains s t = true ↔ asciiLower t <:+: asciiLower s := by
  rw [contains, Bool.or_eq_true, List.isEmpty_iff, List.any_eq_true]
  constructor
  · rintro (rfl | ⟨part, hpart, hequals⟩)
    · exact List.nil_infix
    · obtain ⟨hinside, -⟩ := (mem_windows_iff ..).mp hpart
      rw [← (equals_iff part t).mp hequals]
      exact hinside.map Char.toLower
  · intro h
    obtain ⟨part, hpart, hlower⟩ := List.infix_map_iff.mp h
    have hequals : asciiLower part = asciiLower t := hlower.symm
    have hlength : part.length = t.length := by
      rw [← length_asciiLower part, hequals, length_asciiLower]
    exact .inr ⟨part, (mem_windows_iff ..).mpr ⟨hpart, hlength⟩, (equals_iff part t).mpr hequals⟩

end Ascii

/-! ## all texts -/

namespace General

theorem equals_iff : equals s t = true ↔ folded s = folded t := beq_iff_eq

theorem startsWith_iff : startsWith s t = true ↔ folded t <+: folded s :=
  List.isPrefixOf_iff_prefix

theorem endsWith_iff : endsWith s t = true ↔ lowerText t <:+ lowerText s := by
  rw [endsWith, fold_eq_lowerText, fold_eq_lowerText, List.isSuffixOf_iff_suffix]

theorem contains_iff : contains s t = true ↔ lowerText t <:+: lowerText s := by
  rw [contains, fold_eq_lowerText, fold_eq_lowerText, hasInfix_iff]

end General

/-! ## the shortcuts -/

/-- on ASCII texts the shortcut gives what the general test gives -/
def Agrees (ascii general : List Char → List Char → Bool) : Prop :=
  ∀ s t, isAscii s = true → isAscii t = true → ascii s t = general s t

theorem agrees_equals : Agrees Ascii.equals General.equals := by
  intro s t hs ht
  rw [Bool.eq_iff_iff, Ascii.equals_iff, General.equals_iff, folded_of_isAscii hs,
    folded_of_isAscii ht]

theorem agrees_startsWith : Agrees Ascii.startsWith General.startsWith := by
  intro s t hs ht
  rw [Bool.eq_iff_iff, Ascii.startsWith_iff, General.startsWith_iff, folded_of_isAscii hs,
    folded_of_isAscii ht]

theorem agrees_endsWith : Agrees Ascii.endsWith General.endsWith := by
  intro s t hs ht
  rw [Bool.eq_iff_iff, Ascii.endsWith_iff, General.endsWith_iff, lowerText_of_isAscii hs,
    lowerText_of_isAscii ht]

theorem agrees_contains : Agrees Ascii.contains General.contains := by
  intro s t hs ht
  rw [Bool.eq_iff_iff, Ascii.contains_iff, General.contains_iff, lowerText_of_isAscii hs,
    lowerText_of_isAscii ht]

theorem Agrees.withShortcut {ascii general : List Char → List Char → Bool}
    (h : Agrees ascii general) : withShortcut ascii general = general := by
  funext s t
  unfold Insensitive.withShortcut
  split
  · next hascii =>
    rw [Bool.and_eq_true] at hascii
    exact h s t hascii.1 hascii.2
  · rfl

/-! ## the tests -/

theorem equals_iff : equals s t = true ↔ folded s = folded t := by
  rw [equals, agrees_equals.withShortcut, General.equals_iff]

theorem startsWith_iff : startsWith s t = true ↔ folded t <+: folded s := by
  rw [startsWith, agrees_startsWith.withShortcut, General.startsWith_iff]

theorem endsWith_iff : endsWith s t = true ↔ lowerText t <:+ lowerText s := by
  rw [endsWith, agrees_endsWith.withShortcut, General.endsWith_iff]

theorem contains_iff : contains s t = true ↔ lowerText t <:+: lowerText s := by
  rw [contains, agrees_contains.withShortcut, General.contains_iff]

theorem equivalence_equals : Equivalence fun s t => equals s t = true where
  refl s := (equals_iff s s).mpr rfl
  symm {s t} h := (equals_iff t s).mpr ((equals_iff s t).mp h).symm
  trans {s t u} h h' :=
    (equals_iff s u).mpr (((equals_iff s t).mp h).trans ((equals_iff t u).mp h'))

/-- all four tests compare folded forms, two of them as long as there is no capital sigma -/
theorem tests_iff_folded :
    (∀ s t, equals s t = true ↔ folded s = folded t) ∧
    (∀ s t, startsWith s t = true ↔ folded t <+: folded s) ∧
    (∀ s t, 'Σ' ∉ s → 'Σ' ∉ t →
      (endsWith s t = true ↔ folded t <:+ folded s) ∧
        (contains s t = true ↔ folded t <:+: folded s)) ∧
    (∀ s t, isAscii s = true → isAscii t = true →
      Ascii.equals s t = General.equals s t ∧ Ascii.startsWith s t = General.startsWith s t ∧
        Ascii.endsWith s t = General.endsWith s t ∧
        Ascii.contains s t = General.contains s t) ∧
    Equivalence fun s t => equals s t = true := by
  refine ⟨equals_iff, startsWith_iff, ?_, ?_, equivalence_equals⟩
  · intro s t hs ht
    have hfolded : lowerText s = folded s ∧ lowerText t = folded t :=
      ⟨lowerText_eq_folded s hs, lowerText_eq_folded t ht⟩
    rw [endsWith_iff, contains_iff, hfolded.1, hfolded.2]
    exact ⟨Iff.rfl, Iff.rfl⟩
  · intro s t hs ht
    exact ⟨agrees_equals s t hs ht, agrees_startsWith s t hs ht, agrees_endsWith s t hs ht,
      agrees_contains s t hs ht⟩

/-- the capital with a dot becomes two characters, which stand apart in the other text -/
theorem tests_iff_folded_dottedCapital :
    endsWith ['x', '\u0130'] ['I', '\u0307'] = true ∧
      contains ['\u0130', 'x'] ['I', '\u0307', 'X'] = true := by
  have hends := (tests_iff_folded.2.2.1 ['x', '\u0130'] ['I', '\u0307'] (by decide)
    (by decide)).1
  have hcontains := (tests_iff_folded.2.2.1 ['\u0130', 'x'] ['I', '\u0307', 'X'] (by decide)
    (by decide)).2
  exact ⟨hends.mpr (by decide +kernel), hcontains.mpr (by decide +kernel)⟩

end Insensitive
end ObjectFilter.Text
