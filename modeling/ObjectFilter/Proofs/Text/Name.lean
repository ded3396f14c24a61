import ObjectFilter.Proofs.Text.Blank
import ObjectFilter.Proofs.Text.Insensitive

/-!
# Names without regard to case

Names are looked up trimmed and without regard to case, and the two do not get into each other's way: no
cased character is white space, so what is trimmed away is trimmed away in every case.  A text without
cased characters, such as a numeral, is spelled in one way only.

* `trim_folded`          folding a text and trimming it, in either order;
* `equals_trim`          texts that differ in case only are still such texts when both are trimmed;
* `sameName_congr`       a name answers to all spellings of a text;
* `eq_of_sameName`       what equals a text without cased characters is that text.
-/

namespace ObjectFilter.Text

/-! ## single characters -/

theorem apart_blankSpans : ∀ s ∈ casedSpans, ∀ b ∈ blankSpans, s.last < b.first ∨ b.last < s.first := by
  decide +kernel

theorem not_isBlank_of_isCased {c : Char} (h : isCased c = true) : isBlank c = false := by
  obtain ⟨s, hs, hfirst, hlast⟩ := (inSpans_iff casedSpans c).mp h
  rw [← Bool.not_eq_true, isBlank, inSpans_iff]
  intro hblank
  obtain ⟨b, hb, hfirst', hlast'⟩ := hblank
  have hapart := apart_blankSpans s hs b hb
  omega

/-- the lowercase form of white space is itself, and that of another character holds none -/
theorem lower_blank_cases (c : Char) :
    (isBlank c = true ∧ lower c = [c]) ∨ (isBlank c = false ∧ ∀ d ∈ lower c, isBlank d = false) := by
  rcases lower_cases c with h | ⟨rfl, h⟩ | ⟨hc, -, -, -, d, -, hd, h⟩
  · cases hc : isBlank c with
    | true => exact .inl ⟨rfl, h⟩
    | false =>
      refine .inr ⟨rfl, ?_⟩
      rw [h]
      exact List.forall_mem_singleton.mpr hc
  · refine .inr ⟨by decide, ?_⟩
    rw [h, List.forall_mem_cons, List.forall_mem_singleton]
    exact ⟨by decide, by decide⟩
  · refine .inr ⟨not_isBlank_of_isCased hc.1, ?_⟩
    rw [h]
    exact List.forall_mem_singleton.mpr (not_isBlank_of_isCased hd.1)

/-- a character that case changes has a cased character in its lowercase form -/
theorem lower_eq_self_of_not_isCased {c : Char} (h : ∀ d ∈ lower c, isCased d = false) :
    lower c = [c] := by
  rcases lower_classes c with hself | ⟨-, ⟨d, hd, hlower⟩ | ⟨d, e, hd, -, hlower⟩⟩
  · exact hself
  · have hcased := h d (by simp [hlower])
    rw [hd.1] at hcased
    cases hcased
  · have hcased := h d (by simp [hlower])
    rw [hd.1] at hcased
    cases hcased

/-- a character without case stands in the folded text where it stands in the text; the dot of a capital
I is the one character that folding brings in -/
theorem mem_folded_iff {c : Char} (hc : isCased c = false) (hdot : c ≠ '\u0307') (cs : List Char) :
    c ∈ folded cs ↔ c ∈ cs := by
  have hlower : ∀ d, c ∈ lower d ↔ c = d := by
    intro d
    rcases lower_cases d with h | ⟨rfl, h⟩ | ⟨hd, -, -, -, e, -, he, h⟩
    · rw [h, List.mem_singleton]
    · -- the lowercase form has a cased character and the dot, and the capital itself is cased
      have hcapital : c ≠ '\u0130' := by
        rintro rfl
        exact absurd hc (by decide)
      have hi : c ≠ 'i' := by
        rintro rfl
        exact absurd hc (by decide)
      simp [h, hcapital, hi, hdot]
    · rw [h, List.mem_singleton]
      constructor
      · rintro rfl
        exact absurd he.1 (by simp [hc])
      · rintro rfl
        exact absurd hd.1 (by simp [hc])
  unfold folded
  simp [List.mem_flatMap, hlower]

theorem folded_eq_nil_iff (cs : List Char) : folded cs = [] ↔ cs = [] := by
  cases cs with
  | nil => exact iff_of_true rfl rfl
  | cons c cs => simp [folded_cons, lower_ne_nil]

/-! ## white space at the ends -/

theorem trimStart_folded (cs : List Char) : trimStart (folded cs) = folded (trimStart cs) := by
  induction cs with
  | nil => rfl
  | cons c cs ih =>
    unfold trimStart at ih ⊢
    rw [folded_cons]
    rcases lower_blank_cases c with ⟨hc, hlower⟩ | ⟨hc, hlower⟩
    · rw [hlower, List.singleton_append, List.dropWhile_cons_of_pos hc,
        List.dropWhile_cons_of_pos hc, ih]
    · have hkeep : ¬ isBlank c = true := by simp [hc]
      rw [List.dropWhile_cons_of_neg hkeep, folded_cons]
      cases hform : lower c with
      | nil => exact absurd hform (lower_ne_nil c)
      | cons d ds =>
        have hd : ¬ isBlank d = true := by simp [hlower d (by simp [hform])]
        exact List.dropWhile_cons_of_neg hd

/-- by induction on the text from its end, where trimming takes away -/
theorem trimEnd_folded (cs : List Char) : trimEnd (folded cs) = folded (trimEnd cs) := by
  induction cs using List.reverseRecOn with
  | nil => rfl
  | append_singleton cs c ih =>
    have hfolded : folded (cs ++ [c]) = folded cs ++ lower c := by
      rw [folded_append, folded_cons, folded_nil, List.append_nil]
    rw [hfolded]
    rcases lower_blank_cases c with ⟨hc, hlower⟩ | ⟨hc, hlower⟩
    · have hblank : ∀ d ∈ [c], isBlank d = true := List.forall_mem_singleton.mpr hc
      rw [hlower, trimEnd_append hblank, trimEnd_append hblank, ih]
    · have hkeep : ∀ d ∈ [c], isBlank d = false := List.forall_mem_singleton.mpr hc
      rw [trimEnd_append_of_not_blank _ (lower_ne_nil c) hlower,
        trimEnd_append_of_not_blank _ (List.cons_ne_nil c []) hkeep, hfolded]

theorem trim_folded (cs : List Char) : trim (folded cs) = folded (trim cs) := by
  unfold trim
  rw [trimStart_folded, trimEnd_folded]

/-! ## names -/

theorem equals_trim {s t : List Char} (h : Insensitive.equals s t = true) :
    Insensitive.equals (trim s) (trim t) = true := by
  rw [Insensitive.equals_iff] at h ⊢
  rw [← trim_folded, h, trim_folded]

theorem sameName_iff (a b : String) : sameName a b = true ↔ folded a.toList = folded b.toList :=
  Insensitive.equals_iff a.toList b.toList

/-- a name answers to two texts that are the same but for case, or to neither -/
theorem sameName_congr {a b : String} (h : sameName a b = true) (name : String) :
    sameName name a = sameName name b := by
  rw [sameName_iff] at h
  rw [Bool.eq_iff_iff, sameName_iff, sameName_iff, h]

theorem sameName_comm (a b : String) : sameName a b = sameName b a := by
  rw [Bool.eq_iff_iff, sameName_iff, sameName_iff]
  exact eq_comm

theorem sameName_trimmed {a b : String} (h : sameName a b = true) :
    sameName (trimmed a) (trimmed b) = true := by
  unfold sameName at h ⊢
  rw [toList_trimmed, toList_trimmed]
  exact equals_trim h

theorem blank_congr {a b : String} (h : sameName a b = true) : blank a = blank b := by
  have hfolded := (Insensitive.equals_iff ..).mp (equals_trim h)
  have hempty : trim a.toList = [] ↔ trim b.toList = [] := by
    rw [← folded_eq_nil_iff (trim a.toList), hfolded, folded_eq_nil_iff]
  unfold blank
  rw [Bool.eq_iff_iff, List.isEmpty_iff, List.isEmpty_iff, hempty]

theorem folded_eq_self {cs : List Char} (h : ∀ c ∈ folded cs, isCased c = false) :
    folded cs = cs := by
  induction cs with
  | nil => rfl
  | cons c cs ih =>
    rw [folded_cons, List.forall_mem_append] at h
    rw [folded_cons, lower_eq_self_of_not_isCased h.1, ih h.2]
    rfl

theorem folded_of_not_isCased {cs : List Char} (h : ∀ c ∈ cs, isCased c = false) :
    folded cs = cs := by
  induction cs with
  | nil => rfl
  | cons c cs ih =>
    rw [List.forall_mem_cons] at h
    have hlower : lower c = [c] := by
      rcases lower_classes c with hself | ⟨hc, -⟩
      · exact hself
      · exact absurd hc.1 (by simp [h.1])
    rw [folded_cons, hlower, ih h.2]
    rfl

theorem eq_of_sameName {a b : String} (hb : ∀ c ∈ b.toList, isCased c = false)
    (h : sameName a b = true) : a = b := by
  rw [sameName_iff, folded_of_not_isCased hb] at h
  have hself : folded a.toList = a.toList := folded_eq_self (by rwa [h])
  rw [hself] at h
  exact String.toList_inj.mp h

end ObjectFilter.Text
