import Mathlib.Data.List.Chain
import ObjectFilter.Text.Insensitive

/-!
# Case classes of characters and of their lowercase forms

What the tables say about single characters, and what follows for texts: mapping a text to lowercase
character by character keeps what a sigma sees of its surroundings.

* `lower_cases`               a character is its own lowercase form, or cased with a cased one;
* `eq_sigma_of_mem_lower`     only the two sigmas have a small sigma in their lowercase form;
* `meetsCased_folded_append`, `meetsCased_reverse_folded_append`   folding keeps `meetsCased`.
-/

namespace ObjectFilter.Text

/-! ## ranges of cased characters -/

/-- cased, and not one of the characters that case passes over -/
def StandsCased (c : Char) : Prop := isCased c = true ∧ isCaseIgnorable c = false

/-- one of the spans covers the code points -/
def coveredBy (first last : Nat) : List Span → Bool
  | [] => false
  | s :: rest => Nat.ble s.first first && Nat.ble last s.last || coveredBy first last rest

/-- no span meets the code points; the spans are in ascending order -/
def clearOf (first last : Nat) : List Span → Bool
  | [] => true
  | s :: rest => Nat.blt last s.first || Nat.blt s.last first && clearOf first last rest

/-- all code points of a range are cased, and case passes over none of them -/
def isCasedRange (first last : Nat) : Bool :=
  coveredBy first last casedSpans && clearOf first last caseIgnorableSpans

theorem exists_of_coveredBy {first last : Nat} {spans : List Span}
    (h : coveredBy first last spans = true) : ∃ s ∈ spans, s.first ≤ first ∧ last ≤ s.last := by
  induction spans with
  | nil => cases h
  | cons s rest ih =>
    rw [coveredBy, Bool.or_eq_true, Bool.and_eq_true, Nat.ble_eq, Nat.ble_eq] at h
    rcases h with h | h
    · exact ⟨s, List.mem_cons_self, h⟩
    · obtain ⟨t, ht, hcovers⟩ := ih h
      exact ⟨t, List.mem_cons_of_mem s ht, hcovers⟩

theorem apart_of_clearOf {first last : Nat} {spans : List Span}
    (hsorted : spans.Pairwise (·.first ≤ ·.first)) (h : clearOf first last spans = true) :
    ∀ s ∈ spans, last < s.first ∨ s.last < first := by
  induction spans with
  | nil =>
    intro s hs
    cases hs
  | cons s rest ih =>
    obtain ⟨hle, hrest⟩ := List.pairwise_cons.mp hsorted
    rw [clearOf, Bool.or_eq_true, Bool.and_eq_true, Nat.blt_eq, Nat.blt_eq] at h
    intro t ht
    rcases h with h | ⟨h, hclear⟩
    · rcases List.mem_cons.mp ht with rfl | ht
      · exact .inl h
      · exact .inl (Nat.lt_of_lt_of_le h (hle t ht))
    · rcases List.mem_cons.mp ht with rfl | ht
      · exact .inr h
      · exact ih hrest hclear t ht

theorem sorted_caseIgnorableSpans : caseIgnorableSpans.Pairwise (·.first ≤ ·.first) := by
  have htrans : IsTrans Span (·.first ≤ ·.first) := ⟨fun _ _ _ => Nat.le_trans⟩
  have hchain : caseIgnorableSpans.IsChain (·.first ≤ ·.first) := by decide +kernel
  exact List.isChain_iff_pairwise.mp hchain

theorem standsCased_of_isCasedRange {first last : Nat} (h : isCasedRange first last = true)
    {c : Char} (hfirst : first ≤ c.toNat) (hlast : c.toNat ≤ last) : StandsCased c := by
  rw [isCasedRange, Bool.and_eq_true] at h
  constructor
  · obtain ⟨s, hs, h1, h2⟩ := exists_of_coveredBy h.1
    exact (inSpans_iff _ _).mpr ⟨s, hs, by omega, by omega⟩
  · rw [← Bool.not_eq_true, isCaseIgnorable, inSpans_iff]
    intro h
    obtain ⟨s, hs, h1, h2⟩ := h
    have hapart := apart_of_clearOf sorted_caseIgnorableSpans h.2 s hs
    omega

/-! ## the runs of capital letters -/

namespace Shift

/-- the letters of the run are cased, as one range or one by one -/
def fromCased (s : Shift) : Bool :=
  isCasedRange s.first s.last ||
    (List.range ((s.last - s.first) / s.step + 1)).all fun k =>
      isCasedRange (s.first + k * s.step) (s.first + k * s.step)

/-- the letters that the run moves to are characters, and cased -/
def toCased (s : Shift) : Bool :=
  0 ≤ s.first + s.delta &&
    (s.last + s.delta < 0xD800 || 0xDFFF < s.first + s.delta && s.last + s.delta < 0x110000) &&
    isCasedRange (s.first + s.delta).toNat (s.last + s.delta).toNat

theorem le_of_moves {s : Shift} {n : Nat} (h : s.moves n = true) : s.first ≤ n ∧ n ≤ s.last := by
  simp only [moves, Bool.and_eq_true, decide_eq_true_iff] at h
  exact h.1

theorem standsCased_of_moves {s : Shift} (h : s.fromCased = true) {c : Char}
    (hc : s.moves c.toNat = true) : StandsCased c := by
  obtain ⟨hfirst, hlast⟩ := le_of_moves hc
  rw [fromCased, Bool.or_eq_true, List.all_eq_true] at h
  rcases h with h | h
  · exact standsCased_of_isCasedRange h hfirst hlast
  · simp only [moves, Bool.and_eq_true, beq_iff_eq] at hc
    have hk : s.first + (c.toNat - s.first) / s.step * s.step = c.toNat := by
      rw [Nat.div_mul_cancel (Nat.dvd_of_mod_eq_zero hc.2)]
      omega
    have hmem : (c.toNat - s.first) / s.step ∈ List.range ((s.last - s.first) / s.step + 1) := by
      have hle : (c.toNat - s.first) / s.step ≤ (s.last - s.first) / s.step :=
        Nat.div_le_div_right (by omega)
      rw [List.mem_range]
      omega
    exact standsCased_of_isCasedRange (h _ hmem) (by omega) (by omega)

theorem standsCased_moved {s : Shift} (h : s.toCased = true) {n : Nat} (hn : s.moves n = true) :
    (Char.ofNat (n + s.delta).toNat).toNat = (n + s.delta).toNat ∧
      StandsCased (Char.ofNat (n + s.delta).toNat) := by
  obtain ⟨hfirst, hlast⟩ := le_of_moves hn
  rw [toCased, Bool.and_eq_true, Bool.and_eq_true, Bool.or_eq_true, Bool.and_eq_true,
    decide_eq_true_iff, decide_eq_true_iff, decide_eq_true_iff, decide_eq_true_iff] at h
  obtain ⟨⟨hpos, hvalid⟩, hrange⟩ := h
  have hchar : (Char.ofNat (n + s.delta).toNat).toNat = (n + s.delta).toNat := by
    have hchar : Nat.isValidChar (n + s.delta).toNat := by
      unfold Nat.isValidChar
      omega
    rw [Char.ofNat, dif_pos hchar]
    rfl
  refine ⟨hchar, standsCased_of_isCasedRange hrange ?_ ?_⟩
  · rw [hchar]
    omega
  · rw [hchar]
    omega

end Shift

theorem lowerShifts_cased : ∀ s ∈ lowerShifts, s.fromCased = true ∧ s.toCased = true := by
  decide +kernel

/-! ## the lowercase form of a character -/

/-- what a lowercase form can be: the character itself, the two characters for a capital I with a
dot, or one cased character for another -/
theorem lower_cases (c : Char) :
    lower c = [c] ∨ (c = '\u0130' ∧ lower c = ['i', '\u0307']) ∨
      StandsCased c ∧ ∃ s ∈ lowerShifts, s.moves c.toNat = true ∧
        ∃ d, d.toNat = (c.toNat + s.delta).toNat ∧ StandsCased d ∧ lower c = [d] := by
  unfold lower
  split
  · next h => exact .inr (.inl ⟨h, rfl⟩)
  · unfold shifted
    cases hfind : lowerShifts.find? (·.moves c.toNat) with
    | none =>
      left
      simp only [Char.ofNat_toNat]
    | some s =>
      have hmem : s ∈ lowerShifts := List.mem_of_find?_eq_some hfind
      have hmoves : s.moves c.toNat = true := by
        have hsome := List.find?_some hfind
        exact hsome
      obtain ⟨hfrom, hto⟩ := lowerShifts_cased s hmem
      obtain ⟨hnat, hcased⟩ := Shift.standsCased_moved hto hmoves
      exact .inr (.inr ⟨Shift.standsCased_of_moves hfrom hmoves, s, hmem, hmoves, _, hnat, hcased,
        rfl⟩)

/-- the classes of a cased character are those of its lowercase form, and there are no others -/
theorem lower_classes (c : Char) :
    lower c = [c] ∨ StandsCased c ∧
      ((∃ d, StandsCased d ∧ lower c = [d]) ∨
        ∃ d e, StandsCased d ∧ isCaseIgnorable e = true ∧ lower c = [d, e]) := by
  rcases lower_cases c with h | ⟨rfl, h⟩ | ⟨hc, -, -, -, d, -, hd, h⟩
  · exact .inl h
  · refine .inr ⟨⟨by decide +kernel, by decide +kernel⟩, .inr ⟨_, _, ⟨?_, ?_⟩, ?_, h⟩⟩
    all_goals decide +kernel
  · exact .inr ⟨hc, .inl ⟨d, hd, h⟩⟩

theorem lower_eq_self_of_isCaseIgnorable {c : Char} (h : isCaseIgnorable c = true) :
    lower c = [c] := by
  rcases lower_classes c with hself | ⟨⟨-, hc⟩, -⟩
  · exact hself
  · rw [h] at hc
    cases hc

theorem lower_capitalSigma : lower 'Σ' = ['σ'] := by decide

theorem lower_smallSigma : lower 'σ' = ['σ'] := by decide

/-- the capital sigma alone moves to the small sigma -/
theorem eq_capitalSigma_of_moves : ∀ s ∈ lowerShifts,
    s.moves ('σ'.toNat - s.delta).toNat = true → ('σ'.toNat - s.delta).toNat = 'Σ'.toNat := by
  decide +kernel

theorem eq_sigma_of_mem_lower {c : Char} (h : 'σ' ∈ lower c) : c = 'Σ' ∨ c = 'σ' := by
  rcases lower_cases c with hself | ⟨-, hdot⟩ | ⟨-, s, hs, hmoves, d, hd, -, hlower⟩
  · rw [hself, List.mem_singleton] at h
    exact .inr h.symm
  · rw [hdot] at h
    exact absurd h (by decide)
  · rw [hlower, List.mem_singleton] at h
    rw [← h] at hd
    have hnat : 'σ'.toNat = 0x3C3 := rfl
    have hc : c.toNat = ('σ'.toNat - s.delta).toNat := by omega
    rw [hc] at hmoves
    left
    rw [← Char.ofNat_toNat c, hc, eq_capitalSigma_of_moves s hs hmoves, Char.ofNat_toNat]

/-! ## what a sigma sees of its surroundings -/

theorem meetsCased_nil : meetsCased [] = false := rfl

theorem meetsCased_cons (c : Char) (cs : List Char) :
    meetsCased (c :: cs) = if isCaseIgnorable c then meetsCased cs else isCased c := by
  unfold meetsCased
  rw [List.dropWhile_cons]
  cases isCaseIgnorable c <;> rfl

theorem meetsCased_cons_of_standsCased {c : Char} (h : StandsCased c) (cs : List Char) :
    meetsCased (c :: cs) = true := by
  rw [meetsCased_cons, h.2]
  exact h.1

theorem meetsCased_append (xs ys : List Char) :
    meetsCased (xs ++ ys) = if xs.all isCaseIgnorable then meetsCased ys else meetsCased xs := by
  induction xs with
  | nil => rfl
  | cons c cs ih =>
    rw [List.cons_append, meetsCased_cons, meetsCased_cons, List.all_cons, ih]
    cases isCaseIgnorable c <;> rfl

theorem meetsCased_append_congr (xs : List Char) {ys zs : List Char}
    (h : meetsCased ys = meetsCased zs) : meetsCased (xs ++ ys) = meetsCased (xs ++ zs) := by
  rw [meetsCased_append, meetsCased_append, h]

theorem meetsCased_of_all_isCaseIgnorable {cs : List Char} (h : cs.all isCaseIgnorable = true) :
    meetsCased cs = false := by
  rw [← List.append_nil cs, meetsCased_append, if_pos h, meetsCased_nil]

theorem meetsCased_of_prefix {xs ys : List Char} (h : xs <+: ys) (hxs : meetsCased xs = true) :
    meetsCased ys = true := by
  obtain ⟨zs, rfl⟩ := h
  rw [meetsCased_append, if_neg]
  · exact hxs
  · intro hall
    rw [meetsCased_of_all_isCaseIgnorable hall] at hxs
    cases hxs

theorem meetsCased_lower_append (c : Char) (ys : List Char) :
    meetsCased (lower c ++ ys) = meetsCased (c :: ys) := by
  rcases lower_classes c with h | ⟨hc, ⟨d, hd, h⟩ | ⟨d, e, hd, -, h⟩⟩
  · rw [h]
    rfl
  · rw [h, List.singleton_append, meetsCased_cons_of_standsCased hd,
      meetsCased_cons_of_standsCased hc]
  · rw [h, List.cons_append, meetsCased_cons_of_standsCased hd, meetsCased_cons_of_standsCased hc]

theorem meetsCased_reverse_lower_append (c : Char) (ys : List Char) :
    meetsCased ((lower c).reverse ++ ys) = meetsCased (c :: ys) := by
  rcases lower_classes c with h | ⟨hc, ⟨d, hd, h⟩ | ⟨d, e, hd, he, h⟩⟩
  · rw [h]
    rfl
  · rw [h, List.reverse_singleton, List.singleton_append, meetsCased_cons_of_standsCased hd,
      meetsCased_cons_of_standsCased hc]
  · have hrev : [d, e].reverse ++ ys = e :: d :: ys := rfl
    rw [h, hrev, meetsCased_cons, if_pos he, meetsCased_cons_of_standsCased hd,
      meetsCased_cons_of_standsCased hc]

theorem meetsCased_folded_append (cs ys : List Char) :
    meetsCased (folded cs ++ ys) = meetsCased (cs ++ ys) := by
  induction cs with
  | nil => rfl
  | cons c cs ih =>
    rw [folded_cons, List.append_assoc, meetsCased_lower_append, List.cons_append, meetsCased_cons,
      meetsCased_cons, ih]

theorem meetsCased_reverse_folded_append (cs : List Char) :
    ∀ ys, meetsCased ((folded cs).reverse ++ ys) = meetsCased (cs.reverse ++ ys) := by
  induction cs with
  | nil =>
    intro ys
    rfl
  | cons c cs ih =>
    intro ys
    rw [folded_cons, List.reverse_append, List.append_assoc, ih, List.reverse_cons,
      List.append_assoc]
    exact meetsCased_append_congr _ (meetsCased_reverse_lower_append c ys)

end ObjectFilter.Text
