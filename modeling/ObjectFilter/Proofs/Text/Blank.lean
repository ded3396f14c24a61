import Mathlib.Data.List.TakeWhile
import ObjectFilter.Text.Blank
import ObjectFilter.Text.Pieces

/-!
# White space around a text

Trimming takes away what was put around a text, and nothing of a text without white space.

* `Padded.trim_eq`   blanks around a text make no difference to the trimmed text;
* `trim_eq_self`     a text without blanks is trimmed already;
* `padded_trim`      a text is its trimmed form with blanks around it;
* `blank_iff`        nothing is left of a text of blanks only;
* `exists_trim_between`   between other characters blanks are kept, and go only on an open side;
* `map_trim_pieces`  blanks around a text make no difference to its trimmed pieces.
-/

namespace ObjectFilter.Text

/-- the second text with blanks, or none, in front of it and behind it -/
def Padded (cs inner : List Char) : Prop :=
  ∃ before after, (∀ c ∈ before, isBlank c = true) ∧ (∀ c ∈ after, isBlank c = true) ∧
    cs = before ++ inner ++ after

theorem Padded.refl (cs : List Char) : Padded cs cs :=
  ⟨[], [], List.forall_mem_nil _, List.forall_mem_nil _, (List.append_nil cs).symm⟩

theorem trimStart_append {before : List Char} (h : ∀ c ∈ before, isBlank c = true)
    (cs : List Char) : trimStart (before ++ cs) = trimStart cs :=
  List.dropWhile_append_of_pos h

theorem trimEnd_append {after : List Char} (h : ∀ c ∈ after, isBlank c = true)
    (cs : List Char) : trimEnd (cs ++ after) = trimEnd cs := by
  have hreverse : ∀ c ∈ after.reverse, isBlank c = true := fun c hc => h c (List.mem_reverse.mp hc)
  unfold trimEnd
  rw [List.reverse_append, List.dropWhile_append_of_pos hreverse]

theorem trimStart_of_blank {cs : List Char} (h : ∀ c ∈ cs, isBlank c = true) :
    trimStart cs = [] :=
  List.dropWhile_eq_nil_iff.mpr h

theorem trim_of_blank {cs : List Char} (h : ∀ c ∈ cs, isBlank c = true) : trim cs = [] :=
  congrArg trimEnd (trimStart_of_blank h)

theorem Padded.trim_eq {cs inner : List Char} (h : Padded cs inner) : trim cs = trim inner := by
  obtain ⟨before, after, hbefore, hafter, rfl⟩ := h
  unfold trim
  rw [List.append_assoc, trimStart_append hbefore]
  show trimEnd ((inner ++ after).dropWhile isBlank) = trimEnd (inner.dropWhile isBlank)
  rw [List.dropWhile_append]
  split
  · next hempty =>
    -- nothing is left of the text itself, so the blanks behind it go from the front
    rw [List.isEmpty_iff.mp hempty]
    exact congrArg trimEnd (trimStart_of_blank hafter)
  · exact trimEnd_append hafter _

theorem dropWhile_eq_self {p : Char → Bool} {cs : List Char} (h : ∀ c ∈ cs, p c = false) :
    cs.dropWhile p = cs := by
  cases cs with
  | nil => rfl
  | cons c rest => exact List.dropWhile_cons_of_neg (Bool.eq_false_iff.mp (h c List.mem_cons_self))

theorem trim_eq_self {cs : List Char} (h : ∀ c ∈ cs, isBlank c = false) : trim cs = cs := by
  have hreverse : ∀ c ∈ cs.reverse, isBlank c = false := fun c hc => h c (List.mem_reverse.mp hc)
  unfold trim trimEnd trimStart
  rw [dropWhile_eq_self h, dropWhile_eq_self hreverse, List.reverse_reverse]

theorem trimEnd_append_of_not_blank (cs : List Char) {ds : List Char} (hne : ds ≠ [])
    (h : ∀ d ∈ ds, isBlank d = false) : trimEnd (cs ++ ds) = cs ++ ds := by
  unfold trimEnd
  rw [List.reverse_append]
  cases hreverse : ds.reverse with
  | nil => exact absurd (List.reverse_eq_nil_iff.mp hreverse) hne
  | cons d rest =>
    have hd : d ∈ ds := List.mem_reverse.mp (by simp [hreverse])
    have hkeep : ¬ isBlank d = true := by simp [h d hd]
    rw [List.cons_append, List.dropWhile_cons_of_neg hkeep, ← List.cons_append, ← hreverse,
      ← List.reverse_append, List.reverse_reverse]

/-- a text is what is left of it with the blanks around it put back -/
theorem padded_trim (cs : List Char) : Padded cs (trim cs) := by
  have hstart : cs = cs.takeWhile isBlank ++ trimStart cs :=
    (List.takeWhile_append_dropWhile).symm
  have hend : trimStart cs =
      trim cs ++ ((trimStart cs).reverse.takeWhile isBlank).reverse := by
    unfold trim trimEnd
    rw [← List.reverse_append, List.takeWhile_append_dropWhile, List.reverse_reverse]
  refine ⟨cs.takeWhile isBlank, ((trimStart cs).reverse.takeWhile isBlank).reverse, ?_, ?_, ?_⟩
  · exact fun c hc => List.mem_takeWhile_imp hc
  · exact fun c hc => List.mem_takeWhile_imp (List.mem_reverse.mp hc)
  · rw [List.append_assoc, ← hend]
    exact hstart

theorem trim_trim (cs : List Char) : trim (trim cs) = trim cs := (padded_trim cs).trim_eq.symm

theorem trim_eq_nil_iff {cs : List Char} : trim cs = [] ↔ ∀ c ∈ cs, isBlank c = true := by
  refine ⟨?_, trim_of_blank⟩
  intro h
  obtain ⟨before, after, hbefore, hafter, hcs⟩ := padded_trim cs
  rw [h, List.append_nil] at hcs
  rw [hcs]
  exact List.forall_mem_append.mpr ⟨hbefore, hafter⟩

theorem blank_iff (s : String) : blank s = true ↔ ∀ c ∈ s.toList, isBlank c = true := by
  rw [blank, List.isEmpty_iff, trim_eq_nil_iff]

theorem Padded.mem {cs inner : List Char} (h : Padded cs inner) {c : Char} (hc : c ∈ inner) :
    c ∈ cs := by
  obtain ⟨before, after, -, -, rfl⟩ := h
  exact List.mem_append_left after (List.mem_append_right before hc)

theorem mem_of_mem_trim {c : Char} {cs : List Char} (h : c ∈ trim cs) : c ∈ cs :=
  (padded_trim cs).mem h

theorem notMem_of_blank {cs : List Char} (h : ∀ c ∈ cs, isBlank c = true) {c : Char}
    (hc : isBlank c = false) : c ∉ cs := by
  intro hmem
  rw [h c hmem] at hc
  cases hc

theorem Padded.count_eq {cs inner : List Char} (h : Padded cs inner) {c : Char}
    (hc : isBlank c = false) : cs.count c = inner.count c := by
  obtain ⟨before, after, hbefore, hafter, rfl⟩ := h
  rw [List.count_append, List.count_append, List.count_eq_zero.mpr (notMem_of_blank hbefore hc),
    List.count_eq_zero.mpr (notMem_of_blank hafter hc), Nat.zero_add, Nat.add_zero]

/-! ## white space inside a text -/

section
variable {front back : List Char} (hfront : ∀ c ∈ front, isBlank c = false)
  (hback : ∀ c ∈ back, isBlank c = false)
include hfront hback

theorem exists_trimStart_between (cs : List Char) :
    ∃ before middle, (∀ c ∈ before, isBlank c = true) ∧ cs = before ++ middle ∧
      trimStart (front ++ cs ++ back) = front ++ middle ++ back := by
  cases front with
  | nil =>
    refine ⟨cs.takeWhile isBlank, trimStart cs, fun c hc => List.mem_takeWhile_imp hc,
      (List.takeWhile_append_dropWhile).symm, ?_⟩
    show (cs ++ back).dropWhile isBlank = cs.dropWhile isBlank ++ back
    rw [List.dropWhile_append]
    split
    · next hempty =>
      rw [List.isEmpty_iff.mp hempty, dropWhile_eq_self hback, List.nil_append]
    · rfl
  | cons c front =>
    have hc : ¬ isBlank c = true := Bool.eq_false_iff.mp (hfront c List.mem_cons_self)
    exact ⟨[], cs, List.forall_mem_nil _, rfl, List.dropWhile_cons_of_neg hc⟩

/-- the same at the end, by reversal -/
theorem exists_trimEnd_between (cs : List Char) :
    ∃ middle after, (∀ c ∈ after, isBlank c = true) ∧ cs = middle ++ after ∧
      trimEnd (front ++ cs ++ back) = front ++ middle ++ back := by
  have hreverse : ∀ {ds : List Char} {b : Bool}, (∀ c ∈ ds, isBlank c = b) →
      ∀ c ∈ ds.reverse, isBlank c = b := fun h c hc => h c (List.mem_reverse.mp hc)
  obtain ⟨before, middle, hbefore, hcs, hstart⟩ :=
    exists_trimStart_between (hreverse hback) (hreverse hfront) cs.reverse
  refine ⟨middle.reverse, before.reverse, hreverse hbefore, ?_, ?_⟩
  · rw [← List.reverse_append, ← hcs, List.reverse_reverse]
  · show (trimStart (front ++ cs ++ back).reverse).reverse = front ++ middle.reverse ++ back
    rw [List.reverse_append, List.reverse_append, ← List.append_assoc, hstart]
    simp

/-- of a text between characters that are no blanks only blanks go, and those only on a side where
there are no such characters -/
theorem exists_trim_between (cs : List Char) :
    ∃ middle, Padded cs middle ∧ trim (front ++ cs ++ back) = front ++ middle ++ back := by
  obtain ⟨before, rest, hbefore, hcs, hstart⟩ := exists_trimStart_between hfront hback cs
  obtain ⟨middle, after, hafter, hrest, hend⟩ := exists_trimEnd_between hfront hback rest
  refine ⟨middle, ⟨before, after, hbefore, hafter, ?_⟩, ?_⟩
  · rw [hcs, hrest, List.append_assoc]
  · unfold trim
    rw [hstart, hend]

end

/-! ## white space around pieces -/

/-- blanks around a text are blanks around its first and its last piece -/
theorem map_trim_pieces {separator : Char} (hseparator : isBlank separator = false)
    {cs inner : List Char} (h : Padded cs inner) :
    (pieces separator cs).map trim = (pieces separator inner).map trim := by
  obtain ⟨before, after, hbefore, hafter, rfl⟩ := h
  have hend : (pieces separator (before ++ inner ++ after)).map trim =
      (pieces separator (before ++ inner)).map trim := by
    obtain ⟨front, last, hshort, hlong⟩ :=
      pieces_append_of_notMem (notMem_of_blank hafter hseparator) (before ++ inner)
    have hlast : trim (last ++ after) = trim last :=
      Padded.trim_eq ⟨[], after, List.forall_mem_nil _, hafter, rfl⟩
    rw [hshort, hlong, List.map_append, List.map_append, List.map_singleton, List.map_singleton,
      hlast]
  have hfirst : trim (before ++ (cut separator inner).1) = trim (cut separator inner).1 :=
    Padded.trim_eq ⟨before, [], hbefore, List.forall_mem_nil _, by rw [List.append_nil]⟩
  rw [hend, pieces, cut_append_of_notMem (notMem_of_blank hbefore hseparator), List.map_cons, hfirst]
  rfl

end ObjectFilter.Text
