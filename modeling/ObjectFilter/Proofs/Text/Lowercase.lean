import ObjectFilter.Proofs.Text.Case

/-!
# Lowercase forms in context

The lowercase form of a text may differ from that of the same text inside a longer one, because a capital
sigma looks at what is around it.  `lowerBetween` is the form of a part of a text.

* `lowerBetween_append`        the form of a text is that of its parts, each in its place;
* `lowerBetween_eq_iff`        two contexts give one form exactly if every capital sigma ends a word
                               in both or in neither;
* `isPrefix_lowerBetween`      a folded fragment none of whose sigmas ends a word starts the lowercase
                               form of every text whose folded form it starts.
-/

namespace ObjectFilter.Text

/-! ## a part of a text -/

/-- the lowercase form of a part of a text, given what stands before it, read backwards, and
behind it -/
def lowerBetween (before : List Char) : List Char → List Char → List Char
  | [], _ => []
  | c :: rest, after =>
    (if c = 'Σ' then [if endsWord before (rest ++ after) then 'ς' else 'σ'] else lower c)
      ++ lowerBetween (c :: before) rest after

theorem lowerBetween_nil_right (cs : List Char) :
    ∀ before, lowerBetween before cs [] = lowerAfter before cs := by
  induction cs with
  | nil =>
    intro before
    rfl
  | cons c cs ih =>
    intro before
    rw [lowerBetween, lowerAfter, List.append_nil, ih]

theorem lowerText_eq_lowerBetween (cs : List Char) : lowerText cs = lowerBetween [] cs [] :=
  (lowerBetween_nil_right cs []).symm

theorem lowerBetween_append (xs ys after : List Char) :
    ∀ before, lowerBetween before (xs ++ ys) after
      = lowerBetween before xs (ys ++ after) ++ lowerBetween (xs.reverse ++ before) ys after := by
  induction xs with
  | nil =>
    intro before
    rfl
  | cons c xs ih =>
    intro before
    rw [List.cons_append, lowerBetween, lowerBetween, ih, List.append_assoc, List.append_assoc,
      List.reverse_cons, List.append_assoc]
    rfl

/-- the form of a capital sigma in its place -/
theorem lowerBetween_capitalSigma (before cs after : List Char) :
    lowerBetween before ('Σ' :: cs) after
      = (if endsWord before (cs ++ after) then 'ς' else 'σ')
          :: lowerBetween ('Σ' :: before) cs after := by
  rw [lowerBetween, if_pos rfl]
  rfl

theorem lowerBetween_cons_of_ne {c : Char} (h : c ≠ 'Σ') (before cs after : List Char) :
    lowerBetween before (c :: cs) after = lower c ++ lowerBetween (c :: before) cs after := by
  rw [lowerBetween, if_neg h]

theorem length_lowerBetween (cs after : List Char) :
    ∀ before, (lowerBetween before cs after).length = (folded cs).length := by
  induction cs with
  | nil =>
    intro before
    rfl
  | cons c cs ih =>
    intro before
    rw [folded_cons, List.length_append]
    by_cases hc : c = 'Σ'
    · rw [hc, lowerBetween_capitalSigma, List.length_cons, ih, lower_capitalSigma,
        List.length_singleton, Nat.add_comm]
    · rw [lowerBetween_cons_of_ne hc, List.length_append, ih]

theorem length_lowerText (cs : List Char) : (lowerText cs).length = (folded cs).length := by
  rw [lowerText_eq_lowerBetween, length_lowerBetween]

/-! ## two contexts -/

/-- two contexts give one form exactly if they agree on which sigmas end a word -/
theorem lowerBetween_eq_iff (cs after after' : List Char) :
    ∀ before before', lowerBetween before cs after = lowerBetween before' cs after' ↔
      ∀ xs ys, cs = xs ++ 'Σ' :: ys →
        endsWord (xs.reverse ++ before) (ys ++ after)
          = endsWord (xs.reverse ++ before') (ys ++ after') := by
  induction cs with
  | nil =>
    intro before before'
    refine iff_of_true rfl ?_
    intro xs ys h
    exact absurd h.symm (List.append_ne_nil_of_right_ne_nil xs (List.cons_ne_nil _ _))
  | cons c cs ih =>
    intro before before'
    -- the sigmas behind the first character, seen from the whole text
    have htail : (∀ xs ys, cs = xs ++ 'Σ' :: ys →
          endsWord (xs.reverse ++ c :: before) (ys ++ after)
            = endsWord (xs.reverse ++ c :: before') (ys ++ after')) ↔
        ∀ xs ys, c :: cs = (c :: xs) ++ 'Σ' :: ys →
          endsWord ((c :: xs).reverse ++ before) (ys ++ after)
            = endsWord ((c :: xs).reverse ++ before') (ys ++ after') := by
      simp only [List.cons_append, List.cons.injEq, true_and, List.reverse_cons,
        List.append_assoc, List.nil_append]
    by_cases hc : c = 'Σ'
    · subst hc
      rw [lowerBetween_capitalSigma, lowerBetween_capitalSigma, List.cons.injEq, ih, htail]
      have hhead : (if endsWord before (cs ++ after) then 'ς' else 'σ')
            = (if endsWord before' (cs ++ after') then 'ς' else 'σ') ↔
          endsWord before (cs ++ after) = endsWord before' (cs ++ after') := by
        cases endsWord before (cs ++ after) <;> cases endsWord before' (cs ++ after') <;> decide
      rw [hhead]
      constructor
      · rintro ⟨h, hrest⟩ xs ys hxs
        cases xs with
        | nil =>
          cases hxs
          exact h
        | cons d xs =>
          cases (List.cons.inj hxs).1
          exact hrest xs ys hxs
      · intro h
        exact ⟨h [] cs rfl, fun xs ys hxs => h ('Σ' :: xs) ys hxs⟩
    · rw [lowerBetween_cons_of_ne hc, lowerBetween_cons_of_ne hc, List.append_cancel_left_eq, ih,
        htail]
      constructor
      · intro h xs ys hxs
        cases xs with
        | nil =>
          cases hxs
          exact absurd rfl hc
        | cons d xs =>
          obtain rfl := (List.cons.inj hxs).1
          exact h xs ys hxs
      · exact fun h xs ys hxs => h (c :: xs) ys hxs

/-! ## folded fragments -/

/-- no small sigma of the folded form ends a word -/
def KeepsSigmas (before fragment : List Char) : Prop :=
  ∀ xs ys, fragment = xs ++ 'σ' :: ys → endsWord (xs.reverse ++ before) ys = false

theorem KeepsSigmas.of_append {before fragment : List Char} {c : Char}
    (h : KeepsSigmas before (lower c ++ fragment)) : KeepsSigmas (c :: before) fragment := by
  intro xs ys hxs
  have hends : endsWord ((lower c ++ xs).reverse ++ before) ys = false := by
    refine h (lower c ++ xs) ys ?_
    rw [hxs, List.append_assoc]
  have hmeets : meetsCased (xs.reverse ++ ((lower c).reverse ++ before))
      = meetsCased (xs.reverse ++ c :: before) :=
    meetsCased_append_congr _ (meetsCased_reverse_lower_append c before)
  rw [List.reverse_append, List.append_assoc, endsWord, hmeets] at hends
  exact hends

/-- a folded fragment at the start of a folded text starts the lowercase form too, if none of its
sigmas ends a word already inside the fragment -/
theorem isPrefix_lowerBetween (cs after : List Char) :
    ∀ before fragment, fragment <+: folded cs → KeepsSigmas before fragment →
      fragment <+: lowerBetween before cs after := by
  induction cs with
  | nil =>
    intro before fragment hstarts _
    exact hstarts
  | cons c cs ih =>
    intro before fragment hstarts hkeeps
    rw [folded_cons] at hstarts
    by_cases hc : c = 'Σ'
    · subst hc
      cases fragment with
      | nil => exact List.nil_prefix
      | cons d rest =>
        rw [lower_capitalSigma, List.singleton_append, List.cons_prefix_cons] at hstarts
        obtain ⟨rfl, hrest⟩ := hstarts
        have hends : endsWord before rest = false := hkeeps [] rest rfl
        have hplace : endsWord before (cs ++ after) = false := by
          rw [endsWord, Bool.and_eq_false_iff] at hends ⊢
          refine hends.imp id ?_
          intro hmeets
          rw [Bool.not_eq_false'] at hmeets ⊢
          rw [← meetsCased_folded_append]
          exact meetsCased_of_prefix (hrest.trans (List.prefix_append _ _)) hmeets
        have hkeeps' : KeepsSigmas before (lower 'Σ' ++ rest) := by
          rw [lower_capitalSigma]
          exact hkeeps
        rw [lowerBetween_capitalSigma, hplace]
        exact List.cons_prefix_cons.mpr ⟨rfl, ih _ rest hrest hkeeps'.of_append⟩
    · rw [lowerBetween_cons_of_ne hc]
      -- the fragment stops inside the first form, or goes on behind it
      rcases List.prefix_or_prefix_of_prefix hstarts (List.prefix_append _ _) with h | ⟨rest, rfl⟩
      · exact h.trans (List.prefix_append _ _)
      · rw [List.prefix_append_right_inj] at hstarts ⊢
        exact ih (c :: before) rest hstarts hkeeps.of_append

/-- a folded text is its own lowercase form in place of a text with the same folded form, if none of
its sigmas ends a word -/
theorem lowerText_eq_of_folded_eq {cs : List Char} {fragment : List Char}
    (h : folded cs = fragment) (hkeeps : KeepsSigmas [] fragment) : lowerText cs = fragment := by
  have hself : fragment <+: folded cs := ⟨[], by rw [List.append_nil, h]⟩
  have hstarts : fragment <+: lowerText cs := by
    rw [lowerText_eq_lowerBetween]
    exact isPrefix_lowerBetween cs [] [] fragment hself hkeeps
  refine (hstarts.eq_of_length ?_).symm
  rw [length_lowerText, h]

end ObjectFilter.Text
