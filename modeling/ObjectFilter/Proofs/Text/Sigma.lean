import ObjectFilter.Proofs.Text.Insensitive

/-!
# Texts with a sigma at an end of a word

Which fragments read the same alone as inside any longer text.  A capital sigma that only ignorable
characters separate from the end of the fragment may be final in one of the two and not in the
other, and a small sigma never becomes final.

* `lowerBetween_eq_lowerText_iff`   a fragment keeps its lowercase form in all contexts exactly if no
                                    sigma of it opens or closes it;
* `keepsSigmas_folded`              what a sigma that ends no word means for the folded form.
-/

namespace ObjectFilter.Text

/-- a capital sigma that starts the fragment, but for ignorable characters, and that no cased
character follows -/
def SigmaOpens (cs : List Char) : Prop :=
  ∃ xs ys, cs = xs ++ 'Σ' :: ys ∧ xs.all isCaseIgnorable = true ∧ meetsCased ys = false

/-- a capital sigma behind a cased character that ends the fragment, but for ignorable
characters -/
def SigmaCloses (cs : List Char) : Prop :=
  ∃ xs ys, cs = xs ++ 'Σ' :: ys ∧ meetsCased xs.reverse = true ∧ ys.all isCaseIgnorable = true

/-- a sigma, capital or small, ends a word of the text -/
def SigmaEndsWord (cs : List Char) : Prop :=
  ∃ xs c ys, (c = 'Σ' ∨ c = 'σ') ∧ cs = xs ++ c :: ys ∧ endsWord xs.reverse ys = true

theorem standsCased_a : StandsCased 'a' := ⟨by decide +kernel, by decide +kernel⟩

theorem standsCased_capitalSigma : StandsCased 'Σ' := ⟨by decide +kernel, by decide +kernel⟩

/-! ## fragments in longer texts -/

/-- where a word ends in the fragment, and where in the text around it -/
theorem endsWord_append (xs ys before after : List Char) :
    endsWord (xs.reverse ++ before) (ys ++ after)
      = ((if xs.all isCaseIgnorable then meetsCased before else meetsCased xs.reverse) &&
          !if ys.all isCaseIgnorable then meetsCased after else meetsCased ys) := by
  rw [endsWord, meetsCased_append, meetsCased_append, List.all_reverse]

/-- text before the fragment makes a difference exactly if it ends in a word that the fragment
opens into -/
theorem lowerBetween_eq_lowerText_iff (cs before : List Char) :
    lowerBetween before cs [] = lowerText cs ↔
      ¬ (meetsCased before = true ∧ SigmaOpens cs) := by
  rw [lowerText_eq_lowerBetween, lowerBetween_eq_iff]
  have hends : ∀ (xs ys before : List Char), endsWord (xs.reverse ++ before) (ys ++ [])
      = ((if xs.all isCaseIgnorable then meetsCased before else meetsCased xs.reverse) &&
          !meetsCased ys) := by
    intro xs ys before
    rw [endsWord, meetsCased_append, List.all_reverse, List.append_nil]
  refine ⟨?_, ?_⟩
  · rintro h ⟨hbefore, xs, ys, hcs, hxs, hys⟩
    have hsame := h xs ys hcs
    rw [hends, hends, if_pos hxs, if_pos hxs, hbefore, hys, meetsCased_nil] at hsame
    cases hsame
  · intro h xs ys hcs
    rw [hends, hends, meetsCased_nil]
    by_cases hxs : xs.all isCaseIgnorable = true
    · rw [if_pos hxs, if_pos hxs, Bool.false_and, Bool.and_eq_false_iff, Bool.not_eq_false']
      by_cases hbefore : meetsCased before = true
      · right
        by_contra hys
        rw [Bool.not_eq_true] at hys
        exact h ⟨hbefore, xs, ys, hcs, hxs, hys⟩
      · left
        rwa [Bool.not_eq_true] at hbefore
    · rw [if_neg hxs, if_neg hxs]

/-- text around the fragment makes no difference if no sigma opens or closes it -/
theorem lowerBetween_eq_lowerText {cs : List Char} (hopens : ¬ SigmaOpens cs)
    (hcloses : ¬ SigmaCloses cs) (before after : List Char) :
    lowerBetween before cs after = lowerText cs := by
  rw [lowerText_eq_lowerBetween, lowerBetween_eq_iff]
  intro xs ys hcs
  rw [endsWord_append, endsWord_append, meetsCased_nil]
  by_cases hxs : xs.all isCaseIgnorable = true
  · have hys : meetsCased ys = true := by
      by_contra hys
      rw [Bool.not_eq_true] at hys
      exact hopens ⟨xs, ys, hcs, hxs, hys⟩
    have hall : ¬ ys.all isCaseIgnorable = true := by
      intro hall
      rw [meetsCased_of_all_isCaseIgnorable hall] at hys
      cases hys
    rw [if_neg hall, if_neg hall, hys, Bool.not_true, Bool.and_false, Bool.and_false]
  · rw [if_neg hxs, if_neg hxs]
    by_cases hall : ys.all isCaseIgnorable = true
    · have hbefore : meetsCased xs.reverse = false := by
        by_contra hbefore
        rw [Bool.not_eq_false] at hbefore
        exact hcloses ⟨xs, ys, hcs, hbefore, hall⟩
      rw [hbefore, Bool.false_and, Bool.false_and]
    · rw [if_neg hall, if_neg hall]

theorem length_lowerText_eq_lowerBetween (before cs after : List Char) :
    (lowerText cs).length = (lowerBetween before cs after).length := by
  rw [length_lowerText, length_lowerBetween]

/-! ## when a longer text still ends with a fragment, or holds it -/

/-- a text that ends with the fragment does so in lowercase too, unless the fragment opens into a
word of the text -/
theorem isSuffix_lowerText_append_iff (us cs : List Char) :
    lowerText cs <:+ lowerText (us ++ cs) ↔
      ¬ (meetsCased us.reverse = true ∧ SigmaOpens cs) := by
  have hlower : lowerText (us ++ cs) = lowerBetween [] us cs ++ lowerBetween us.reverse cs [] := by
    rw [lowerText_eq_lowerBetween, lowerBetween_append, List.append_nil, List.append_nil]
  rw [hlower, ← lowerBetween_eq_lowerText_iff]
  refine ⟨?_, ?_⟩
  · intro h
    have hlength := (length_lowerText_eq_lowerBetween us.reverse cs []).symm
    have hsuffix := List.suffix_of_suffix_length_le (List.suffix_append _ _) h hlength.le
    exact hsuffix.eq_of_length hlength
  · intro h
    rw [h]
    exact List.suffix_append _ _

theorem isInfix_lowerText {cs s : List Char} (hopens : ¬ SigmaOpens cs)
    (hcloses : ¬ SigmaCloses cs) (h : cs <:+: s) : lowerText cs <:+: lowerText s := by
  obtain ⟨us, vs, rfl⟩ := h
  refine ⟨lowerBetween [] us (cs ++ vs), lowerBetween ((us ++ cs).reverse) vs [], ?_⟩
  rw [lowerText_eq_lowerBetween (us ++ cs ++ vs), lowerBetween_append, lowerBetween_append,
    List.append_nil, List.append_nil, List.append_nil,
    lowerBetween_eq_lowerText hopens hcloses]

/-! ## texts that no longer hold a fragment -/

theorem ne_a_of_isCaseIgnorable {c : Char} (h : isCaseIgnorable c = true) : c ≠ 'a' := by
  rintro rfl
  rw [standsCased_a.2] at h
  cases h

theorem ne_capitalSigma_of_isCaseIgnorable {c : Char} (h : isCaseIgnorable c = true) :
    c ≠ 'Σ' := by
  rintro rfl
  rw [standsCased_capitalSigma.2] at h
  cases h

theorem sigmaForm_ne_a (b : Bool) : (if b then 'ς' else 'σ') ≠ 'a' := by
  cases b <;> decide

theorem lowerBetween_a (before after : List Char) : lowerBetween before ['a'] after = ['a'] := by
  rw [lowerBetween_cons_of_ne (by decide)]
  rfl

theorem exists_head_of_sigmaOpens {cs : List Char} (h : SigmaOpens cs) :
    ∃ d rest, d ≠ 'a' ∧ lowerText cs = d :: rest := by
  obtain ⟨xs, ys, rfl, hxs, -⟩ := h
  rw [lowerText_eq_lowerBetween]
  cases xs with
  | nil =>
    rw [List.nil_append, lowerBetween_capitalSigma]
    exact ⟨_, _, sigmaForm_ne_a _, rfl⟩
  | cons c xs =>
    rw [List.all_cons, Bool.and_eq_true] at hxs
    rw [List.cons_append, lowerBetween_cons_of_ne (ne_capitalSigma_of_isCaseIgnorable hxs.1),
      lower_eq_self_of_isCaseIgnorable hxs.1]
    exact ⟨c, _, ne_a_of_isCaseIgnorable hxs.1, rfl⟩

theorem exists_last_of_sigmaCloses {cs : List Char} (h : SigmaCloses cs) :
    ∃ rest d, d ≠ 'a' ∧ lowerText cs = rest ++ [d] := by
  obtain ⟨xs, ys, rfl, -, hys⟩ := h
  rw [lowerText_eq_lowerBetween]
  rcases List.eq_nil_or_concat' ys with rfl | ⟨zs, c, rfl⟩
  · rw [lowerBetween_append, lowerBetween_capitalSigma]
    exact ⟨_, _, sigmaForm_ne_a _, rfl⟩
  · rw [List.all_append, Bool.and_eq_true, List.all_cons, Bool.and_eq_true] at hys
    have hc : isCaseIgnorable c = true := hys.2.1
    have hsplit : xs ++ 'Σ' :: (zs ++ [c]) = (xs ++ 'Σ' :: zs) ++ [c] := by
      rw [List.append_assoc]
      rfl
    rw [hsplit, lowerBetween_append,
      lowerBetween_cons_of_ne (ne_capitalSigma_of_isCaseIgnorable hc),
      lower_eq_self_of_isCaseIgnorable hc]
    exact ⟨_, c, ne_a_of_isCaseIgnorable hc, rfl⟩

theorem not_isInfix_of_sigmaOpens {cs : List Char} (h : SigmaOpens cs) :
    ¬ lowerText cs <:+: lowerText ('a' :: cs) := by
  have hlower : lowerText ('a' :: cs) = 'a' :: lowerBetween ['a'] cs [] := by
    rw [lowerText_eq_lowerBetween, ← List.singleton_append, lowerBetween_append, lowerBetween_a]
    rfl
  have ha : meetsCased ['a'] = true := meetsCased_cons_of_standsCased standsCased_a []
  rw [hlower, List.infix_cons_iff]
  intro h
  rcases h with hstarts | hinside
  · obtain ⟨d, rest, hd, hcs⟩ := exists_head_of_sigmaOpens h
    rw [hcs, List.cons_prefix_cons] at hstarts
    exact hd hstarts.1
  · have hsame := hinside.eq_of_length (length_lowerText_eq_lowerBetween ['a'] cs [])
    exact (lowerBetween_eq_lowerText_iff cs ['a']).mp hsame.symm ⟨ha, h⟩

theorem lowerBetween_ne_of_sigmaCloses {cs : List Char} (h : SigmaCloses cs) :
    lowerBetween [] cs ['a'] ≠ lowerText cs := by
  obtain ⟨xs, ys, hcs, hxs, hys⟩ := h
  have ha : meetsCased ['a'] = true := meetsCased_cons_of_standsCased standsCased_a []
  intro hsame
  rw [lowerText_eq_lowerBetween, lowerBetween_eq_iff] at hsame
  have hends := hsame xs ys hcs
  rw [List.append_nil, endsWord, endsWord, meetsCased_append, if_pos hys, List.append_nil,
    meetsCased_of_all_isCaseIgnorable hys, hxs, ha] at hends
  cases hends

theorem not_isInfix_of_sigmaCloses {cs : List Char} (h : SigmaCloses cs) :
    ¬ lowerText cs <:+: lowerText (cs ++ ['a']) := by
  have hlower : lowerText (cs ++ ['a']) = lowerBetween [] cs ['a'] ++ ['a'] := by
    rw [lowerText_eq_lowerBetween, lowerBetween_append, lowerBetween_a]
    rfl
  rw [hlower, List.infix_concat_iff]
  intro h
  rcases h with hsuffix | hinside
  · obtain ⟨rest, d, hd, hcs⟩ := exists_last_of_sigmaCloses h
    obtain ⟨us, hus⟩ := hsuffix
    rw [hcs, ← List.append_assoc] at hus
    have hlast := (List.append_inj' hus rfl).2
    exact hd (List.cons.inj hlast).1
  · have hsame := hinside.eq_of_length (length_lowerText_eq_lowerBetween [] cs ['a'])
    exact lowerBetween_ne_of_sigmaCloses h hsame.symm

/-! ## sigmas and folded forms -/

theorem exists_sigma_of_folded_eq (cs : List Char) :
    ∀ us vs, folded cs = us ++ 'σ' :: vs →
      ∃ xs c ys, (c = 'Σ' ∨ c = 'σ') ∧ cs = xs ++ c :: ys ∧ folded xs = us ∧ folded ys = vs := by
  induction cs with
  | nil =>
    intro us vs h
    exact absurd h.symm (List.append_ne_nil_of_right_ne_nil us (List.cons_ne_nil _ _))
  | cons d cs ih =>
    intro us vs h
    rw [folded_cons, List.append_eq_append_iff] at h
    rcases h with ⟨ws, rfl, hrest⟩ | ⟨ws, hlower, hrest⟩
    · obtain ⟨xs, c, ys, hc, rfl, rfl, hys⟩ := ih ws vs hrest
      exact ⟨d :: xs, c, ys, hc, rfl, rfl, hys⟩
    · cases ws with
      | nil =>
        rw [List.append_nil] at hlower
        obtain ⟨xs, c, ys, hc, rfl, hxs, hys⟩ := ih [] vs hrest.symm
        refine ⟨d :: xs, c, ys, hc, rfl, ?_, hys⟩
        rw [folded_cons, hxs, hlower, List.append_nil]
      | cons w ws =>
        rw [List.cons_append, List.cons.injEq] at hrest
        obtain ⟨rfl, rfl⟩ := hrest
        have hd : d = 'Σ' ∨ d = 'σ' := by
          refine eq_sigma_of_mem_lower ?_
          rw [hlower]
          exact List.mem_append_right _ List.mem_cons_self
        have hsigma : lower d = ['σ'] := by
          rcases hd with rfl | rfl
          · exact lower_capitalSigma
          · exact lower_smallSigma
        rw [hsigma] at hlower
        cases us with
        | nil =>
          obtain rfl := (List.cons.inj hlower).2
          exact ⟨[], d, cs, hd, rfl, rfl, rfl⟩
        | cons u us =>
          have htail := (List.cons.inj hlower).2
          exact absurd htail.symm
            (List.append_ne_nil_of_right_ne_nil us (List.cons_ne_nil _ _))

/-- in the folded form of a text none of whose sigmas ends a word, none does either -/
theorem keepsSigmas_folded {cs : List Char} (h : ¬ SigmaEndsWord cs) :
    KeepsSigmas [] (folded cs) := by
  intro us vs hfolded
  obtain ⟨xs, c, ys, hc, hcs, rfl, rfl⟩ := exists_sigma_of_folded_eq cs us vs hfolded
  have hends : endsWord ((folded xs).reverse ++ []) (folded ys) = endsWord xs.reverse ys := by
    have hafter := meetsCased_folded_append ys []
    rw [List.append_nil, List.append_nil] at hafter
    rw [endsWord, endsWord, meetsCased_reverse_folded_append, hafter, List.append_nil]
  rw [hends]
  by_contra htrue
  rw [Bool.not_eq_false] at htrue
  exact h ⟨xs, c, ys, hc, hcs, htrue⟩

theorem folded_sigmas_eq (xs ys : List Char) :
    folded (xs ++ 'Σ' :: ys) = folded (xs ++ 'σ' :: ys) := by
  rw [folded_append, folded_append, folded_cons, folded_cons, lower_capitalSigma,
    lower_smallSigma]

theorem lowerText_sigmas_ne {xs ys : List Char} (h : endsWord xs.reverse ys = true) :
    lowerText (xs ++ 'Σ' :: ys) ≠ lowerText (xs ++ 'σ' :: ys) := by
  intro hsame
  rw [lowerText_eq_lowerBetween, lowerText_eq_lowerBetween, lowerBetween_append,
    lowerBetween_append, lowerBetween_capitalSigma, List.append_nil, List.append_nil,
    lowerBetween_cons_of_ne (by decide), lower_smallSigma, List.append_nil, h] at hsame
  have hlength : ∀ after, (lowerBetween [] xs ('Σ' :: ys)).length
      = (lowerBetween [] xs after).length := by
    intro after
    rw [length_lowerBetween, length_lowerBetween]
  have htail := (List.append_inj hsame (hlength _)).2
  exact absurd (List.cons.inj htail).1 (by decide)

/-- another text with the same folded form and another lowercase form -/
theorem exists_of_sigmaEndsWord {cs : List Char} (h : SigmaEndsWord cs) :
    ∃ s, folded s = folded cs ∧ lowerText s ≠ lowerText cs := by
  obtain ⟨xs, c, ys, rfl | rfl, rfl, hends⟩ := h
  · exact ⟨xs ++ 'σ' :: ys, (folded_sigmas_eq xs ys).symm, (lowerText_sigmas_ne hends).symm⟩
  · exact ⟨xs ++ 'Σ' :: ys, folded_sigmas_eq xs ys, lowerText_sigmas_ne hends⟩

end ObjectFilter.Text
