import ObjectFilter.Proofs.Condition.Preparation
import ObjectFilter.Proofs.Text.Sigma
import ObjectFilter.World.Types

/-!
# Conditions on text

Which texts a condition on a text property accepts, by its operator, and how the answers with and without
regard to case, and those of different operators, depend on each other.

* `accepts_iff_relates`   a condition accepts the texts that are related to its literal;
* `accepts_ignoreCase`    on which literals a match can get lost when case is ignored;
* `accepts_hierarchy`     which operators accept whatever another one accepts.
-/

namespace ObjectFilter

open Text (folded lowerText SigmaOpens SigmaCloses SigmaEndsWord)

/-! ## operators as relations -/

/-- the relation of a property's text to the literal that the operator stands for -/
def StringOperator.Relates (ignoreCase : Bool) (s t : List Char) : StringOperator → Prop
  | equal => if ignoreCase then folded s = folded t else s = t
  | notEqual => if ignoreCase then folded s ≠ folded t else s ≠ t
  | contains => if ignoreCase then lowerText t <:+: lowerText s else t <:+: s
  | startsWith => if ignoreCase then folded t <+: folded s else t <+: s
  | endsWith => if ignoreCase then lowerText t <:+ lowerText s else t <:+ s

theorem StringOperator.relates_notEqual (ignoreCase : Bool) (s t : List Char) :
    notEqual.Relates ignoreCase s t ↔ ¬ equal.Relates ignoreCase s t := by
  cases ignoreCase <;> rfl

theorem StringOperator.beq_notEqual_of_isSubstring {op : StringOperator}
    (h : op.isSubstring = true) : (op == .notEqual) = false := by
  cases op <;> first | rfl | cases h

theorem sameText_iff (ignoreCase : Bool) (s t : String) :
    sameText ignoreCase (some s) (some t) = true ↔
      StringOperator.equal.Relates ignoreCase s.toList t.toList := by
  cases ignoreCase with
  | false =>
    show (some s == some t) = true ↔ s.toList = t.toList
    rw [beq_iff_eq, Option.some_inj, String.toList_inj]
  | true => exact Text.Insensitive.equals_iff s.toList t.toList

theorem searchText_iff {op : StringOperator} (hop : op.isSubstring = true) (ignoreCase : Bool)
    (s t : List Char) : searchText op ignoreCase s t = true ↔ op.Relates ignoreCase s t := by
  cases op with
  | equal => cases hop
  | notEqual => cases hop
  | contains =>
    cases ignoreCase with
    | false => exact Text.hasInfix_iff s t
    | true => exact Text.Insensitive.contains_iff s t
  | startsWith =>
    cases ignoreCase with
    | false => exact List.isPrefixOf_iff_prefix
    | true => exact Text.Insensitive.startsWith_iff s t
  | endsWith =>
    cases ignoreCase with
    | false => exact List.isSuffixOf_iff_suffix
    | true => exact Text.Insensitive.endsWith_iff s t

/-! ## conditions -/

namespace StringCondition

variable {α : Type} [Schema α]

/-- the condition can be prepared, and then accepts the candidate -/
def Accepts (c : StringCondition α) (r : Registry α) (a : α) : Prop :=
  ∃ p, c.prepare r = .ok p ∧ p.evaluate (some a) = true

/-- the condition compares a text property with a text, and is not negated -/
structure Seeks (c : StringCondition α) (r : Registry α) (t : String) : Prop where
  isText : c.property.type = .text
  resolves : r.resolve .text c.value = .ok (.const (.text t))
  plain : c.negated = false

variable {c : StringCondition α} {r : Registry α} {t : String}

/-- another operator, or another regard to case, with the same literal -/
def revised (c : StringCondition α) (op : StringOperator) (ignoreCase : Bool) :
    StringCondition α := { c with operator := op, ignoreCase := ignoreCase }

theorem Seeks.revised (h : c.Seeks r t) (op : StringOperator) (ignoreCase : Bool) :
    (c.revised op ignoreCase).Seeks r t := ⟨h.isText, h.resolves, h.plain⟩

theorem Seeks.prepare (h : c.Seeks r t) {test : Test α} (htest : c.test (some t) = .ok test) :
    c.prepare r = .ok ⟨c.label, test, c.operator == .notEqual⟩ := by
  have hresolves : r.resolve .text c.value = .ok (.const (Value.ofText (some t))) := h.resolves
  rw [prepare_of_resolves h.isText r hresolves, htest, h.plain]
  simp only [Except.map, Bool.false_xor]

theorem accepts_iff (h : c.Seeks r t) {test : Test α} (htest : c.test (some t) = .ok test)
    (a : α) : c.Accepts r a ↔ ((c.operator == .notEqual) ^^ test.holds a) = true := by
  unfold Accepts
  rw [h.prepare htest]
  refine ⟨?_, ?_⟩
  · intro h
    obtain ⟨p, hp, haccepts⟩ := h
    cases hp
    exact haccepts
  · exact fun haccepts => ⟨_, rfl, haccepts⟩

theorem test_of_isSubstring (hop : c.operator.isSubstring = true) :
    c.test (some t) = .ok (.search c.property c.operator c.ignoreCase t) := by
  unfold StringCondition.test
  cases hc : c.operator <;> rw [hc] at hop <;> first | rfl | cases hop

theorem accepts_iff_relates (h : c.Seeks r t) {a : α} {s : String}
    (hs : c.property.read a = .text s) :
    c.Accepts r a ↔ c.operator.Relates c.ignoreCase s.toList t.toList := by
  have hsame : (Test.sameText c.property c.ignoreCase (some t)).holds a = true ↔
      StringOperator.equal.Relates c.ignoreCase s.toList t.toList := by
    rw [← sameText_iff, Test.holds, hs]
    rfl
  by_cases hop : c.operator.isSubstring = true
  · rw [accepts_iff h (test_of_isSubstring hop), StringOperator.beq_notEqual_of_isSubstring hop,
      Bool.false_xor, ← searchText_iff hop, Test.holds, hs]
  · obtain ⟨property, op, value, ignoreCase, negated⟩ := c
    cases op with
    | equal =>
      rw [accepts_iff h rfl]
      show (false ^^ _) = true ↔ _
      rw [Bool.false_xor]
      exact hsame
    | notEqual =>
      rw [accepts_iff h rfl]
      show (true ^^ _) = true ↔ _
      rw [Bool.true_xor, Bool.not_eq_true', ← Bool.not_eq_true]
      exact (not_congr hsame).trans (StringOperator.relates_notEqual ..).symm
    | _ => exact absurd rfl hop

theorem accepts_revised_iff (h : c.Seeks r t) (op : StringOperator) (ignoreCase : Bool) {a : α}
    {s : String} (hs : c.property.read a = .text s) :
    (c.revised op ignoreCase).Accepts r a ↔ op.Relates ignoreCase s.toList t.toList :=
  accepts_iff_relates (h.revised op ignoreCase) hs

end StringCondition

/-! ## with and without regard to case -/

namespace StringOperator

/-- the literals whose matches with the operator can get lost when case is ignored -/
def LosesMatch (t : List Char) : StringOperator → Prop
  | endsWith => SigmaOpens t
  | contains => SigmaOpens t ∨ SigmaCloses t
  | _ => False

theorem relates_true_of_relates_false {op : StringOperator} (hop : op ≠ notEqual) {s t : List Char}
    (ht : ¬ op.LosesMatch t) (h : op.Relates false s t) : op.Relates true s t := by
  cases op with
  | equal =>
    obtain rfl : s = t := h
    exact rfl
  | notEqual => exact absurd rfl hop
  | contains =>
    obtain ⟨hopens, hcloses⟩ := not_or.mp ht
    exact Text.isInfix_lowerText hopens hcloses h
  | startsWith =>
    obtain ⟨rest, rfl⟩ : t <+: s := h
    show folded t <+: folded (t ++ rest)
    rw [Text.folded_append]
    exact List.prefix_append _ _
  | endsWith =>
    obtain ⟨us, rfl⟩ : t <:+ s := h
    exact (Text.isSuffix_lowerText_append_iff us t).mpr fun hopens => ht hopens.2

theorem exists_of_losesMatch {op : StringOperator} {t : List Char} (ht : op.LosesMatch t) :
    ∃ s, op.Relates false s t ∧ ¬ op.Relates true s t := by
  cases op with
  | contains =>
    rcases ht with hopens | hcloses
    · exact ⟨'a' :: t, (List.suffix_cons 'a' t).isInfix, Text.not_isInfix_of_sigmaOpens hopens⟩
    · exact ⟨t ++ ['a'], (List.prefix_append t ['a']).isInfix,
        Text.not_isInfix_of_sigmaCloses hcloses⟩
  | endsWith =>
    have ha : Text.meetsCased ['a'].reverse = true :=
      Text.meetsCased_cons_of_standsCased Text.standsCased_a []
    refine ⟨['a'] ++ t, List.suffix_append _ _, ?_⟩
    intro hsuffix
    exact (Text.isSuffix_lowerText_append_iff ['a'] t).mp hsuffix ⟨ha, ht⟩
  | _ => cases ht

end StringOperator

namespace StringCondition

variable {α : Type} [Schema α] {c : StringCondition α} {r : Registry α} {t : String}

/-- ignoring case keeps the matches of a literal exactly if no sigma at an end of it can become, or
cease to be, final inside a longer text -/
theorem accepts_ignoreCase (h : c.Seeks r t) (hop : c.operator ≠ .notEqual) :
    (¬ c.operator.LosesMatch t.toList → ∀ a s, c.property.read a = .text s →
      (c.revised c.operator false).Accepts r a → (c.revised c.operator true).Accepts r a) ∧
    (c.operator.LosesMatch t.toList → ∃ s, ∀ a, c.property.read a = .text s →
      (c.revised c.operator false).Accepts r a ∧ ¬ (c.revised c.operator true).Accepts r a) := by
  refine ⟨?_, ?_⟩
  · intro ht a s hs hexact
    rw [accepts_revised_iff h c.operator false hs] at hexact
    rw [accepts_revised_iff h c.operator true hs]
    exact StringOperator.relates_true_of_relates_false hop ht hexact
  · intro ht
    obtain ⟨s, hexact, hlost⟩ := StringOperator.exists_of_losesMatch ht
    refine ⟨String.ofList s, ?_⟩
    intro a hs
    rw [accepts_revised_iff h c.operator false hs, accepts_revised_iff h c.operator true hs,
      String.toList_ofList]
    exact ⟨hexact, hlost⟩

end StringCondition

def nameOfContainer : Property World.Entity :=
  ⟨.named "Container", [], ⟨.named "Container", ⟨0, by decide⟩⟩⟩

def containerNamed (name : String) : World.Entity := .container { name := some name }

def nameCondition (op : StringOperator) (text : String) : StringCondition World.Entity :=
  ⟨nameOfContainer, op, .text text, false, false⟩

theorem seeks_nameCondition (op : StringOperator) {text : String} (hnull : text ≠ nullWord)
    (hquoted : text ≠ quotedNullWord) : (nameCondition op text).Seeks .defaults text := by
  refine ⟨rfl, ?_, rfl⟩
  show (Registry.defaults : Registry World.Entity).resolveText .text text = _
  rw [Registry.resolveText_text hnull, if_neg hquoted]

theorem read_containerNamed (name : String) :
    nameOfContainer.read (containerNamed name) = .text name := rfl

/-- a final sigma is found with regard to case, and not found without -/
theorem accepts_ignoreCase_sigma :
    (nameCondition .contains "Σ").Seeks .defaults "Σ" ∧
      ∃ s, ((nameCondition .contains "Σ").revised .contains false).Accepts .defaults
          (containerNamed s) ∧
        ¬ ((nameCondition .contains "Σ").revised .contains true).Accepts .defaults
          (containerNamed s) := by
  have hseeks : (nameCondition .contains "Σ").Seeks .defaults "Σ" :=
    seeks_nameCondition .contains (by decide) (by decide)
  have hopens : SigmaOpens "Σ".toList := ⟨[], [], rfl, rfl, rfl⟩
  obtain ⟨s, hs⟩ := (StringCondition.accepts_ignoreCase hseeks (by decide)).2 (.inl hopens)
  exact ⟨hseeks, s, hs _ (read_containerNamed s)⟩

/-- `ΑΣ` ends with `Σ`, and holds it, but not when case is ignored -/
theorem match_lost_capitalSigma :
    (nameCondition .endsWith "Σ").Seeks .defaults "Σ" ∧
      nameOfContainer.read (containerNamed "ΑΣ") = .text "ΑΣ" ∧
      ((nameCondition .endsWith "Σ").revised .endsWith false).Accepts .defaults
        (containerNamed "ΑΣ") ∧
      ¬ ((nameCondition .endsWith "Σ").revised .endsWith true).Accepts .defaults
        (containerNamed "ΑΣ") := by
  have hseeks : (nameCondition .endsWith "Σ").Seeks .defaults "Σ" :=
    seeks_nameCondition .endsWith (by decide) (by decide)
  have hread := read_containerNamed "ΑΣ"
  refine ⟨hseeks, hread, ?_, ?_⟩
  · rw [StringCondition.accepts_revised_iff hseeks .endsWith false hread]
    show "Σ".toList <:+ "ΑΣ".toList
    decide +kernel
  · rw [StringCondition.accepts_revised_iff hseeks .endsWith true hread]
    show ¬ lowerText "Σ".toList <:+ lowerText "ΑΣ".toList
    decide +kernel

/-! ## one operator and another -/

namespace StringOperator

variable {s t : List Char}

theorem startsWith_of_equal {ignoreCase : Bool} (h : equal.Relates ignoreCase s t) :
    startsWith.Relates ignoreCase s t := by
  cases ignoreCase with
  | false =>
    obtain rfl : s = t := h
    exact List.prefix_rfl
  | true =>
    have hfolded : folded s = folded t := h
    show folded t <+: folded s
    exact ⟨[], by rw [List.append_nil, hfolded]⟩

theorem contains_of_endsWith {ignoreCase : Bool} (h : endsWith.Relates ignoreCase s t) :
    contains.Relates ignoreCase s t := by
  cases ignoreCase with
  | false =>
    have hsuffix : t <:+ s := h
    exact hsuffix.isInfix
  | true =>
    have hsuffix : lowerText t <:+ lowerText s := h
    exact hsuffix.isInfix

theorem endsWith_of_equal {ignoreCase : Bool} (ht : ignoreCase = true → ¬ SigmaEndsWord t)
    (h : equal.Relates ignoreCase s t) : endsWith.Relates ignoreCase s t := by
  cases ignoreCase with
  | false =>
    obtain rfl : s = t := h
    exact List.suffix_rfl
  | true =>
    have hkeeps := Text.keepsSigmas_folded (ht rfl)
    have hs : lowerText s = folded t := Text.lowerText_eq_of_folded_eq h hkeeps
    have hself : lowerText t = folded t := Text.lowerText_eq_of_folded_eq rfl hkeeps
    show lowerText t <:+ lowerText s
    exact ⟨[], by rw [List.nil_append, hs, hself]⟩

theorem contains_of_startsWith {ignoreCase : Bool} (ht : ignoreCase = true → ¬ SigmaEndsWord t)
    (h : startsWith.Relates ignoreCase s t) : contains.Relates ignoreCase s t := by
  cases ignoreCase with
  | false =>
    have hstarts : t <+: s := h
    exact hstarts.isInfix
  | true =>
    have hkeeps := Text.keepsSigmas_folded (ht rfl)
    have hself : lowerText t = folded t := Text.lowerText_eq_of_folded_eq rfl hkeeps
    show lowerText t <:+: lowerText s
    rw [hself, Text.lowerText_eq_lowerBetween]
    exact (Text.isPrefix_lowerBetween s [] [] (folded t) h hkeeps).isInfix

theorem exists_of_sigmaEndsWord (ht : SigmaEndsWord t) :
    ∃ s, equal.Relates true s t ∧ ¬ contains.Relates true s t := by
  obtain ⟨s, hfolded, hlower⟩ := Text.exists_of_sigmaEndsWord ht
  refine ⟨s, hfolded, ?_⟩
  intro hinside
  have hlength : (lowerText t).length = (lowerText s).length := by
    rw [Text.length_lowerText, Text.length_lowerText, hfolded]
  have hsame : lowerText t <:+: lowerText s := hinside
  exact hlower (hsame.eq_of_length hlength).symm

end StringOperator

namespace StringCondition

variable {α : Type} [Schema α] {c : StringCondition α} {r : Registry α} {t : String}

/-- the four operators that look for a text, from the narrowest to the widest; without regard to case
the steps across the two lowercase forms need a literal none of whose sigmas ends a word -/
theorem accepts_hierarchy (h : c.Seeks r t) (ignoreCase : Bool) :
    (∀ a s, c.property.read a = .text s →
      ((c.revised .equal ignoreCase).Accepts r a → (c.revised .startsWith ignoreCase).Accepts r a) ∧
      ((c.revised .endsWith ignoreCase).Accepts r a →
        (c.revised .contains ignoreCase).Accepts r a)) ∧
    ((ignoreCase = true → ¬ SigmaEndsWord t.toList) → ∀ a s, c.property.read a = .text s →
      ((c.revised .equal ignoreCase).Accepts r a → (c.revised .endsWith ignoreCase).Accepts r a) ∧
      ((c.revised .startsWith ignoreCase).Accepts r a →
        (c.revised .contains ignoreCase).Accepts r a)) ∧
    (ignoreCase = true → SigmaEndsWord t.toList → ∃ s, ∀ a, c.property.read a = .text s →
      (c.revised .equal ignoreCase).Accepts r a ∧ (c.revised .startsWith ignoreCase).Accepts r a ∧
      ¬ (c.revised .endsWith ignoreCase).Accepts r a ∧
      ¬ (c.revised .contains ignoreCase).Accepts r a) := by
  refine ⟨?_, ?_, ?_⟩
  · intro a s hs
    rw [accepts_revised_iff h .equal ignoreCase hs, accepts_revised_iff h .startsWith ignoreCase hs,
      accepts_revised_iff h .endsWith ignoreCase hs, accepts_revised_iff h .contains ignoreCase hs]
    exact ⟨StringOperator.startsWith_of_equal, StringOperator.contains_of_endsWith⟩
  · intro ht a s hs
    rw [accepts_revised_iff h .equal ignoreCase hs, accepts_revised_iff h .startsWith ignoreCase hs,
      accepts_revised_iff h .endsWith ignoreCase hs, accepts_revised_iff h .contains ignoreCase hs]
    exact ⟨StringOperator.endsWith_of_equal ht, StringOperator.contains_of_startsWith ht⟩
  · rintro rfl ht
    obtain ⟨s, hequal, hlost⟩ := StringOperator.exists_of_sigmaEndsWord ht
    refine ⟨String.ofList s, ?_⟩
    intro a hs
    rw [accepts_revised_iff h .equal true hs, accepts_revised_iff h .startsWith true hs,
      accepts_revised_iff h .endsWith true hs, accepts_revised_iff h .contains true hs,
      String.toList_ofList]
    exact ⟨hequal, StringOperator.startsWith_of_equal hequal,
      fun hends => hlost (StringOperator.contains_of_endsWith hends), hlost⟩

end StringCondition

/-- the literal ends in a small sigma, where another text of the same folded form has a final one -/
theorem accepts_hierarchy_sigma :
    (nameCondition .equal "ασ").Seeks .defaults "ασ" ∧
      ∃ s, ((nameCondition .equal "ασ").revised .equal true).Accepts .defaults
          (containerNamed s) ∧
        ((nameCondition .equal "ασ").revised .startsWith true).Accepts .defaults
          (containerNamed s) ∧
        ¬ ((nameCondition .equal "ασ").revised .contains true).Accepts .defaults
          (containerNamed s) := by
  have hseeks : (nameCondition .equal "ασ").Seeks .defaults "ασ" :=
    seeks_nameCondition .equal (by decide) (by decide)
  have hends : SigmaEndsWord "ασ".toList :=
    ⟨['α'], 'σ', [], .inr rfl, rfl, by decide +kernel⟩
  obtain ⟨s, hs⟩ := (StringCondition.accepts_hierarchy hseeks true).2.2 rfl hends
  have haccepts := hs _ (read_containerNamed s)
  exact ⟨hseeks, s, haccepts.1, haccepts.2.1, haccepts.2.2.2⟩

/-- `ΑΣ` equals `ασ` but for case, and neither ends with it nor holds it -/
theorem hierarchy_broken_finalSigma :
    (nameCondition .equal "ασ").Seeks .defaults "ασ" ∧
      nameOfContainer.read (containerNamed "ΑΣ") = .text "ΑΣ" ∧
      ((nameCondition .equal "ασ").revised .equal true).Accepts .defaults
        (containerNamed "ΑΣ") ∧
      ¬ ((nameCondition .equal "ασ").revised .endsWith true).Accepts .defaults
        (containerNamed "ΑΣ") ∧
      ¬ ((nameCondition .equal "ασ").revised .contains true).Accepts .defaults
        (containerNamed "ΑΣ") := by
  have hseeks : (nameCondition .equal "ασ").Seeks .defaults "ασ" :=
    seeks_nameCondition .equal (by decide) (by decide)
  have hread := read_containerNamed "ΑΣ"
  refine ⟨hseeks, hread, ?_, ?_, ?_⟩
  · rw [StringCondition.accepts_revised_iff hseeks .equal true hread]
    show folded "ΑΣ".toList = folded "ασ".toList
    decide +kernel
  · rw [StringCondition.accepts_revised_iff hseeks .endsWith true hread]
    show ¬ lowerText "ασ".toList <:+ lowerText "ΑΣ".toList
    decide +kernel
  · rw [StringCondition.accepts_revised_iff hseeks .contains true hread]
    show ¬ lowerText "ασ".toList <:+: lowerText "ΑΣ".toList
    decide +kernel

end ObjectFilter
