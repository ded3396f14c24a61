import ObjectFilter.Proofs.Condition.Opposition

/-!
# The two equalities of texts

A text property can be compared with a literal as a text or as a value of its type.  The one asks whether
two texts that may be absent are the same, the other for the order of two values that may be null.  With
regard to case both come to the same: they refuse the same literals, and give the same answers.

* `compareValues_ofText_eq_iff`   texts, or nulls, that are equal in the order of texts are the same;
* `agrees_comparison`             the two conditions, refused alike or answering alike.
-/

namespace ObjectFilter

variable {α : Type} [Schema α]

omit [Schema α] in
theorem Value.asText?_ofText (text : Option String) :
    (Value.ofText text : Value α).asText? = text := by
  cases text <;> rfl

theorem compare_toNat_eq_iff (s t : String) :
    compare (s.toList.map Char.toNat) (t.toList.map Char.toNat) = .eq ↔ s = t := by
  have hinjective : Function.Injective Char.toNat := fun _ _ => Char.toNat_inj.mp
  rw [Std.LawfulEqCmp.compare_eq_iff_eq, hinjective.list_map.eq_iff, String.toList_inj]

/-- null is the same as null only, and texts are ordered by their characters -/
theorem Comparator.compareValues_ofText_eq_iff (s t : Option String) :
    text.compareValues (Value.ofText s : Value α) (Value.ofText t) = .eq ↔ s = t := by
  cases s with
  | none =>
    cases t with
    | none => exact iff_of_true rfl rfl
    | some t => exact iff_of_false nofun nofun
  | some s =>
    cases t with
    | none => exact iff_of_false nofun nofun
    | some t =>
      rw [Option.some_inj]
      exact compare_toNat_eq_iff s t

/-- the operator of comparisons that asks for the same, if there is one -/
def StringOperator.comparison? : StringOperator → Option ComparisonOperator
  | equal => some .equal
  | notEqual => some .notEqual
  | contains | startsWith | endsWith => none

theorem StringOperator.holds_text {op : StringOperator} {op' : ComparisonOperator}
    (hop : op.comparison? = some op') (s t : Option String) :
    ValueType.text.holds op' (Value.ofText s : Value α) (Value.ofText t) =
      ((op == .notEqual) ^^ sameText false s t) := by
  have hequal : ComparisonOperator.equal.accepts
      (Comparator.text.compareValues (Value.ofText s : Value α) (Value.ofText t)) =
        sameText false s t := by
    rw [ComparisonOperator.accepts_equal, Bool.eq_iff_iff, Ordering.isEq_iff_eq_eq,
      Comparator.compareValues_ofText_eq_iff]
    exact beq_iff_eq.symm
  show op'.accepts (Comparator.text.compareValues _ _) = _
  cases op with
  | equal =>
    cases hop
    rw [hequal]
    exact (Bool.false_xor _).symm
  | notEqual =>
    cases hop
    rw [← hequal]
    exact (ComparisonOperator.accepts_opposite .equal _).trans (Bool.true_xor _).symm
  | _ => cases hop

namespace StringCondition

/-- with regard to case, comparing a text property as a text and as a value of its type is the same: only
typed literals other than null are refused, by both -/
theorem agrees_comparison (r : Registry α) {p : Property α} (htype : p.type = .text)
    (raw : RawLiteral) (negated : Bool) {op : StringOperator} {op' : ComparisonOperator}
    (hop : op.comparison? = some op') :
    (raw.isText = false ∧ raw ≠ .null ∧ ∃ e, prepare ⟨p, op, raw, false, negated⟩ r = .error e ∧
      ComparisonCondition.prepare ⟨p, op', raw, negated⟩ r = .error e) ∨
    ∃ s c, prepare ⟨p, op, raw, false, negated⟩ r = .ok s ∧
      ComparisonCondition.prepare ⟨p, op', raw, negated⟩ r = .ok c ∧
      ∀ a, (Schema.typeOf a = p.owner → ∃ text, p.read a = Value.ofText text) →
        s.evaluate (narrow p.owner a) = c.evaluate (narrow p.owner a) := by
  have hfits : op'.isRelational = true → p.type.isOrdered = true := by
    intro _
    rw [htype]
    rfl
  have hcomparison := ComparisonCondition.prepare_of_fits (c := ⟨p, op', raw, negated⟩) hfits r
  dsimp only at hcomparison
  rw [htype] at hcomparison
  rcases r.resolve_text_cases raw with ⟨htyped, hnull⟩ | ⟨text, htext⟩
  · refine .inl ⟨htyped, hnull, _, prepare_of_typed htype r htyped hnull, ?_⟩
    rw [hcomparison, r.resolve_text_typed htyped hnull, htype]
    rfl
  · have htest : test ⟨p, op, raw, false, negated⟩ text = .ok (.sameText p false text) := by
      cases op with
      | equal => rfl
      | notEqual => rfl
      | _ => cases hop
    have hprepare := prepare_of_resolves (c := ⟨p, op, raw, false, negated⟩) htype r htext
    rw [htest] at hprepare
    rw [htext] at hcomparison
    refine .inr ⟨_, _, hprepare, hcomparison, ?_⟩
    intro a ha
    by_cases howner : Schema.typeOf a = p.owner
    · obtain ⟨read, hread⟩ := ha howner
      rw [narrow_self howner, PreparedCondition.evaluate_some, Test.holds,
        ComparisonCondition.evaluate_prepared, hread, htype, Value.asText?_ofText, Literal.value,
        StringOperator.holds_text hop, Bool.xor_assoc]
    · rw [(narrow_eq_none_iff p.owner a).mpr howner, PreparedCondition.evaluate_none _ rfl,
        PreparedCondition.evaluate_none]
      rw [ComparisonCondition.property?_prepared]
      rfl

/-- `not Name != @"null"` accepts the container that is named `null`, none without a name, and no weapon,
as a text and as a value -/
theorem agrees_comparison_quotedNull :
    ∃ s c : PreparedCondition World.Entity,
      prepare ⟨nameOfContainer, .notEqual, .text quotedNullWord, false, true⟩ .defaults = .ok s ∧
      ComparisonCondition.prepare ⟨nameOfContainer, .notEqual, .text quotedNullWord, true⟩ .defaults
        = .ok c ∧
      c.evaluate (narrow nameOfContainer.owner (containerNamed "null")) = true ∧
      c.evaluate (narrow nameOfContainer.owner (.container {})) = false ∧
      c.evaluate (narrow nameOfContainer.owner (.weapon { name := some "null" })) = false := by
  have hop : StringOperator.notEqual.comparison? = some .notEqual := rfl
  have hagrees := agrees_comparison (.defaults : Registry World.Entity) (p := nameOfContainer) rfl
    (.text quotedNullWord) true hop
  rcases hagrees with ⟨htyped, -⟩ | ⟨s, c, hs, hc, hsame⟩
  · cases htyped
  · refine ⟨s, c, hs, hc, ?_, ?_, ?_⟩
    · rw [← hsame (containerNamed "null") (fun _ => ⟨some "null", rfl⟩)]
      cases hs
      decide
    · rw [← hsame (.container {}) (fun _ => ⟨none, rfl⟩)]
      cases hs
      decide
    · rw [← hsame (.weapon { name := some "null" }) (fun h => absurd h (by decide))]
      cases hs
      decide

end StringCondition
end ObjectFilter
