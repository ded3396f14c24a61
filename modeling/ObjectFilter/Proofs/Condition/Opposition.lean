import ObjectFilter.Proofs.Condition.Preparation
import ObjectFilter.Proofs.Condition.Single
import ObjectFilter.Proofs.Condition.TextMatching

/-!
# Conditions that answer the opposite

Every operator has an opposite, and every condition a negation.  Both turn the answer round for each
candidate of the target type, whatever its property reads: null, NaN and values of another type than the
declared one do not fall between a condition and its opposite.  A candidate of another type is outside: a
condition and its opposite both refuse it.

* `ValueType.holds_opposite`   an operator and its opposite, between any two values;
* `opposed_opposite`, `opposed_equal`, `opposed_withNegated`   conditions that are refused alike, or
                               answer the opposite;
* `operators_opposed`          how the operators and the negation of conditions on one property and one
                               literal go together.
-/

namespace ObjectFilter

/-! ## operators -/

namespace ComparisonOperator

/-- the operator that holds exactly where this one does not -/
def opposite : ComparisonOperator → ComparisonOperator
  | equal => notEqual
  | notEqual => equal
  | greater => lesserEqual
  | lesserEqual => greater
  | lesser => greaterEqual
  | greaterEqual => lesser

theorem isRelational_opposite (op : ComparisonOperator) :
    op.opposite.isRelational = op.isRelational := by
  cases op <;> rfl

theorem accepts_opposite (op : ComparisonOperator) (o : Ordering) :
    op.opposite.accepts o = !op.accepts o := by
  cases op <;> cases o <;> rfl

/-- the operators that exclude each other -/
def threeWay : List ComparisonOperator := [lesser, equal, greater]

theorem countP_threeWay (o : Ordering) : threeWay.countP (·.accepts o) = 1 := by
  cases o <;> rfl

end ComparisonOperator

variable {α : Type} [Schema α]

theorem ValueType.holds_opposite {t : ValueType} {op : ComparisonOperator}
    (h : op.isRelational = true → t.isOrdered = true) (v w : Value α) :
    t.holds op.opposite v w = !t.holds op v w := by
  unfold holds
  cases hk : Comparator.ofType? t with
  | some k => exact op.accepts_opposite _
  | none =>
    have hunordered : t.isOrdered = false := by
      rw [← Comparator.ofType?_isSome, hk]
      rfl
    -- without an order only the two operators for equality are left
    have hop : op.isRelational = false := by
      rw [← Bool.not_eq_true]
      intro hop
      rw [h hop] at hunordered
      cases hunordered
    cases op with
    | equal =>
      show (true ^^ _) = !(false ^^ _)
      rw [Bool.true_xor, Bool.false_xor]
    | notEqual =>
      show (false ^^ _) = !(true ^^ _)
      rw [Bool.true_xor, Bool.false_xor, Bool.not_not]
    | _ => cases hop

theorem ValueType.countP_holds {t : ValueType} (h : t.isOrdered = true) (v w : Value α) :
    ComparisonOperator.threeWay.countP (t.holds · v w) = 1 := by
  rw [← Comparator.ofType?_isSome, Option.isSome_iff_exists] at h
  obtain ⟨k, hk⟩ := h
  simp only [holds_of_comparator hk]
  exact ComparisonOperator.countP_threeWay _

/-! ## opposite conditions -/

/-- two conditions that are refused for one reason, or that both can be prepared and of which exactly
one accepts each candidate of the type -/
inductive Condition.Opposed (r : Registry α) (target : TypeKey) (c d : Condition α) : Prop
  | refused {e : FilterError} (hc : c.prepare r = .error e) (hd : d.prepare r = .error e)
  | prepared {p q : PreparedCondition α} (hc : c.prepare r = .ok p) (hd : d.prepare r = .ok q)
      (h : ∀ a, Schema.typeOf a = target →
        q.evaluate (narrow target a) = !p.evaluate (narrow target a))

namespace ComparisonCondition

/-- conditions on one property and one literal go by their operators and their negation -/
theorem opposed_of_fits {p : Property α} {raw : RawLiteral} {op op' : ComparisonOperator}
    {negated negated' : Bool} (hfits : op.isRelational = true → p.type.isOrdered = true)
    (hfits' : op'.isRelational = true → p.type.isOrdered = true)
    (h : ∀ v w : Value α, (negated' ^^ p.type.holds op' v w) = !(negated ^^ p.type.holds op v w))
    (r : Registry α) (target : TypeKey) :
    Condition.Opposed r target (.comparison ⟨p, op, raw, negated⟩)
      (.comparison ⟨p, op', raw, negated'⟩) := by
  have hc := prepare_of_fits (c := ⟨p, op, raw, negated⟩) hfits r
  have hd := prepare_of_fits (c := ⟨p, op', raw, negated'⟩) hfits' r
  dsimp only at hc hd
  cases hl : r.resolve p.type raw with
  | error e =>
    rw [hl] at hc hd
    exact .refused hc hd
  | ok l =>
    rw [hl] at hc hd
    refine .prepared hc hd ?_
    intro a ha
    rw [narrow_self ha, evaluate_prepared, evaluate_prepared]
    exact h _ _

theorem opposed_opposite {p : Property α} {op : ComparisonOperator}
    (h : op.isRelational = true → p.type.isOrdered = true) (raw : RawLiteral) (negated : Bool)
    (r : Registry α) (target : TypeKey) :
    Condition.Opposed r target (.comparison ⟨p, op, raw, negated⟩)
      (.comparison ⟨p, op.opposite, raw, negated⟩) := by
  refine opposed_of_fits h ?_ ?_ r target
  · intro hop
    exact h (op.isRelational_opposite ▸ hop)
  · intro v w
    rw [ValueType.holds_opposite h, Bool.xor_not]

theorem opposed_negated (p : Property α) (op : ComparisonOperator) (raw : RawLiteral)
    (r : Registry α) (target : TypeKey) :
    Condition.Opposed r target (.comparison ⟨p, op, raw, false⟩)
      (.comparison ⟨p, op, raw, true⟩) := by
  by_cases hfits : op.isRelational = true → p.type.isOrdered = true
  · refine opposed_of_fits hfits hfits ?_ r target
    intro v w
    rw [Bool.true_xor, Bool.false_xor]
  · exact .refused (prepare_of_not_fits (c := ⟨p, op, raw, false⟩) hfits r)
      (prepare_of_not_fits (c := ⟨p, op, raw, true⟩) hfits r)

/-- where the type has an order, it depends on the literal only whether an operator can be used -/
theorem prepare_alike {p : Property α} (h : p.type.isOrdered = true) (r : Registry α)
    (raw : RawLiteral) :
    (∃ e, ∀ op negated, (⟨p, op, raw, negated⟩ : ComparisonCondition α).prepare r = .error e) ∨
      ∃ l, ∀ op negated, (⟨p, op, raw, negated⟩ : ComparisonCondition α).prepare r =
        .ok (prepared ⟨p, op, raw, negated⟩ l) := by
  have hprepare : ∀ op negated, (⟨p, op, raw, negated⟩ : ComparisonCondition α).prepare r =
      (r.resolve p.type raw).map (prepared ⟨p, op, raw, negated⟩) :=
    fun op negated => prepare_of_fits (fun _ => h) r
  cases hl : r.resolve p.type raw with
  | error e =>
    refine .inl ⟨e, ?_⟩
    intro op negated
    rw [hprepare, hl]
    rfl
  | ok l =>
    refine .inr ⟨l, ?_⟩
    intro op negated
    rw [hprepare, hl]
    rfl

end ComparisonCondition

namespace StringCondition

/-- conditions on one text and one literal that make the same test go by what they turn round -/
theorem opposed_of_test {p : Property α} (htype : p.type = .text) {raw : RawLiteral}
    {op op' : StringOperator} {ignoreCase negated negated' : Bool}
    (htest : ∀ text, test ⟨p, op', raw, ignoreCase, negated'⟩ text =
      test ⟨p, op, raw, ignoreCase, negated⟩ text)
    (hflipped : (negated' ^^ (op' == .notEqual)) = !(negated ^^ (op == .notEqual)))
    (r : Registry α) (target : TypeKey) :
    Condition.Opposed r target (.string ⟨p, op, raw, ignoreCase, negated⟩)
      (.string ⟨p, op', raw, ignoreCase, negated'⟩) := by
  rcases r.resolve_text_cases raw with ⟨htyped, hnull⟩ | ⟨text, htext⟩
  · exact .refused (prepare_of_typed htype r htyped hnull) (prepare_of_typed htype r htyped hnull)
  · have hc := prepare_of_resolves (c := ⟨p, op, raw, ignoreCase, negated⟩) htype r htext
    have hd := prepare_of_resolves (c := ⟨p, op', raw, ignoreCase, negated'⟩) htype r htext
    rw [htest] at hd
    cases hresult : test ⟨p, op, raw, ignoreCase, negated⟩ text with
    | error e =>
      rw [hresult] at hc hd
      exact .refused hc hd
    | ok test =>
      rw [hresult] at hc hd
      refine .prepared hc hd ?_
      intro a ha
      rw [narrow_self ha, PreparedCondition.evaluate_some, PreparedCondition.evaluate_some,
        hflipped, Bool.not_xor]

theorem opposed_equal {p : Property α} (htype : p.type = .text) (raw : RawLiteral)
    (ignoreCase negated : Bool) (r : Registry α) (target : TypeKey) :
    Condition.Opposed r target (.string ⟨p, .equal, raw, ignoreCase, negated⟩)
      (.string ⟨p, .notEqual, raw, ignoreCase, negated⟩) := by
  refine opposed_of_test htype ?_ (Bool.xor_not negated false) r target
  exact fun _ => rfl

theorem opposed_negated (p : Property α) (op : StringOperator) (raw : RawLiteral)
    (ignoreCase : Bool) (r : Registry α) (target : TypeKey) :
    Condition.Opposed r target (.string ⟨p, op, raw, ignoreCase, false⟩)
      (.string ⟨p, op, raw, ignoreCase, true⟩) := by
  by_cases htype : p.type = .text
  · refine opposed_of_test htype ?_ (Bool.not_xor false _) r target
    exact fun _ => rfl
  · exact .refused (prepare_of_ne_text (c := ⟨p, op, raw, ignoreCase, false⟩) htype r)
      (prepare_of_ne_text (c := ⟨p, op, raw, ignoreCase, true⟩) htype r)

/-- an absent text is not searched -/
theorem holds_of_isSubstring {c : StringCondition α} (hop : c.operator.isSubstring = true)
    {text : Option String} {test : Test α} (htest : c.test text = .ok test) {a : α}
    (ha : c.property.read a = .null) : test.holds a = false := by
  cases text with
  | none =>
    rw [test_none_of_isSubstring hop] at htest
    cases htest
  | some t =>
    rw [test_of_isSubstring hop] at htest
    cases htest
    rw [Test.holds, ha]

theorem evaluate_of_isSubstring {c : StringCondition α} (hop : c.operator.isSubstring = true)
    {r : Registry α} {prepared : PreparedCondition α} (h : c.prepare r = .ok prepared) {a : α}
    (ha : c.property.read a = .null) : prepared.evaluate (some a) = c.negated := by
  obtain ⟨text, test, htest, rfl⟩ := exists_test_of_prepare h
  rw [PreparedCondition.evaluate_some, holds_of_isSubstring hop htest ha,
    StringOperator.beq_notEqual_of_isSubstring hop, Bool.xor_false, Bool.xor_false]

end StringCondition

/-! ## negation -/

namespace Condition

def withNegated (negated : Bool) : Condition α → Condition α
  | type _ => type ⟨negated⟩
  | string c => string { c with negated := negated }
  | comparison c => comparison { c with negated := negated }

theorem opposed_withNegated (c : Condition α) (r : Registry α) (target : TypeKey) :
    Opposed r target (c.withNegated false) (c.withNegated true) := by
  cases c with
  | type c =>
    refine .prepared rfl rfl ?_
    intro a ha
    rw [narrow_self ha]
    rfl
  | string c => exact StringCondition.opposed_negated c.property c.operator c.value c.ignoreCase ..
  | comparison c => exact ComparisonCondition.opposed_negated c.property c.operator c.value ..

theorem evaluate_of_typeOf_ne {c : Condition α} {p : Property α} (hp : c.property? = some p)
    {r : Registry α} {prepared : PreparedCondition α} (h : c.prepare r = .ok prepared) {a : α}
    (ha : Schema.typeOf a ≠ p.owner) : prepared.evaluate (narrow p.owner a) = false := by
  rw [(narrow_eq_none_iff p.owner a).mpr ha]
  refine prepared.evaluate_none ?_
  rw [(prepare_keeps h).2, hp]
  rfl

/-- the operators of a property and a literal, and the negation of a condition, turn answers round on
every candidate of the type, and no condition on the property accepts another candidate -/
theorem operators_opposed (r : Registry α) (p : Property α) (raw : RawLiteral) :
    (p.type.isOrdered = true →
      (∃ e, ∀ op negated, (comparison ⟨p, op, raw, negated⟩).prepare r = .error e) ∨
        ∃ prepared : ComparisonOperator → Bool → PreparedCondition α,
          (∀ op negated, (comparison ⟨p, op, raw, negated⟩).prepare r =
            .ok (prepared op negated)) ∧
          ∀ a, Schema.typeOf a = p.owner → ComparisonOperator.threeWay.countP
            (fun op => (prepared op false).evaluate (narrow p.owner a)) = 1) ∧
    (∀ op negated, (op.isRelational = true → p.type.isOrdered = true) →
      Opposed r p.owner (comparison ⟨p, op, raw, negated⟩)
        (comparison ⟨p, op.opposite, raw, negated⟩)) ∧
    (∀ ignoreCase negated,
      (p.type = .text → Opposed r p.owner (string ⟨p, .equal, raw, ignoreCase, negated⟩)
        (string ⟨p, .notEqual, raw, ignoreCase, negated⟩)) ∧
      (p.type ≠ .text → ∀ op, ∃ e,
        (string ⟨p, op, raw, ignoreCase, negated⟩).prepare r = .error e)) ∧
    (∀ op ignoreCase prepared, op.isSubstring = true →
      (string ⟨p, op, raw, ignoreCase, false⟩).prepare r = .ok prepared →
        ∀ a, Schema.typeOf a = p.owner → p.read a = .null →
          prepared.evaluate (narrow p.owner a) = false) ∧
    (∀ (c : Condition α) target, Opposed r target (c.withNegated false) (c.withNegated true)) ∧
    (∀ (c : Condition α) prepared, c.property? = some p → c.prepare r = .ok prepared →
      ∀ a, Schema.typeOf a ≠ p.owner → prepared.evaluate (narrow p.owner a) = false) := by
  refine ⟨?_, ?_, ?_, ?_, fun c target => c.opposed_withNegated r target, ?_⟩
  · intro hordered
    rcases ComparisonCondition.prepare_alike hordered r raw with he | ⟨l, hl⟩
    · exact .inl he
    · refine .inr ⟨_, hl, ?_⟩
      intro a ha
      rw [narrow_self ha]
      simp only [ComparisonCondition.evaluate_prepared, Bool.false_xor]
      exact ValueType.countP_holds hordered _ _
  · intro op negated hfits
    exact ComparisonCondition.opposed_opposite hfits raw negated r p.owner
  · intro ignoreCase negated
    refine ⟨?_, ?_⟩
    · intro htype
      exact StringCondition.opposed_equal htype raw ignoreCase negated r p.owner
    · intro htype op
      exact ⟨_, StringCondition.prepare_of_ne_text (c := ⟨p, op, raw, ignoreCase, negated⟩) htype r⟩
  · intro op ignoreCase prepared hop hprepare a ha hnull
    rw [narrow_self ha]
    exact StringCondition.evaluate_of_isSubstring hop hprepare hnull
  · intro c prepared hp hprepare a ha
    exact evaluate_of_typeOf_ne hp hprepare ha

/-- a container without a name is below every name, has none of the texts sought, and is nothing to
conditions on weapons -/
theorem operators_opposed_unnamed :
    (∃ prepared : ComparisonOperator → Bool → PreparedCondition World.Entity,
      (∀ op negated, (comparison ⟨nameOfContainer, op, .text "ab", negated⟩).prepare .defaults =
        .ok (prepared op negated)) ∧
      ComparisonOperator.threeWay.countP (fun op =>
        (prepared op false).evaluate (narrow (.named "Container") (.container {}))) = 1) ∧
    Opposed .defaults (.named "Container")
      (string ⟨nameOfContainer, .equal, .null, true, false⟩)
      (string ⟨nameOfContainer, .notEqual, .null, true, false⟩) ∧
    ∃ prepared : PreparedCondition World.Entity,
      (string ⟨nameOfContainer, .contains, .text "ab", true, false⟩).prepare .defaults =
        .ok prepared ∧
      prepared.evaluate (narrow (.named "Container") (.container {})) = false ∧
      prepared.evaluate (narrow (.named "Container") (.weapon { name := some "ab" })) = false := by
  obtain ⟨hthree, -, -, hsubstring, -, hother⟩ :=
    operators_opposed (.defaults : Registry World.Entity) nameOfContainer (.text "ab")
  obtain ⟨-, -, hequal, -, -, -⟩ :=
    operators_opposed (.defaults : Registry World.Entity) nameOfContainer .null
  refine ⟨?_, (hequal true false).1 rfl, _, rfl, ?_, ?_⟩
  · rcases hthree rfl with ⟨e, he⟩ | ⟨prepared, hprepare, hcount⟩
    · cases he .equal false
    · exact ⟨prepared, hprepare, hcount _ rfl⟩
  · exact hsubstring .contains true _ rfl rfl _ rfl rfl
  · exact hother (string ⟨nameOfContainer, .contains, .text "ab", true, false⟩) _ rfl rfl _
      (by decide)

end Condition

end ObjectFilter
