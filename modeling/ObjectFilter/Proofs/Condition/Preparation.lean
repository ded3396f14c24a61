import ObjectFilter.PreparedCondition
import ObjectFilter.Proofs.Literal.Resolution

/-!
# Preparing conditions

When a condition can be prepared, and what it becomes.

* `ComparisonCondition.prepare_eq_ok_iff`   a comparison needs an order for a relational operator and a
                                            literal of the property's type;
* `StringCondition.prepare_of_typed`, `StringCondition.prepare_of_resolves`   the two ways in which
                                            the literal of a condition on text can go;
* `Registry.resolve_eq_ok_iff`              a literal is resolved as text or as a typed value.
-/

namespace ObjectFilter

variable {α : Type} [Schema α]

/-! ## literals -/

/-- a text, or null if there is none -/
def Value.ofText : Option String → Value α
  | some s => .text s
  | none => .null

namespace Registry

theorem resolve_eq_ok_iff (r : Registry α) (t : ValueType) (raw : RawLiteral) (l : Literal α) :
    r.resolve t raw = .ok l ↔
      (∃ text, raw = .text text ∧ r.resolveText t text = .ok l) ∨
        raw.isText = false ∧ ∃ v, coerce? t raw = some v ∧ l = .const v := by
  cases htext : raw.isText with
  | true =>
    cases raw with
    | text text => simp [resolve_text]
    | _ => cases htext
  | false =>
    have hne : ∀ text, raw ≠ .text text := by
      rintro text rfl
      cases htext
    rw [resolve_of_not_isText r t raw htext]
    cases coerce? t raw <;> simp [hne, eq_comm]

/-- a text property takes texts and null, and no other typed literal -/
theorem resolve_text_typed (r : Registry α) {raw : RawLiteral} (htyped : raw.isText = false)
    (hnull : raw ≠ .null) :
    r.resolve .text raw = .error (.mismatch raw.display (ValueType.text.name α)) := by
  cases raw with
  | text text => cases htyped
  | null => exact absurd rfl hnull
  | _ => rfl

/-- any other literal of a text property is resolved to a text or to null -/
theorem resolve_text_cases (r : Registry α) (raw : RawLiteral) :
    (raw.isText = false ∧ raw ≠ .null) ∨
      ∃ text, r.resolve .text raw = .ok (.const (Value.ofText text)) := by
  cases raw with
  | text text =>
    right
    rw [resolve_text]
    by_cases hword : text = nullWord
    · refine ⟨none, ?_⟩
      rw [hword, resolveText_of_null rfl]
      rfl
    · rw [resolveText_text hword]
      exact ⟨some _, rfl⟩
  | null => exact .inr ⟨none, rfl⟩
  | _ => exact .inl ⟨rfl, by simp⟩

end Registry

/-! ## comparisons -/

/-- whether the operator holds between two values of the declared type -/
def ValueType.holds (t : ValueType) (op : ComparisonOperator) (v w : Value α) : Bool :=
  match Comparator.ofType? t with
  | some k => op.accepts (k.compareValues v w)
  | none => (op == .notEqual) ^^ (Equality.ofType t).test v w

theorem ValueType.holds_of_comparator {t : ValueType} {k : Comparator}
    (h : Comparator.ofType? t = some k) (op : ComparisonOperator) (v w : Value α) :
    t.holds op v w = op.accepts (k.compareValues v w) := by
  unfold holds
  rw [h]

namespace ComparisonCondition

theorem label_prepared (c : ComparisonCondition α) (l : Literal α) :
    (c.prepared l).label = c.label := by
  unfold prepared
  split <;> rfl

theorem property?_prepared (c : ComparisonCondition α) (l : Literal α) :
    (c.prepared l).test.property? = some c.property := by
  unfold prepared
  split <;> rfl

/-- the operator decides between the value that the property reads and the literal -/
theorem evaluate_prepared (c : ComparisonCondition α) (l : Literal α) (a : α) :
    (c.prepared l).evaluate (some a) =
      (c.negated ^^ c.property.type.holds c.operator (c.property.read a) l.value) := by
  unfold prepared ValueType.holds
  cases Comparator.ofType? c.property.type with
  | some k => exact Bool.xor_assoc ..
  | none => exact Bool.xor_assoc ..

/-- the operator is fit for the type of the property -/
def Fits (c : ComparisonCondition α) : Prop :=
  c.operator.isRelational = true → c.property.type.isOrdered = true

theorem fits_iff (c : ComparisonCondition α) :
    c.Fits ↔ (c.operator.isRelational && !c.property.type.isOrdered) = false := by
  unfold Fits
  cases c.operator.isRelational <;> cases c.property.type.isOrdered <;> simp

theorem prepareLogged_of_not_fits {c : ComparisonCondition α} (h : ¬ c.Fits) (r : Registry α) :
    c.prepareLogged r =
      .fail (.notOrdered c.property.path (c.property.type.name α) c.operator) := by
  rw [fits_iff, Bool.not_eq_false] at h
  unfold prepareLogged
  exact if_pos h

theorem prepareLogged_of_fits {c : ComparisonCondition α} (h : c.Fits) (r : Registry α) :
    c.prepareLogged r =
      ⟨(r.resolveLogged c.property.type c.value).result.map c.prepared,
        (r.resolveLogged c.property.type c.value).events⟩ := by
  rw [fits_iff, ← Bool.not_eq_true] at h
  unfold prepareLogged
  dsimp only
  rw [if_neg h]
  exact Logged.bind_pure_eq ..

theorem prepare_of_not_fits {c : ComparisonCondition α} (h : ¬ c.Fits) (r : Registry α) :
    c.prepare r =
      .error (.notOrdered c.property.path (c.property.type.name α) c.operator) := by
  rw [prepare, prepareLogged_of_not_fits h]
  rfl

theorem prepare_of_fits {c : ComparisonCondition α} (h : c.Fits) (r : Registry α) :
    c.prepare r = (r.resolve c.property.type c.value).map c.prepared := by
  rw [prepare, prepareLogged_of_fits h]
  rfl

theorem prepare_eq_ok_iff (c : ComparisonCondition α) (r : Registry α)
    (p : PreparedCondition α) :
    c.prepare r = .ok p ↔
      c.Fits ∧ ∃ l, r.resolve c.property.type c.value = .ok l ∧ c.prepared l = p := by
  by_cases h : c.Fits
  · rw [prepare_of_fits h, map_eq_ok_iff]
    simp [h]
  · rw [prepare_of_not_fits h]
    simp [h]

/-- a relational operator is evaluated by an order -/
theorem test_prepared_of_isRelational {c : ComparisonCondition α} (h : c.Fits)
    (hop : c.operator.isRelational = true) (l : Literal α) :
    ∃ k, (c.prepared l).test = .ordered c.property k c.operator.ordering.1 l := by
  have hsome : (Comparator.ofType? c.property.type).isSome = true := by
    rw [Comparator.ofType?_isSome, h hop]
  obtain ⟨k, hk⟩ := Option.isSome_iff_exists.mp hsome
  refine ⟨k, ?_⟩
  unfold prepared
  rw [hk]

end ComparisonCondition

/-! ## conditions on text -/

/-- the test looks at a text -/
def Test.isOnText : Test α → Bool
  | .sameText .. | .search .. => true
  | _ => false

namespace StringCondition

theorem test_none_of_isSubstring {c : StringCondition α} (hop : c.operator.isSubstring = true) :
    c.test none = .error (.nullSubstring c.property.path c.operator) := by
  unfold test
  cases hc : c.operator with
  | equal => rw [hc] at hop; cases hop
  | notEqual => rw [hc] at hop; cases hop
  | _ => rfl

theorem exists_test (c : StringCondition α) {text : Option String}
    (h : c.operator.isSubstring = true → text ≠ none) : ∃ test, c.test text = .ok test := by
  unfold test
  cases hc : c.operator with
  | equal => exact ⟨_, rfl⟩
  | notEqual => exact ⟨_, rfl⟩
  | _ =>
    cases text with
    | none =>
      rw [hc] at h
      exact absurd rfl (h rfl)
    | some s => exact ⟨_, rfl⟩

theorem test_keeps {c : StringCondition α} {text : Option String} {test : Test α}
    (h : c.test text = .ok test) : test.isOnText = true ∧ test.property? = some c.property := by
  unfold StringCondition.test at h
  dsimp only at h
  split at h
  · cases h
    exact ⟨rfl, rfl⟩
  · cases h
    exact ⟨rfl, rfl⟩
  · cases h
    exact ⟨rfl, rfl⟩
  · cases h

theorem prepared_ofText (c : StringCondition α) (text : Option String) :
    c.prepared (.const (Value.ofText text)) =
      (c.test text).map fun test => ⟨c.label, test, c.negated ^^ (c.operator == .notEqual)⟩ := by
  have hprepared : c.prepared (.const (Value.ofText text)) =
      c.test text >>= fun test =>
        pure ⟨c.label, test, c.negated ^^ (c.operator == .notEqual)⟩ := by
    cases text <;> rfl
  rw [hprepared]
  cases c.test text <;> rfl

theorem prepareLogged_of_ne_text {c : StringCondition α} (h : c.property.type ≠ .text)
    (r : Registry α) :
    c.prepareLogged r =
      .fail (.notText c.property.path (c.property.type.name α) c.operator) := if_pos h

theorem prepare_of_ne_text {c : StringCondition α} (h : c.property.type ≠ .text)
    (r : Registry α) :
    c.prepare r = .error (.notText c.property.path (c.property.type.name α) c.operator) := by
  rw [prepare, prepareLogged_of_ne_text h]
  rfl

section
variable {c : StringCondition α} (htype : c.property.type = .text) (r : Registry α)
include htype

theorem prepareLogged_of_text :
    c.prepareLogged r =
      r.resolveLogged .text c.value >>= fun l => Logged.ofExcept (c.prepared l) := by
  unfold prepareLogged
  rw [if_neg (not_not_intro htype), htype]
  rfl

theorem prepare_of_typed (htyped : c.value.isText = false) (hnull : c.value ≠ .null) :
    c.prepare r = .error (.mismatch c.value.display (c.property.type.name α)) := by
  have hrefused := r.resolve_text_typed htyped hnull
  rw [prepare, prepareLogged_of_text htype, Logged.bind_of_error hrefused, htype]

theorem prepare_of_resolves {text : Option String}
    (h : r.resolve .text c.value = .ok (.const (Value.ofText text))) :
    c.prepare r =
      (c.test text).map fun test => ⟨c.label, test, c.negated ^^ (c.operator == .notEqual)⟩ := by
  rw [prepare, prepareLogged_of_text htype, Logged.bind_of_ok h]
  exact c.prepared_ofText text

end

theorem isText_of_prepare {c : StringCondition α} {r : Registry α} {p : PreparedCondition α}
    (h : c.prepare r = .ok p) : c.property.type = .text := by
  by_cases htype : c.property.type = .text
  · exact htype
  · rw [prepare_of_ne_text htype] at h
    cases h

theorem exists_test_of_prepare {c : StringCondition α} {r : Registry α}
    {p : PreparedCondition α} (h : c.prepare r = .ok p) :
    ∃ text test, c.test text = .ok test ∧
      p = ⟨c.label, test, c.negated ^^ (c.operator == .notEqual)⟩ := by
  have htype : c.property.type = .text := isText_of_prepare h
  rcases r.resolve_text_cases c.value with ⟨htyped, hnull⟩ | ⟨text, htext⟩
  · rw [prepare_of_typed htype r htyped hnull] at h
    cases h
  · rw [prepare_of_resolves htype r htext] at h
    obtain ⟨test, htest, rfl⟩ := (map_eq_ok_iff ..).mp h
    exact ⟨text, test, htest, rfl⟩

end StringCondition

theorem Condition.prepare_keeps {c : Condition α} {r : Registry α} {p : PreparedCondition α}
    (h : c.prepare r = .ok p) : p.label = c.label ∧ p.test.property? = c.property? := by
  cases c with
  | type c =>
    cases h
    exact ⟨rfl, rfl⟩
  | string c =>
    obtain ⟨text, test, htest, rfl⟩ := StringCondition.exists_test_of_prepare h
    exact ⟨rfl, (StringCondition.test_keeps htest).2⟩
  | comparison c =>
    obtain ⟨-, l, -, rfl⟩ := (ComparisonCondition.prepare_eq_ok_iff ..).mp h
    exact ⟨c.label_prepared l, c.property?_prepared l⟩

end ObjectFilter
