import ObjectFilter.Proofs.Compiler.Faults
import ObjectFilter.Proofs.Literal.Typing
import ObjectFilter.Proofs.Property.Typing

/-!
# Comparisons of one kind

The order of two values falls back on the order of their kinds if they are not of one kind, and the equality
of types without an order falls back on false.  Where the types are closed and the parsers of the scalars
are kept, neither happens: the property reads a value of the kind of its type, and so is the literal.

* `Comparator.exists_comparePresent?`, `Equality.exists_testPresent?`   what a value of the kind of a type
                                                                      gives with a literal of it;
* `isMatched_of_compile`                                              the tests of a compiled predicate.
-/

namespace ObjectFilter

variable {α : Type} [Schema α]

/-! ## literals by their kind -/

/-- a literal has the kind of its type, but for an object that was parsed, which is kept as a
compound value -/
theorem Literal.HasType.hasKind {l : Literal α} {t : ValueType} (h : l.HasType t) :
    l.value.HasKind t ∨ ∃ key a, t = .object key ∧ l.value = .custom a := by
  cases t with
  | bool =>
    obtain ⟨b, rfl⟩ := h
    exact .inl (.bool b)
  | char =>
    obtain ⟨c, rfl⟩ := h
    exact .inl (.char c)
  | signed w =>
    obtain ⟨n, rfl, -⟩ := h
    exact .inl (.int n w)
  | unsigned w =>
    obtain ⟨n, rfl, -⟩ := h
    exact .inl (.uint n w)
  | single =>
    obtain ⟨x, rfl, -⟩ := h
    exact .inl (.single x)
  | double =>
    obtain ⟨x, rfl⟩ := h
    exact .inl (.double x)
  | text =>
    rcases h with rfl | ⟨s, rfl⟩
    · exact .inl (.null rfl)
    · exact .inl (.text s)
  | enum e =>
    obtain ⟨d, rfl, -⟩ := h
    exact .inl (.enum e d)
  | custom type =>
    obtain ⟨s, rfl, hs⟩ := h
    exact .inl (.custom hs)
  | object key =>
    rcases h with rfl | ⟨s, rfl, -⟩
    · exact .inl (.null rfl)
    · exact .inr ⟨key, s.value, rfl, rfl⟩

/-! ## values of one kind -/

namespace Comparator

theorem compareValues_of_comparePresent? {k : Comparator} {v w : Value α} {o : Ordering}
    (h : k.comparePresent? v w = some o) : k.compareValues v w = o := by
  have hv : v ≠ .null := by
    rintro rfl
    cases k <;> cases h
  have hw : w ≠ .null := by
    rintro rfl
    cases k <;> cases v <;> cases h
  unfold compareValues
  split
  · exact absurd rfl hv
  · exact absurd rfl hv
  · exact absurd rfl hw
  · rw [h]
    rfl

theorem exists_comparePresent? {t : ValueType} {k : Comparator} (hk : ofType? t = some k)
    {v w : Value α} (hv : v.HasKind t) (hw : w.HasKind t) (hvnull : v ≠ .null)
    (hwnull : w ≠ .null) : ∃ o, k.comparePresent? v w = some o := by
  cases hv with
  | null => exact absurd rfl hvnull
  | custom ha =>
    cases hw with
    | null => exact absurd rfl hwnull
    | custom hb =>
      obtain ⟨hordered, hk⟩ := Option.ite_none_right_eq_some.mp hk
      cases hk
      exact ⟨_, if_pos ⟨hordered, ha, hb⟩⟩
  | object => cases hk
  | _ =>
    cases hk
    cases hw with
    | null => exact absurd rfl hwnull
    | _ => exact ⟨_, rfl⟩

end Comparator

/-- the values of a type without a comparator are compound values and objects -/
theorem Value.HasKind.isCompound {v : Value α} {t : ValueType} (h : v.HasKind t)
    (ht : Comparator.ofType? t = none) (hnull : v ≠ .null) : v.isCompound = true := by
  cases h with
  | null => exact absurd rfl hnull
  | custom => rfl
  | object => rfl
  | _ => cases ht

namespace Equality

theorem test_of_testPresent? {e : Equality} {v w : Value α} {b : Bool}
    (h : e.testPresent? v w = some b) : e.test v w = b := by
  have hv : v ≠ .null := by
    rintro rfl
    cases h
  have hw : w ≠ .null := by
    rintro rfl
    cases v <;> cases h
  unfold test
  split
  · exact absurd rfl hv
  · exact absurd rfl hv
  · exact absurd rfl hw
  · rw [h]
    rfl

theorem exists_testPresent? (e : Equality) {v w : Value α} (hv : v.isCompound = true)
    (hw : w.isCompound = true) : ∃ b, e.testPresent? v w = some b := by
  have hany : ∀ {u : Value α}, u.isCompound = true → ∃ a, u.asAny? = some a := by
    intro u hu
    cases u with
    | custom a => exact ⟨a, rfl⟩
    | object a => exact ⟨a, rfl⟩
    | _ => cases hu
  obtain ⟨a, ha⟩ := hany hv
  obtain ⟨b, hb⟩ := hany hw
  unfold testPresent?
  rw [ha, hb]
  cases e with
  | identity => exact ⟨false, rfl⟩
  | custom type => exact ⟨type.equal a b, rfl⟩

end Equality

/-! ## tests -/

namespace Test

/-- two values that are there are compared by the order or by the equality of the test, without
falling back -/
def IsMatched (a : α) : Test α → Prop
  | ordered p k _ l => p.read a ≠ .null → l.value ≠ .null →
      ∃ o, k.comparePresent? (p.read a) l.value = some o ∧
        k.compareValues (p.read a) l.value = o
  | equal p e l => p.read a ≠ .null → l.value ≠ .null →
      (p.read a).isCompound = true ∧ l.value.isCompound = true ∧
        ∃ b, e.testPresent? (p.read a) l.value = some b ∧ e.test (p.read a) l.value = b
  | _ => True

theorem isMatched_of_isOnText {test : Test α} (h : test.isOnText = true) (a : α) :
    test.IsMatched a := by
  cases test with
  | ordered => cases h
  | equal => cases h
  | _ => trivial

end Test

theorem ComparisonCondition.isMatched_prepared (c : ComparisonCondition α) {l : Literal α}
    (hl : l.HasType c.property.type) {a : α}
    (hread : c.property.read a ≠ .null → (c.property.read a).HasKind c.property.type) :
    (c.prepared l).test.IsMatched a := by
  unfold prepared
  split
  · next k hk =>
    intro hv hw
    have hkind : l.value.HasKind c.property.type := by
      rcases hl.hasKind with hkind | ⟨key, b, htype, -⟩
      · exact hkind
      · rw [htype] at hk
        cases hk
    obtain ⟨o, ho⟩ := Comparator.exists_comparePresent? hk (hread hv) hkind hv hw
    exact ⟨o, ho, Comparator.compareValues_of_comparePresent? ho⟩
  · next hk =>
    intro hv hw
    have hvalue : (c.property.read a).isCompound = true := (hread hv).isCompound hk hv
    have hliteral : l.value.isCompound = true := by
      rcases hl.hasKind with hkind | ⟨key, b, -, hb⟩
      · exact hkind.isCompound hk hw
      · rw [hb]
        rfl
    obtain ⟨b, hb⟩ := (Equality.ofType c.property.type).exists_testPresent? hvalue hliteral
    exact ⟨hvalue, hliteral, b, hb, Equality.test_of_testPresent? hb⟩

/-! ## compiled predicates -/

theorem Registry.Built.hasType_literal {r : Registry α} (hr : r.Built) {t : ValueType}
    {raw : RawLiteral} {l : Literal α} (h : r.resolve t raw = .ok l) : l.HasType t := by
  rcases (Registry.resolve_eq_ok_iff ..).mp h with ⟨text, -, htext⟩ | ⟨-, v, hv, rfl⟩
  · exact hasType_of_resolveText hr htext
  · exact hasType_of_coerce? hv

theorem Condition.isMatched_of_prepare {r : Registry α} (hr : r.Built) {condition : Condition α}
    {prepared : PreparedCondition α} (h : condition.prepare r = .ok prepared) {a : α}
    (hread : ∀ p, condition.property? = some p →
      (p.read a).HasKind p.type ∨ p.HasNullLink a) : prepared.test.IsMatched a := by
  cases condition with
  | type condition =>
    cases h
    trivial
  | string condition =>
    obtain ⟨text, test, htest, rfl⟩ := StringCondition.exists_test_of_prepare h
    exact Test.isMatched_of_isOnText (StringCondition.test_keeps htest).1 a
  | comparison condition =>
    obtain ⟨-, l, hl, rfl⟩ := (ComparisonCondition.prepare_eq_ok_iff ..).mp h
    refine condition.isMatched_prepared (hr.hasType_literal hl) ?_
    intro hpresent
    rcases hread _ rfl with hkind | hnull
    · exact hkind
    · exact absurd (Property.read_of_nullLink hnull) hpresent

/-- over closed types no test of a compiled predicate falls back, and what it reads is null only if
its type has a null or a link on the way is null -/
theorem isMatched_of_compile {keys : List TypeKey} (hclosed : ClosedTypes α keys)
    {c : Compiler α} (hr : c.registry.Built) {target : TypeKey} (htarget : target ∈ keys)
    {conditions : List (Condition α)}
    (hbound : ∀ condition ∈ conditions, ∀ p, condition.property? = some p → p.IsBound)
    {predicate : Predicate α} (h : (c.compile target conditions).result = .ok predicate)
    {prepared : PreparedCondition α} (hmem : prepared ∈ predicate.conditions) {a : α}
    (ha : Schema.typeOf a = target) :
    prepared.test.IsMatched a ∧ ∀ p, prepared.test.property? = some p → p.read a = .null →
      p.type.isReference = true ∨ p.HasNullLink a := by
  rcases Compiler.mem_conditions_of_compile h hmem with rfl | ⟨condition, hin, howner, hprepare⟩
  · -- the guard reads no property
    exact ⟨trivial, fun p hp => by cases hp⟩
  · have hread : ∀ p, condition.property? = some p →
        (p.read a).HasKind p.type ∨ p.HasNullLink a := by
      intro p hp
      obtain rfl := howner p hp
      exact (hbound condition hin p hp).hasKind_or_nullLink hclosed htarget ha
    refine ⟨condition.isMatched_of_prepare hr hprepare hread, ?_⟩
    intro p hp hnull
    rw [(Condition.prepare_keeps hprepare).2] at hp
    rcases hread p hp with hkind | hlink
    · exact .inl (hkind.isReference_of_null hnull)
    · exact .inr hlink

end ObjectFilter
