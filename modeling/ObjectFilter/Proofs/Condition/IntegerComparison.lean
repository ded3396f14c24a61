import ObjectFilter.Proofs.Condition.Preparation
import ObjectFilter.Proofs.Condition.Single
import ObjectFilter.Proofs.Literal.Integer
import ObjectFilter.Proofs.Property.Reading
import ObjectFilter.World.Types

/-!
# Comparisons of integers

What a compiled comparison of an integer property answers, in terms of the integers themselves.

* `verify_integerComparison`   the answer is the relation of the integer that the property reads to
                               the integer that the literal denotes; behind a null link it is
                               the relation of something below every integer.
-/

namespace ObjectFilter

/-! ## operators as relations -/

namespace ComparisonOperator

/-- the relation between integers that the operator stands for -/
def Holds : ComparisonOperator → Int → Int → Prop
  | equal, n, m => n = m
  | notEqual, n, m => n ≠ m
  | greater, n, m => m < n
  | greaterEqual, n, m => m ≤ n
  | lesser, n, m => n < m
  | lesserEqual, n, m => n ≤ m

instance : (op : ComparisonOperator) → (n m : Int) → Decidable (op.Holds n m)
  | equal, n, m => inferInstanceAs (Decidable (n = m))
  | notEqual, n, m => inferInstanceAs (Decidable (n ≠ m))
  | greater, n, m => inferInstanceAs (Decidable (m < n))
  | greaterEqual, n, m => inferInstanceAs (Decidable (m ≤ n))
  | lesser, n, m => inferInstanceAs (Decidable (n < m))
  | lesserEqual, n, m => inferInstanceAs (Decidable (n ≤ m))

/-- the operator holds for something that is below what it is compared with -/
def holdsBelow (op : ComparisonOperator) : Bool :=
  op = lesser ∨ op = lesserEqual ∨ op = notEqual

theorem accepts_lt (op : ComparisonOperator) : op.accepts .lt = op.holdsBelow := by
  cases op <;> rfl

theorem accepts_compare (op : ComparisonOperator) (n m : Int) :
    op.accepts (compare n m) = decide (op.Holds n m) := by
  rw [Bool.eq_iff_iff, decide_eq_true_iff]
  cases op with
  | equal =>
    rw [accepts_equal, Ordering.isEq_iff_eq_eq]
    exact Int.compare_eq_eq
  | notEqual =>
    rw [accepts_notEqual, Ordering.isNe_iff_ne_eq]
    exact not_congr Int.compare_eq_eq
  | greater =>
    rw [accepts_greater, Ordering.isGT_iff_eq_gt]
    exact Int.compare_eq_gt
  | greaterEqual =>
    rw [accepts_greaterEqual]
    exact Int.isGE_compare
  | lesser =>
    rw [accepts_lesser, Ordering.isLT_iff_eq_lt]
    exact Int.compare_eq_lt
  | lesserEqual =>
    rw [accepts_lesserEqual]
    exact Int.isLE_compare

end ComparisonOperator

variable {α : Type} [Schema α]

/-! ## values of integer types -/

namespace IntegerType

def comparator : IntegerType → Comparator
  | signed _ => .int
  | unsigned _ => .uint

theorem ofType?_type (t : IntegerType) : Comparator.ofType? t.type = some t.comparator := by
  cases t <;> rfl

theorem compareValues_of_holds (t : IntegerType) {v w : Value α} {n m : Int} (hv : t.Holds v n)
    (hw : t.Holds w m) : t.comparator.compareValues v w = compare n m := by
  cases t with
  | signed width =>
    cases v with
    | int x =>
      cases w with
      | int y =>
        cases hv
        cases hw
        rfl
      | _ => cases hw
    | _ => cases hv
  | unsigned width =>
    cases v with
    | uint x =>
      cases w with
      | uint y =>
        cases hv
        cases hw
        show compare x.toNat y.toNat = compare (x.toNat : Int) (y.toNat : Int)
        rw [Nat.compare_eq_ite_lt, Int.compare_eq_ite_lt]
        simp only [Int.ofNat_lt]
      | _ => cases hw
    | _ => cases hv

theorem compareValues_null_of_holds (t : IntegerType) {w : Value α} {m : Int} (hw : t.Holds w m) :
    t.comparator.compareValues .null w = .lt := by
  cases w with
  | null => cases t <;> cases hw
  | _ => rfl

end IntegerType

/-! ## conditions -/

theorem ComparisonCondition.prepare_integer {c : ComparisonCondition α} {t : IntegerType}
    (htype : c.property.type = t.type) {r : Registry α} {l : Literal α}
    (hl : r.resolve t.type c.value = .ok l) :
    c.prepare r = .ok ⟨c.label,
      .ordered c.property t.comparator c.operator.ordering.1 l,
      c.negated ^^ c.operator.ordering.2⟩ := by
  have hfits : c.Fits := by
    intro _
    rw [htype]
    cases t <;> rfl
  rw [prepare_of_fits hfits, htype, hl, Except.map, prepared, htype, t.ofType?_type]

theorem PreparedCondition.evaluate_ordered (label : String) (p : Property α) (k : Comparator)
    (op : ComparisonOperator) (l : Literal α) (negated : Bool) (a : α) :
    (⟨label, .ordered p k op.ordering.1 l, negated ^^ op.ordering.2⟩ :
        PreparedCondition α).evaluate (some a)
      = (negated ^^ op.accepts (k.compareValues (p.read a) l.value)) := by
  rw [evaluate_some, ComparisonOperator.accepts, Bool.xor_assoc]
  rfl

/-- a property of an integer type reads an integer of a candidate, all links referring to objects -/
def Property.ReadsInteger (p : Property α) (t : IntegerType) (a : α) (n : Int) : Prop :=
  ∃ b, Leads p.through a b ∧ t.Holds (p.last.read b) n

theorem verify_integerComparison {c : ComparisonCondition α} {t : IntegerType}
    (htype : c.property.type = t.type) {l : Literal α}
    (hl : (Registry.defaults : Registry α).resolve t.type c.value = .ok l) (typeGuard : Bool) :
    ∃ m, (∀ k, t.Denotes c.value k ↔ k = m) ∧
      ∃ predicate : Predicate α,
        ((⟨.defaults, typeGuard⟩ : Compiler α).compile c.property.owner [.comparison c]).result
          = .ok predicate ∧
        ∀ a, Schema.typeOf a = c.property.owner →
          (∀ n, c.property.ReadsInteger t a n →
            predicate.verify a = (c.negated ^^ decide (c.operator.Holds n m))) ∧
          (c.property.HasNullLink a →
            predicate.verify a = (c.negated ^^ c.operator.holdsBelow)) := by
  obtain ⟨m, hm, hrange, rfl⟩ := (t.resolve_integer_eq_ok_iff c.value l).mp hl
  have hholds : t.Holds (t.value m : Value α) m := t.holds_value hrange.1 hrange.2
  have hprepare : (Condition.comparison c).prepare .defaults = _ := c.prepare_integer htype hl
  obtain ⟨predicate, hcompile, hverify⟩ :=
    Compiler.compile_single (⟨.defaults, typeGuard⟩ : Compiler α) rfl hprepare
  refine ⟨m, ?_, predicate, hcompile, ?_⟩
  · intro k
    refine ⟨?_, ?_⟩
    · exact fun hk => hk.unique hm
    · rintro rfl
      exact hm
  · intro a ha
    rw [hverify a ha, PreparedCondition.evaluate_ordered, Literal.value]
    refine ⟨?_, ?_⟩
    · rintro n ⟨b, hleads, hn⟩
      rw [Property.read_of_leads hleads, t.compareValues_of_holds hn hholds,
        ComparisonOperator.accepts_compare]
    · intro hnull
      rw [Property.read_of_nullLink hnull, t.compareValues_null_of_holds hholds,
        ComparisonOperator.accepts_lt]

def tinyOfParent : Property World.Entity :=
  ⟨.named "Gadget", [⟨.named "Gadget", ⟨21, by decide⟩⟩], ⟨.named "Gadget", ⟨2, by decide⟩⟩⟩

def gadgetWithTiny (n : Int8) (parent : Option World.Gadget) : World.Entity :=
  .gadget (.mk { tiny := n } parent none)

def gadgetWithParent (n : Int8) : World.Entity :=
  gadgetWithTiny 5 (some (.mk { tiny := n } none none))

/-- not above -2, which is written as its bit pattern -/
def notAboveFe : ComparisonCondition World.Entity :=
  ⟨tinyOfParent, .greater, .text " 0xFE ", true⟩

theorem verify_integerComparison_tiny :
    Property.bind (.named "Gadget") "Parent.Tiny" = .ok tinyOfParent ∧
      ∃ predicate : Predicate World.Entity,
        ((⟨.defaults, true⟩ : Compiler World.Entity).compile (.named "Gadget")
          [.comparison notAboveFe]).result = .ok predicate ∧
        predicate.verify (gadgetWithParent (-1)) = false ∧
        predicate.verify (gadgetWithParent (-2)) = true ∧
        predicate.verify (gadgetWithTiny 5 none) = true := by
  have hspells : IntegerType.SpellsHex " 0xFE " 254 := by
    refine ⟨['F', 'E'], ⟨'x', .inl rfl, by decide +kernel⟩, .inl ⟨by decide, [15, 14], ?_, rfl⟩⟩
    exact .cons ⟨by decide, by decide⟩ (.cons ⟨by decide, by decide⟩ .nil)
  have hdenotes : (IntegerType.signed .w8).Denotes (.text " 0xFE ") (-2) :=
    .signedHex .w8 hspells (by decide)
  have hresolve : (Registry.defaults : Registry World.Entity).resolve (IntegerType.signed .w8).type
      (.text " 0xFE ") = .ok (.const (.int (-2))) :=
    (IntegerType.resolve_integer_eq_ok_iff ..).mpr ⟨-2, hdenotes, by decide, rfl⟩
  obtain ⟨m, hm, predicate, hcompile, hverify⟩ :=
    verify_integerComparison (c := notAboveFe) (t := .signed .w8) rfl hresolve true
  obtain rfl := (hm (-2)).mp hdenotes
  have hleads : ∀ n : Int8,
      Leads tinyOfParent.through (gadgetWithParent n) (gadgetWithTiny n none) :=
    fun n => .cons rfl (.nil _)
  refine ⟨by decide +kernel, predicate, hcompile, ?_, ?_, ?_⟩
  · exact (hverify _ rfl).1 (-1) ⟨_, hleads (-1), by rfl⟩
  · exact (hverify _ rfl).1 (-2) ⟨_, hleads (-2), by rfl⟩
  · exact (hverify _ rfl).2 ⟨[], _, [], _, rfl, .nil _, rfl⟩

end ObjectFilter
