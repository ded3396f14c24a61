import ObjectFilter.Proofs.Comparator.Order
import ObjectFilter.Proofs.Compiler.Conjunction
import ObjectFilter.Proofs.Condition.IntegerComparison
import ObjectFilter.Proofs.Literal.Typing

/-!
# Bounds

A property with an order splits the candidates at a literal.  Since the order of values is a total preorder,
literals that follow each other split them in the same order: what is below the one is below the other.

* `Registry.admits_of_resolve`   the literals of a type are values of it;
* `verify_comparison`            what a single comparison by an order answers, for every candidate;
* `compareValues_preorder`       the order of values, and what it means for bounds.
-/

namespace ObjectFilter

open Number (Binary64)

variable {α : Type} [Schema α]

/-! ## literals -/

theorem Comparator.ofType?_eq_custom {t : ValueType} {type : CustomType}
    (h : ofType? t = some (custom type)) : t = .custom type := by
  cases t with
  | custom other =>
    obtain ⟨-, hsame⟩ := Option.ite_none_right_eq_some.mp h
    cases hsame
    rfl
  | _ => cases h

/-- a literal of a compound type is parsed into a value of it, whatever is registered -/
theorem Registry.hasType_of_resolve_custom {r : Registry α} {type : CustomType} {raw : RawLiteral}
    {l : Literal α} (h : r.resolve (.custom type) raw = .ok l) : l.HasType (.custom type) := by
  rcases (Registry.resolve_eq_ok_iff ..).mp h with ⟨text, -, htext⟩ | ⟨-, v, hv, -⟩
  · have hnull : (ValueType.custom type).isReference = true → text ≠ nullWord :=
      fun hreference => absurd hreference Bool.false_ne_true
    rw [resolveText_eq_parse r (.custom type) text rfl hnull] at htext
    obtain ⟨parser, parsed, -, -, haccept⟩ := (parse_eq_ok_iff ..).mp htext
    exact hasType_of_acceptParsed rfl haccept
  · cases raw <;> cases hv

theorem Registry.admits_of_resolve {r : Registry α} {t : ValueType} {c : Comparator}
    (hc : Comparator.ofType? t = some c) {raw : RawLiteral} {l : Literal α}
    (h : r.resolve t raw = .ok l) : c.Admits l.value := by
  rintro type a rfl ha
  obtain rfl := Comparator.ofType?_eq_custom hc
  obtain ⟨s, rfl, hs⟩ := hasType_of_resolve_custom h
  cases ha
  exact hs

/-! ## single comparisons -/

theorem Compiler.verify_comparison_of_typeOf_ne {c : Compiler α} {condition : ComparisonCondition α}
    {target : TypeKey} {predicate : Predicate α}
    (h : (c.compile target [.comparison condition]).result = .ok predicate) {a : α}
    (ha : Schema.typeOf a ≠ target) : predicate.verify a = false := by
  obtain ⟨prepared, hprepares, hverify⟩ := verify_of_compile h
  have hall : prepared.all (·.evaluate none) = false := by
    rw [← Bool.not_eq_true, hprepares.all_evaluate_iff]
    intro hall
    cases hprepares with
    | cons hone hrest =>
      have htrue := hall _ (List.mem_singleton.mpr rfl) _ hone
      cases (Condition.evaluate_none_iff hone).mp htrue
  rw [hverify, (narrow_eq_none_iff target a).mpr ha, hall, Bool.and_false]

/-- a comparison by an order accepts the candidates of its type whose value is as the operator says -/
theorem Compiler.verify_comparison (c : Compiler α) (condition : ComparisonCondition α)
    {k : Comparator} (hk : Comparator.ofType? condition.property.type = some k) {l : Literal α}
    (hl : c.registry.resolve condition.property.type condition.value = .ok l) :
    ∃ predicate : Predicate α,
      (c.compile condition.property.owner [.comparison condition]).result = .ok predicate ∧
      ∀ a, predicate.verify a = true ↔ Schema.typeOf a = condition.property.owner ∧
        (condition.negated ^^ condition.operator.accepts
          (k.compareValues (condition.property.read a) l.value)) = true := by
  have hordered : condition.property.type.isOrdered = true := by
    rw [← Comparator.ofType?_isSome, hk]
    rfl
  have hprepare : (Condition.comparison condition).prepare c.registry =
      .ok (condition.prepared l) :=
    (condition.prepare_eq_ok_iff ..).mpr ⟨fun _ => hordered, l, hl, rfl⟩
  obtain ⟨predicate, hcompile, hverify⟩ := compile_single c rfl hprepare
  refine ⟨predicate, hcompile, ?_⟩
  intro a
  by_cases ha : Schema.typeOf a = condition.property.owner
  · rw [hverify a ha, ComparisonCondition.evaluate_prepared, ValueType.holds_of_comparator hk]
    exact (and_iff_right ha).symm
  · rw [verify_comparison_of_typeOf_ne hcompile ha]
    exact iff_of_false Bool.false_ne_true fun h => ha h.1

/-! ## bounds that follow each other -/

namespace Comparator

/-- the operator asks for what is below a bound, itself included or not -/
theorem accepts_of_isLE {c : Comparator} (hlawful : c.Lawful α) {v a b : Value α}
    (hv : c.Admits v) (ha : c.Admits a) (hb : c.Admits b)
    (hab : (c.compareValues a b).isLE = true) {op : ComparisonOperator}
    (hop : op = .lesser ∨ op = .lesserEqual) (h : op.accepts (c.compareValues v a) = true) :
    op.accepts (c.compareValues v b) = true := by
  rcases hop with rfl | rfl
  · rw [ComparisonOperator.accepts_lesser, Ordering.isLT_iff_eq_lt] at h ⊢
    exact compareValues_lt_of_lt_of_isLE hlawful hv ha hb h hab
  · rw [ComparisonOperator.accepts_lesserEqual] at h ⊢
    exact compareValues_isLE_trans hlawful hv ha hb h hab

end Comparator

theorem Comparator.compareValues_preorder (c : Comparator) (hlawful : c.Lawful α) :
    (∀ a b : Value α, c.Admits a → c.Admits b →
      c.compareValues a b = (c.compareValues b a).swap) ∧
    (∀ a b d : Value α, c.Admits a → c.Admits b → c.Admits d →
      (c.compareValues a b).isLE = true → (c.compareValues b d).isLE = true →
        (c.compareValues a d).isLE = true) ∧
    (∀ a b : Value α, c.Admits a → c.Admits b → c.compareValues a b = .eq →
      ∀ d, c.Admits d → c.compareValues a d = c.compareValues b d ∧
        c.compareValues d a = c.compareValues d b) ∧
    (∀ a : Value α, a ≠ .null → c.compareValues .null a = .lt) ∧
    (∀ x y : Binary64, x.isNaN = true → y.isNaN = true →
      float.compareValues (.float x : Value α) (.float y) = .eq) ∧
    (∀ x y : Binary64, x.isNaN = true → y.isNaN = false →
      float.compareValues (.float x : Value α) (.float y) = .lt) ∧
    float.compareValues (.float ⟨0x8000000000000000⟩ : Value α) (.float ⟨0⟩) = .eq ∧
    ∀ (compiler : Compiler α) (p : Property α), ofType? p.type = some c →
      ∀ (a b : RawLiteral) (l m : Literal α), compiler.registry.resolve p.type a = .ok l →
        compiler.registry.resolve p.type b = .ok m →
        (c.compareValues l.value m.value).isLE = true →
        ∀ op : ComparisonOperator, op = .lesser ∨ op = .lesserEqual →
          ∃ below above : Predicate α,
            (compiler.compile p.owner [.comparison ⟨p, op, a, false⟩]).result = .ok below ∧
            (compiler.compile p.owner [.comparison ⟨p, op, b, false⟩]).result = .ok above ∧
            ∀ x, (Schema.typeOf x = p.owner → c.Admits (p.read x)) →
              below.verify x = true → above.verify x = true := by
  refine ⟨?_, ?_, ?_, fun a => c.compareValues_null_left, ?_, ?_, ?_, ?_⟩
  · intro a b ha hb
    exact compareValues_swap hlawful ha hb
  · intro a b d ha hb hd
    exact compareValues_isLE_trans hlawful ha hb hd
  · intro a b ha hb hab d hd
    exact compareValues_congr hlawful ha hb hd hab
  · intro x y hx hy
    exact Binary64.compareNumbers_nan hx hy
  · intro x y hx hy
    exact Binary64.compareNumbers_nan_left hx hy
  · exact Binary64.compareNumbers_of_value_eq (x := ⟨0x8000000000000000⟩) (y := ⟨0⟩) (by decide)
      (by decide) (by decide)
  · intro compiler p hp a b l m hl hm hlm op hop
    obtain ⟨below, hbelow, hverify⟩ :=
      compiler.verify_comparison ⟨p, op, a, false⟩ hp hl
    obtain ⟨above, habove, hverify'⟩ :=
      compiler.verify_comparison ⟨p, op, b, false⟩ hp hm
    refine ⟨below, above, hbelow, habove, ?_⟩
    intro x hx h
    obtain ⟨howner, haccepts⟩ := (hverify x).mp h
    refine (hverify' x).mpr ⟨howner, ?_⟩
    rw [Bool.false_xor] at haccepts ⊢
    exact accepts_of_isLE hlawful (hx howner) (Registry.admits_of_resolve hp hl)
      (Registry.admits_of_resolve hp hm) hlm hop haccepts

def serialNumber : World.Entity → Nat
  | .serial n => n.toNat
  | _ => 0

theorem order_serial {x y : World.Entity} (hx : Schema.typeOf x = .named "Serial")
    (hy : Schema.typeOf y = .named "Serial") :
    Schema.order x y = compare (serialNumber x) (serialNumber y) := by
  have hserial : ∀ {z : World.Entity}, Schema.typeOf z = .named "Serial" → ∃ n, z = .serial n := by
    intro z hz
    cases z <;> simp_all [Schema.typeOf, World.Entity.typeOf]
  obtain ⟨n, rfl⟩ := hserial hx
  obtain ⟨m, rfl⟩ := hserial hy
  rfl

theorem lawful_serial : (Comparator.custom World.serialType).Lawful World.Entity := by
  intro t ht _
  cases ht
  have horder : (fun x y : Instance World.Entity (.named "Serial") => Schema.order x.1 y.1) =
      compareOn fun x => serialNumber x.1 := by
    funext x y
    exact order_serial x.2 y.2
  show Std.TransCmp fun x y : Instance World.Entity (.named "Serial") => Schema.order x.1 y.1
  rw [horder]
  infer_instance

/-- `Serial`, a compound value with an order -/
def serialOfGadget : Property World.Entity :=
  ⟨.named "Gadget", [], ⟨.named "Gadget", ⟨18, by decide⟩⟩⟩

/-- a number is below every serial number, and a gadget below one serial number is below a greater one -/
theorem compareValues_preorder_serial :
    ((Comparator.custom World.serialType).compareValues (.int 7 : Value World.Entity)
      (.custom (.serial 64))).isLE = true ∧
    ∃ predicate : Predicate World.Entity,
      ((⟨World.registerSerial World.registry, true⟩ : Compiler World.Entity).compile
        (.named "Gadget") [.comparison ⟨serialOfGadget, .lesser, .text "0x40", false⟩]).result =
          .ok predicate ∧
      predicate.verify (.gadget (.mk { serial := 30 } none none)) = true := by
  obtain ⟨-, htrans, -, -, -, -, -, hbounds⟩ :=
    Comparator.compareValues_preorder (.custom World.serialType) lawful_serial
  have hadmits : ∀ n, (Comparator.custom World.serialType).Admits
      (.custom (.serial n) : Value World.Entity) := by
    intro n t a ht ha
    cases ht
    cases ha
    rfl
  refine ⟨?_, ?_⟩
  · exact htrans (.int 7) (.custom (.serial 31)) (.custom (.serial 64)) (fun t a _ h => nomatch h)
      (hadmits 31) (hadmits 64) (by decide) (by decide)
  · obtain ⟨below, above, hbelow, habove, hverify⟩ :=
      hbounds ⟨World.registerSerial World.registry, true⟩ serialOfGadget rfl (.text "31")
        (.text "0x40") (.slot ⟨.serial 31, "Serial", "31"⟩) (.slot ⟨.serial 64, "Serial", "0x40"⟩)
        rfl rfl (by decide) .lesser (.inl rfl)
    refine ⟨above, habove, hverify _ (fun _ => hadmits 30) ?_⟩
    cases hbelow
    rfl

end ObjectFilter
