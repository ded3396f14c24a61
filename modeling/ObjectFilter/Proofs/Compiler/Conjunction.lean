import ObjectFilter.Proofs.Compiler.Faults
import ObjectFilter.Proofs.Condition.Single

/-!
# Predicates as conjunctions

A compiled predicate asks every condition of its list, and nothing else but the type of the candidate
if the compiler guards.  Whether the type condition is put in front or stands there already makes no
difference to the answers, so lists can be joined, reordered and thinned out.

* `verify_of_compile`     a compiled predicate is the conjunction of its conditions;
* `compile_conjunction`   joined lists, and lists of the same conditions;
* `compile_typeGuard`     what the guard changes, and what a candidate of another type is told.
-/

namespace ObjectFilter

variable {α : Type} [Schema α]

/-! ## conditions prepared one by one -/

/-- each condition prepared on its own, in order -/
def Registry.Prepares (r : Registry α) :
    List (Condition α) → List (PreparedCondition α) → Prop :=
  List.Forall₂ fun condition prepared => condition.prepare r = .ok prepared

namespace Registry.Prepares

variable {r : Registry α} {conditions conditions' : List (Condition α)}
  {prepared prepared' : List (PreparedCondition α)}

theorem unique (h : r.Prepares conditions prepared) (h' : r.Prepares conditions prepared') :
    prepared = prepared' := by
  refine List.right_unique_forall₂' ?_ h h'
  intro condition p q hp hq
  exact Except.ok.inj (hp.symm.trans hq)

theorem append (h : r.Prepares conditions prepared) (h' : r.Prepares conditions' prepared') :
    r.Prepares (conditions ++ conditions') (prepared ++ prepared') :=
  List.rel_append h h'

theorem mem_iff (h : r.Prepares conditions prepared) (p : PreparedCondition α) :
    p ∈ prepared ↔ ∃ condition ∈ conditions, condition.prepare r = .ok p := by
  refine ⟨exists_of_forall₂_right h, ?_⟩
  rintro ⟨condition, hmem, hp⟩
  obtain ⟨q, hq, hprepare⟩ := exists_of_forall₂_left h hmem
  cases hp.symm.trans hprepare
  exact hq

/-- the answers of all conditions together, by the conditions as they were given -/
theorem all_evaluate_iff (h : r.Prepares conditions prepared) (narrowed : Option α) :
    prepared.all (·.evaluate narrowed) = true ↔
      ∀ condition ∈ conditions, ∀ p, condition.prepare r = .ok p →
        p.evaluate narrowed = true := by
  rw [List.all_eq_true]
  constructor
  · intro hall condition hmem p hp
    exact hall p ((h.mem_iff p).mpr ⟨condition, hmem, hp⟩)
  · intro hall p hp
    obtain ⟨condition, hmem, hprepare⟩ := (h.mem_iff p).mp hp
    exact hall condition hmem p hprepare

theorem all_evaluate_congr (h : r.Prepares conditions prepared)
    (h' : r.Prepares conditions' prepared')
    (hsame : ∀ condition, condition ∈ conditions ↔ condition ∈ conditions')
    (narrowed : Option α) :
    prepared.all (·.evaluate narrowed) = prepared'.all (·.evaluate narrowed) := by
  rw [Bool.eq_iff_iff, h.all_evaluate_iff, h'.all_evaluate_iff]
  simp only [hsame]

end Registry.Prepares

/-! ## the type condition -/

theorem evaluate_guardCondition_narrow (target : TypeKey) (a : α) :
    Compiler.guardCondition.evaluate (narrow target a) = decide (Schema.typeOf a = target) := by
  by_cases h : Schema.typeOf a = target
  · rw [narrow_self h, Compiler.evaluate_guardCondition, decide_eq_true h]
  · rw [(narrow_eq_none_iff target a).mpr h, decide_eq_false h]
    rfl

theorem Condition.evaluate_none_iff {condition : Condition α} {r : Registry α}
    {p : PreparedCondition α} (h : condition.prepare r = .ok p) :
    p.evaluate none = true ↔ condition = .type ⟨true⟩ := by
  cases hproperty : condition.property? with
  | some q =>
    have hreads : p.test.property?.isSome = true := by
      rw [(prepare_keeps h).2, hproperty]
      rfl
    rw [p.evaluate_none hreads]
    refine iff_of_false Bool.false_ne_true ?_
    rintro rfl
    cases hproperty
  | none =>
    cases condition with
    | type c =>
      cases h
      show c.negated = true ↔ _
      rw [Condition.type.injEq, TypeCondition.mk.injEq]
    | _ => cases hproperty

namespace Compiler

/-- the compiler does not guard, or the candidate is of the target type -/
def admits (c : Compiler α) (target : TypeKey) (a : α) : Bool :=
  !c.typeGuard || decide (Schema.typeOf a = target)

/-- the guard asks for the type once, in front of the list or at its head -/
theorem verify_guards_append {c : Compiler α} {conditions : List (Condition α)}
    {prepared : List (PreparedCondition α)} (h : c.registry.Prepares conditions prepared)
    (target : TypeKey) (a : α) :
    (⟨target, guards c.typeGuard conditions ++ prepared⟩ : Predicate α).verify a =
      (c.admits target a && prepared.all (·.evaluate (narrow target a))) := by
  have hguard := evaluate_guardCondition_narrow target a
  unfold Predicate.verify admits guards needsGuard
  rw [List.all_append]
  cases c.typeGuard with
  | false => simp
  | true =>
    -- only the head of the list decides whether the type is asked for by the guard or by the list
    cases h with
    | nil => simp [hguard]
    | @cons condition p rest ps hone hrest =>
      cases hhead : condition.isTypeGuard with
      | false => simp [hhead, hguard]
      | true =>
        obtain rfl := condition.isTypeGuard_iff.mp hhead
        have hp : p = guardCondition := (Except.ok.inj hone).symm
        simp [hhead, hp, hguard]

/-! ## what compiles, and to what -/

theorem exists_compile_iff (c : Compiler α) (target : TypeKey) (conditions : List (Condition α)) :
    (∃ predicate, (c.compile target conditions).result = .ok predicate) ↔
      ∀ condition ∈ conditions, ∀ e, ¬ condition.Faulty c.registry target e := by
  rcases result_compile_cases c target conditions with
    ⟨i, e, hfirst, hresult⟩ | ⟨hnone, prepared, hresult, -⟩
  · refine iff_of_false ?_ ?_
    · rintro ⟨predicate, hpredicate⟩
      cases hresult.symm.trans hpredicate
    · intro hnone
      obtain ⟨condition, hmem, e', hfaulty⟩ := hfirst.exists_faulty
      exact hnone condition hmem e' hfaulty
  · exact iff_of_true ⟨_, hresult⟩ hnone

theorem verify_of_compile {c : Compiler α} {target : TypeKey} {conditions : List (Condition α)}
    {predicate : Predicate α} (h : (c.compile target conditions).result = .ok predicate) :
    ∃ prepared, c.registry.Prepares conditions prepared ∧ ∀ a, predicate.verify a =
      (c.admits target a && prepared.all (·.evaluate (narrow target a))) := by
  rcases result_compile_cases c target conditions with
    ⟨i, e, -, hresult⟩ | ⟨-, prepared, hresult, hall⟩
  · cases h.symm.trans hresult
  · cases h.symm.trans hresult
    have hprepared : c.registry.Prepares conditions prepared :=
      hall.imp fun _ _ hbecomes => hbecomes.prepare_eq
    exact ⟨prepared, hprepared, verify_guards_append hprepared target⟩

theorem exists_error_of_faulty {c : Compiler α} {target : TypeKey}
    {conditions : List (Condition α)}
    (h : ¬ ∀ condition ∈ conditions, ∀ e, ¬ condition.Faulty c.registry target e) :
    ∃ e, (c.compile target conditions).result = .error e := by
  cases hresult : (c.compile target conditions).result with
  | error e => exact ⟨e, rfl⟩
  | ok predicate => exact absurd ((exists_compile_iff c target conditions).mp ⟨_, hresult⟩) h

theorem compile_conjunction (c : Compiler α) (target : TypeKey) :
    (∀ l l' : List (Condition α),
      ((∃ p, (c.compile target (l ++ l')).result = .ok p) ↔
        (∃ q, (c.compile target l).result = .ok q) ∧
          ∃ q', (c.compile target l').result = .ok q') ∧
      ∀ p q q', (c.compile target (l ++ l')).result = .ok p →
        (c.compile target l).result = .ok q → (c.compile target l').result = .ok q' →
          ∀ a, p.verify a = (q.verify a && q'.verify a)) ∧
    (∀ l p, (c.compile target l).result = .ok p →
      ∃ prepared,
        List.Forall₂ (fun condition prepared => condition.prepare c.registry = .ok prepared)
          l prepared ∧
        ∀ a, p.verify a = ((!c.typeGuard || decide (Schema.typeOf a = target)) &&
          prepared.all fun condition => condition.evaluate (narrow target a))) ∧
    ∀ l l' : List (Condition α), (∀ condition, condition ∈ l ↔ condition ∈ l') →
      (∃ e e', (c.compile target l).result = .error e ∧
        (c.compile target l').result = .error e') ∨
      ∃ p p', (c.compile target l).result = .ok p ∧ (c.compile target l').result = .ok p' ∧
        ∀ a, p.verify a = p'.verify a := by
  refine ⟨?_, fun l p h => verify_of_compile h, ?_⟩
  · intro l l'
    refine ⟨?_, ?_⟩
    · rw [exists_compile_iff, exists_compile_iff, exists_compile_iff, List.forall_mem_append]
    · intro p q q' hp hq hq' a
      obtain ⟨both, hboth, hverify⟩ := verify_of_compile hp
      obtain ⟨first, hfirst, hverify₁⟩ := verify_of_compile hq
      obtain ⟨second, hsecond, hverify₂⟩ := verify_of_compile hq'
      obtain rfl := hboth.unique (hfirst.append hsecond)
      -- both parts ask for the type where the joined list asks once
      rw [hverify, hverify₁, hverify₂, List.all_append]
      cases c.admits target a <;> simp
  · intro l l' hsame
    have hsound : (∀ condition ∈ l, ∀ e, ¬ condition.Faulty c.registry target e) ↔
        ∀ condition ∈ l', ∀ e, ¬ condition.Faulty c.registry target e := by
      simp only [hsame]
    by_cases h : ∀ condition ∈ l, ∀ e, ¬ condition.Faulty c.registry target e
    · right
      obtain ⟨p, hp⟩ := (exists_compile_iff c target l).mpr h
      obtain ⟨p', hp'⟩ := (exists_compile_iff c target l').mpr (hsound.mp h)
      obtain ⟨prepared, hprepared, hverify⟩ := verify_of_compile hp
      obtain ⟨prepared', hprepared', hverify'⟩ := verify_of_compile hp'
      refine ⟨p, p', hp, hp', fun a => ?_⟩
      rw [hverify, hverify', hprepared.all_evaluate_congr hprepared' hsame]
    · left
      obtain ⟨e, he⟩ := exists_error_of_faulty h
      obtain ⟨e', he'⟩ := exists_error_of_faulty (mt hsound.mpr h)
      exact ⟨e, e', he, he'⟩

def weaponProperty (i : Fin World.weaponProperties.length) : Property World.Entity :=
  ⟨.named "Weapon", [], ⟨.named "Weapon", i⟩⟩

def hueAbove3 : Condition World.Entity :=
  .comparison ⟨weaponProperty ⟨1, by decide⟩, .greater, .int 3, false⟩

def damageFrom10 : Condition World.Entity :=
  .comparison ⟨weaponProperty ⟨2, by decide⟩, .lesser, .int 10, true⟩

/-- the second list starts with no type condition and gets one, the joined list has its own, and the
reordered list gets one in front of its own -/
theorem compile_conjunction_weapon :
    ∃ p q q' p' : Predicate World.Entity,
      ((⟨World.registry, true⟩ : Compiler World.Entity).compile (.named "Weapon")
        ([.typeGuard, hueAbove3] ++ [damageFrom10])).result = .ok p ∧
      ((⟨World.registry, true⟩ : Compiler World.Entity).compile (.named "Weapon")
        [.typeGuard, hueAbove3]).result = .ok q ∧
      ((⟨World.registry, true⟩ : Compiler World.Entity).compile (.named "Weapon")
        [damageFrom10]).result = .ok q' ∧
      ((⟨World.registry, true⟩ : Compiler World.Entity).compile (.named "Weapon")
        [damageFrom10, hueAbove3, .typeGuard, damageFrom10]).result = .ok p' ∧
      (∀ a, p.verify a = (q.verify a && q'.verify a)) ∧ (∀ a, p.verify a = p'.verify a) ∧
      p.verify (.weapon { hue := 4, damage := 10 }) = true ∧
      p.verify (.weapon { hue := 4, damage := 9 }) = false := by
  have hconjunction := compile_conjunction (⟨World.registry, true⟩ : Compiler World.Entity)
    (.named "Weapon")
  obtain ⟨p, hp⟩ : ∃ p, ((⟨World.registry, true⟩ : Compiler World.Entity).compile
      (.named "Weapon") ([.typeGuard, hueAbove3] ++ [damageFrom10])).result = .ok p := ⟨_, rfl⟩
  obtain ⟨⟨q, hq⟩, q', hq'⟩ := (hconjunction.1 _ _).1.mp ⟨p, hp⟩
  have hsame : ∀ condition, condition ∈ [.typeGuard, hueAbove3] ++ [damageFrom10] ↔
      condition ∈ [damageFrom10, hueAbove3, .typeGuard, damageFrom10] := by
    intro condition
    simp only [List.cons_append, List.nil_append, List.mem_cons, List.not_mem_nil]
    tauto
  rcases hconjunction.2.2 _ _ hsame with ⟨e, -, he, -⟩ | ⟨r, p', hr, hp', hverify⟩
  · cases hp.symm.trans he
  · cases hp.symm.trans hr
    refine ⟨p, q, q', p', hp, hq, hq', hp', (hconjunction.1 _ _).2 p q q' hp hq hq', hverify, ?_⟩
    cases hp
    exact ⟨by decide +kernel, by decide +kernel⟩

/-! ## the guard -/

theorem compile_typeGuard (r : Registry α) (target : TypeKey) (conditions : List (Condition α)) :
    (∀ e, ((⟨r, true⟩ : Compiler α).compile target conditions).result = .error e ↔
      ((⟨r, false⟩ : Compiler α).compile target conditions).result = .error e) ∧
    (∀ guarded plain,
      ((⟨r, true⟩ : Compiler α).compile target conditions).result = .ok guarded →
      ((⟨r, false⟩ : Compiler α).compile target conditions).result = .ok plain →
      ∀ a, guarded.verify a = (decide (Schema.typeOf a = target) && plain.verify a)) ∧
    (∀ plain, ((⟨r, false⟩ : Compiler α).compile target conditions).result = .ok plain →
      ∀ a, Schema.typeOf a ≠ target →
        (plain.verify a = true ↔ ∀ condition ∈ conditions, condition = .type ⟨true⟩)) ∧
    ∀ (condition : Condition α) (p : Property α) (prepared : PreparedCondition α),
      condition.property? = some p → condition.prepare r = .ok prepared →
      ∀ a, Schema.typeOf a ≠ target → prepared.evaluate (narrow target a) = false := by
  refine ⟨?_, ?_, ?_, ?_⟩
  · intro e
    rw [result_compile_eq_error_iff, result_compile_eq_error_iff]
  · intro guarded plain hguarded hplain a
    obtain ⟨prepared, hprepared, hverify⟩ := verify_of_compile hguarded
    obtain ⟨prepared', hprepared', hverify'⟩ := verify_of_compile hplain
    obtain rfl := hprepared.unique hprepared'
    rw [hverify, hverify']
    simp [admits]
  · intro plain hplain a ha
    obtain ⟨prepared, hprepared, hverify⟩ := verify_of_compile hplain
    have hadmits : (⟨r, false⟩ : Compiler α).admits target a = true := rfl
    rw [hverify, hadmits, Bool.true_and, (narrow_eq_none_iff target a).mpr ha,
      hprepared.all_evaluate_iff]
    constructor
    · intro hall condition hmem
      obtain ⟨p, -, hp⟩ := exists_of_forall₂_left hprepared hmem
      exact (condition.evaluate_none_iff hp).mp (hall condition hmem p hp)
    · intro hall condition hmem p hp
      exact (condition.evaluate_none_iff hp).mpr (hall condition hmem)
  · intro condition p prepared hproperty hprepare a ha
    rw [(narrow_eq_none_iff target a).mpr ha]
    refine prepared.evaluate_none ?_
    rw [(Condition.prepare_keeps hprepare).2, hproperty]
    rfl

/-- a creature is no weapon: without the guard a negated type condition takes it, and a negated
condition on a property does not -/
theorem compile_typeGuard_mobile :
    ∃ guarded plain other : Predicate World.Entity,
      ((⟨World.registry, true⟩ : Compiler World.Entity).compile (.named "Weapon")
        [.type ⟨true⟩]).result = .ok guarded ∧
      ((⟨World.registry, false⟩ : Compiler World.Entity).compile (.named "Weapon")
        [.type ⟨true⟩]).result = .ok plain ∧
      ((⟨World.registry, false⟩ : Compiler World.Entity).compile (.named "Weapon")
        [.type ⟨true⟩, damageFrom10]).result = .ok other ∧
      plain.verify (.mobile {}) = true ∧ guarded.verify (.mobile {}) = false ∧
      other.verify (.mobile {}) = false := by
  have hguard := compile_typeGuard World.registry (.named "Weapon") [.type ⟨true⟩]
  have hother := compile_typeGuard World.registry (.named "Weapon") [.type ⟨true⟩, damageFrom10]
  have hmobile : Schema.typeOf (World.Entity.mobile {}) ≠ .named "Weapon" := by decide
  refine ⟨_, _, _, rfl, rfl, rfl, ?_, ?_, ?_⟩
  · exact (hguard.2.2.1 _ rfl _ hmobile).mpr (by simp)
  · rw [hguard.2.1 _ _ rfl rfl, decide_eq_false hmobile, Bool.false_and]
  · refine Bool.eq_false_iff.mpr fun htrue => ?_
    have hnegated := (hother.2.2.1 _ rfl _ hmobile).mp htrue damageFrom10 (by simp)
    cases hnegated

end Compiler
end ObjectFilter
