import ObjectFilter.Compiler
import ObjectFilter.Proofs.Condition.Preparation
import ObjectFilter.World.Parsers
import Mathlib.Data.List.Forall2

/-!
# Faults

Which conditions have a fault, said apart from the compiler, and what a list with faults compiles to: the
error of the first condition that has one, with its position in the list as it was given.  A list without
faults compiles to its conditions in their order.

* `prepareOne_eq_error_iff`   one condition is refused exactly for its fault;
* `prepareFrom_cases`         a list is prepared as a whole, or up to its first fault;
* `compile_outcome`           what the compiler gives, for every list.
-/

namespace ObjectFilter

variable {α : Type} [Schema α]

/-! ## the fault of a condition -/

/-- what is wrong with a condition over the target type -/
inductive Condition.Faulty (r : Registry α) (target : TypeKey) : Condition α → FilterError → Prop
  | foreign {condition : Condition α} {p : Property α} (hp : condition.property? = some p)
      (howner : p.owner ≠ target) :
      Faulty r target condition
        (.foreignProperty p.path (typeName α p.owner) (typeName α target))
  | notText {c : StringCondition α} (howner : c.property.owner = target)
      (htype : c.property.type ≠ .text) :
      Faulty r target (.string c)
        (.notText c.property.path (c.property.type.name α) c.operator)
  | typedLiteral {c : StringCondition α} (howner : c.property.owner = target)
      (htype : c.property.type = .text) (htyped : c.value.isText = false)
      (hnull : c.value ≠ .null) :
      Faulty r target (.string c) (.mismatch c.value.display (c.property.type.name α))
  | nullSubstring {c : StringCondition α} (howner : c.property.owner = target)
      (htype : c.property.type = .text)
      (hnull : r.resolve c.property.type c.value = .ok (.const .null))
      (hop : c.operator.isSubstring = true) :
      Faulty r target (.string c) (.nullSubstring c.property.path c.operator)
  | notOrdered {c : ComparisonCondition α} (howner : c.property.owner = target)
      (hop : c.operator.isRelational = true) (htype : c.property.type.isOrdered = false) :
      Faulty r target (.comparison c)
        (.notOrdered c.property.path (c.property.type.name α) c.operator)
  | literal {c : ComparisonCondition α} (howner : c.property.owner = target)
      (hfits : c.operator.isRelational = true → c.property.type.isOrdered = true)
      {e : FilterError} (he : r.resolve c.property.type c.value = .error e) :
      Faulty r target (.comparison c) e

theorem StringCondition.faulty_or_prepare (c : StringCondition α) {target : TypeKey}
    (howner : c.property.owner = target) (r : Registry α) :
    (∃ e, (Condition.string c).Faulty r target e) ∨ ∃ prepared, c.prepare r = .ok prepared := by
  by_cases htype : c.property.type = .text
  · rcases r.resolve_text_cases c.value with ⟨htyped, hnull⟩ | ⟨text, htext⟩
    · exact .inl ⟨_, .typedLiteral howner htype htyped hnull⟩
    · by_cases hsearch : c.operator.isSubstring = true ∧ text = none
      · obtain ⟨hop, rfl⟩ := hsearch
        left
        rw [← htype] at htext
        exact ⟨_, .nullSubstring howner htype htext hop⟩
      · right
        obtain ⟨test, htest⟩ := c.exists_test fun hop hnone => hsearch ⟨hop, hnone⟩
        rw [prepare_of_resolves htype r htext, htest]
        exact ⟨_, rfl⟩
  · exact .inl ⟨_, .notText howner htype⟩

theorem ComparisonCondition.faulty_or_prepare (c : ComparisonCondition α) {target : TypeKey}
    (howner : c.property.owner = target) (r : Registry α) :
    (∃ e, (Condition.comparison c).Faulty r target e) ∨
      ∃ prepared, c.prepare r = .ok prepared := by
  by_cases hfits : c.Fits
  · cases hresolve : r.resolve c.property.type c.value with
    | error e => exact .inl ⟨e, .literal howner hfits hresolve⟩
    | ok l => exact .inr ⟨_, (prepare_eq_ok_iff ..).mpr ⟨hfits, l, hresolve, rfl⟩⟩
  · obtain ⟨hop, hordered⟩ := Classical.not_imp.mp hfits
    rw [Bool.not_eq_true] at hordered
    exact .inl ⟨_, .notOrdered howner hop hordered⟩

namespace Compiler

theorem result_prepareOne_foreign (c : Compiler α) {target : TypeKey} {condition : Condition α}
    {p : Property α} (hp : condition.property? = some p) (howner : p.owner ≠ target) :
    (c.prepareOne target condition).result =
      .error (.foreignProperty p.path (typeName α p.owner) (typeName α target)) := by
  rw [result_prepareOne]
  unfold checkOwner
  simp only [hp, if_neg howner]
  rfl

theorem result_prepareOne_own (c : Compiler α) {target : TypeKey} {condition : Condition α}
    (howner : ∀ p, condition.property? = some p → p.owner = target) :
    (c.prepareOne target condition).result = condition.prepare c.registry := by
  rw [result_prepareOne]
  unfold checkOwner
  cases hp : condition.property? with
  | none => rfl
  | some p =>
    simp only [howner p hp, if_true]
    rfl

theorem owner_of_prepareOne {c : Compiler α} {target : TypeKey} {condition : Condition α}
    {prepared : PreparedCondition α} (h : (c.prepareOne target condition).result = .ok prepared) :
    ∀ p, condition.property? = some p → p.owner = target := by
  intro p hp
  by_cases howner : p.owner = target
  · exact howner
  · rw [result_prepareOne_foreign c hp howner] at h
    cases h

theorem prepare_of_prepareOne {c : Compiler α} {target : TypeKey} {condition : Condition α}
    {prepared : PreparedCondition α} (h : (c.prepareOne target condition).result = .ok prepared) :
    condition.prepare c.registry = .ok prepared := by
  rw [← result_prepareOne_own c (owner_of_prepareOne h), h]

theorem prepareOne_of_faulty (c : Compiler α) {target : TypeKey} {condition : Condition α}
    {e : FilterError} (h : condition.Faulty c.registry target e) :
    (c.prepareOne target condition).result = .error e := by
  have hown : ∀ {condition : Condition α} {p : Property α}, condition.property? = some p →
      p.owner = target →
        (c.prepareOne target condition).result = condition.prepare c.registry := by
    intro condition p hp howner
    refine result_prepareOne_own c fun q hq => ?_
    cases hp.symm.trans hq
    exact howner
  cases h with
  | foreign hp howner => exact result_prepareOne_foreign c hp howner
  | notText howner htype =>
    rw [hown rfl howner]
    exact StringCondition.prepare_of_ne_text htype c.registry
  | typedLiteral howner htype htyped hnull =>
    rw [hown rfl howner]
    exact StringCondition.prepare_of_typed htype c.registry htyped hnull
  | nullSubstring howner htype hnull hop =>
    rw [hown rfl howner]
    rw [htype] at hnull
    have hnone : c.registry.resolve .text _ = .ok (.const (Value.ofText none)) := hnull
    show StringCondition.prepare _ _ = _
    rw [StringCondition.prepare_of_resolves htype c.registry hnone,
      StringCondition.test_none_of_isSubstring hop]
    rfl
  | notOrdered howner hop htype =>
    rw [hown rfl howner]
    refine ComparisonCondition.prepare_of_not_fits ?_ c.registry
    intro hfits
    rw [hfits hop] at htype
    cases htype
  | literal howner hfits he =>
    rw [hown rfl howner]
    show ComparisonCondition.prepare _ _ = _
    rw [ComparisonCondition.prepare_of_fits hfits, he]
    rfl

theorem faulty_or_prepareOne (c : Compiler α) (target : TypeKey) (condition : Condition α) :
    (∃ e, condition.Faulty c.registry target e) ∨
      ∃ prepared, (c.prepareOne target condition).result = .ok prepared := by
  by_cases hforeign : ∃ p, condition.property? = some p ∧ p.owner ≠ target
  · obtain ⟨p, hp, howner⟩ := hforeign
    exact .inl ⟨_, .foreign hp howner⟩
  have hown : ∀ p, condition.property? = some p → p.owner = target := by
    intro p hp
    exact Decidable.byContradiction fun h => hforeign ⟨p, hp, h⟩
  rw [result_prepareOne_own c hown]
  cases condition with
  | type condition => exact .inr ⟨_, rfl⟩
  | string condition => exact condition.faulty_or_prepare (hown _ rfl) c.registry
  | comparison condition => exact condition.faulty_or_prepare (hown _ rfl) c.registry

theorem prepareOne_eq_error_iff (c : Compiler α) (target : TypeKey) (condition : Condition α)
    (e : FilterError) :
    (c.prepareOne target condition).result = .error e ↔ condition.Faulty c.registry target e := by
  refine ⟨?_, prepareOne_of_faulty c⟩
  intro h
  rcases faulty_or_prepareOne c target condition with ⟨e', he'⟩ | ⟨prepared, hprepared⟩
  · cases h.symm.trans (prepareOne_of_faulty c he')
    exact he'
  · cases h.symm.trans hprepared

end Compiler

/-! ## errors of a condition itself -/

namespace FilterError

/-- an error without a position around it, and not that of a property of another type -/
def isOwn : FilterError → Bool
  | inCondition .. | foreignProperty .. => false
  | _ => true

theorem isOwn_of_isOfLiteral {e : FilterError} (h : e.isOfLiteral = true) : e.isOwn = true := by
  cases e with
  | inCondition => cases h
  | foreignProperty => cases h
  | _ => rfl

theorem index?_of_isOwn {e : FilterError} (h : e.isOwn = true) : e.index? = none := by
  cases e with
  | inCondition => cases h
  | _ => rfl

theorem root_of_isOwn {e : FilterError} (h : e.isOwn = true) : e.root = e := by
  cases e with
  | inCondition => cases h
  | _ => rfl

end FilterError

/-- the fault of a condition on a property of the target type -/
theorem Condition.Faulty.isOwn {r : Registry α} {target : TypeKey} {condition : Condition α}
    {e : FilterError} (h : condition.Faulty r target e)
    (howner : ∀ p, condition.property? = some p → p.owner = target) : e.isOwn = true := by
  cases h with
  | foreign hp hforeign => exact absurd (howner _ hp) hforeign
  | literal _ _ he =>
    exact FilterError.isOwn_of_isOfLiteral (Registry.isOfLiteral_of_resolve_error he)
  | _ => rfl

theorem Condition.Faulty.index?_eq_none {r : Registry α} {target : TypeKey}
    {condition : Condition α} {e : FilterError} (h : condition.Faulty r target e) :
    e.index? = none := by
  cases h with
  | literal _ _ he =>
    have hown := FilterError.isOwn_of_isOfLiteral (Registry.isOfLiteral_of_resolve_error he)
    exact FilterError.index?_of_isOwn hown
  | _ => rfl

/-! ## the first fault of a list -/

/-- the condition at the position is faulty, and none in front of it is -/
def FirstFault (r : Registry α) (target : TypeKey) (conditions : List (Condition α)) (i : Nat)
    (e : FilterError) : Prop :=
  (∃ condition, conditions[i]? = some condition ∧ condition.Faulty r target e) ∧
    ∀ j < i, ∀ condition, conditions[j]? = some condition → ∀ e', ¬ condition.Faulty r target e'

/-- what a condition without a fault becomes -/
structure Condition.Becomes (r : Registry α) (condition : Condition α)
    (prepared : PreparedCondition α) : Prop where
  prepare_eq : condition.prepare r = .ok prepared
  label_eq : prepared.label = condition.label
  /-- a relational operator is never tested by an equality -/
  ordered : ∀ c, condition = .comparison c → c.operator.isRelational = true →
    ∃ k l, prepared.test = .ordered c.property k c.operator.ordering.1 l

theorem Condition.becomes_of_prepare {r : Registry α} {condition : Condition α}
    {prepared : PreparedCondition α} (h : condition.prepare r = .ok prepared) :
    condition.Becomes r prepared where
  prepare_eq := h
  label_eq := (Condition.prepare_keeps h).1
  ordered := by
    rintro c rfl hop
    obtain ⟨hfits, l, -, rfl⟩ := (ComparisonCondition.prepare_eq_ok_iff ..).mp h
    obtain ⟨k, hk⟩ := ComparisonCondition.test_prepared_of_isRelational hfits hop l
    exact ⟨k, l, hk⟩

theorem Condition.Faulty.unique {r : Registry α} {target : TypeKey} {condition : Condition α}
    {e e' : FilterError} (h : condition.Faulty r target e) (h' : condition.Faulty r target e') :
    e = e' := by
  have hrefused := Compiler.prepareOne_of_faulty ⟨r, false⟩ h
  cases hrefused.symm.trans (Compiler.prepareOne_of_faulty ⟨r, false⟩ h')
  rfl

namespace FirstFault

variable {r : Registry α} {target : TypeKey} {condition : Condition α}
  {conditions : List (Condition α)} {i j : Nat} {e e' : FilterError}

theorem head (h : condition.Faulty r target e) :
    FirstFault r target (condition :: conditions) 0 e := FirstRefused.head h

theorem cons (hhead : ∀ e, ¬ condition.Faulty r target e)
    (h : FirstFault r target conditions i e) :
    FirstFault r target (condition :: conditions) (i + 1) e := FirstRefused.cons hhead h

theorem unique (h : FirstFault r target conditions i e)
    (h' : FirstFault r target conditions j e') : i = j ∧ e = e' :=
  FirstRefused.unique (fun _ _ _ hfaulty hfaulty' => hfaulty.unique hfaulty') h h'

theorem exists_faulty (h : FirstFault r target conditions i e) :
    ∃ condition ∈ conditions, ∃ e, condition.Faulty r target e := by
  obtain ⟨condition, hmem, hfaulty⟩ := FirstRefused.exists_mem h
  exact ⟨condition, hmem, e, hfaulty⟩

end FirstFault

namespace Compiler

theorem prepareFrom_congr {c c' : Compiler α} {target : TypeKey}
    {conditions conditions' : List (Condition α)}
    (h : List.Forall₂ (fun a b => c.prepareOne target a = c'.prepareOne target b)
      conditions conditions') :
    ∀ index, c.prepareFrom target index conditions = c'.prepareFrom target index conditions' := by
  induction h with
  | nil =>
    intro index
    rfl
  | cons hone _ ih =>
    intro index
    rw [prepareFrom, prepareFrom, hone, ih]

theorem prepareFrom_cases (c : Compiler α) (target : TypeKey) (conditions : List (Condition α)) :
    ∀ index,
      (∃ i e, FirstFault c.registry target conditions i e ∧
        (c.prepareFrom target index conditions).result = .error (.inCondition (index + i) e)) ∨
      (∀ condition ∈ conditions, ∀ e, ¬ condition.Faulty c.registry target e) ∧
        ∃ prepared, (c.prepareFrom target index conditions).result = .ok prepared ∧
          List.Forall₂ (Condition.Becomes c.registry) conditions prepared := by
  -- the position of the head is free: the tail starts one further
  induction conditions with
  | nil =>
    intro index
    exact .inr ⟨by simp, [], rfl, .nil⟩
  | cons condition rest ih =>
    intro index
    cases hone : (c.prepareOne target condition).result with
    | error e =>
      have hfaulty := (prepareOne_eq_error_iff c target condition e).mp hone
      left
      refine ⟨0, e, .head hfaulty, ?_⟩
      rw [prepareFrom_cons_of_error hone]
      rfl
    | ok p =>
      have hsound : ∀ e, ¬ condition.Faulty c.registry target e := by
        intro e he
        cases hone.symm.trans (prepareOne_of_faulty c he)
      rw [prepareFrom_cons_of_ok hone]
      rcases ih (index + 1) with ⟨i, e, hfirst, hfault⟩ | ⟨hnone, prepared, hprepared, hall⟩
      · left
        refine ⟨i + 1, e, hfirst.cons hsound, ?_⟩
        rw [hfault, Nat.add_right_comm, Nat.add_assoc]
        rfl
      · right
        refine ⟨List.forall_mem_cons.mpr ⟨hsound, hnone⟩, p :: prepared, ?_, ?_⟩
        · rw [hprepared]
          rfl
        · exact .cons (Condition.becomes_of_prepare (prepare_of_prepareOne hone)) hall

/-- a list compiles, or is refused for its first fault -/
theorem result_compile_cases (c : Compiler α) (target : TypeKey)
    (conditions : List (Condition α)) :
    (∃ i e, FirstFault c.registry target conditions i e ∧
      (c.compile target conditions).result = .error (.inCondition i e)) ∨
    (∀ condition ∈ conditions, ∀ e, ¬ condition.Faulty c.registry target e) ∧
      ∃ prepared,
        (c.compile target conditions).result =
            .ok ⟨target, guards c.typeGuard conditions ++ prepared⟩ ∧
          List.Forall₂ (Condition.Becomes c.registry) conditions prepared := by
  rcases prepareFrom_cases c target conditions 0 with
    ⟨i, e, hfirst, hfault⟩ | ⟨hnone, prepared, hprepared, hall⟩
  · left
    rw [Nat.zero_add] at hfault
    refine ⟨i, e, hfirst, ?_⟩
    rw [compile, build_of_error hfault]
  · refine .inr ⟨hnone, prepared, ?_, hall⟩
    rw [compile, build_of_ok hprepared]

theorem result_compile_eq_error_iff (c : Compiler α) (target : TypeKey)
    (conditions : List (Condition α)) (error : FilterError) :
    (c.compile target conditions).result = .error error ↔
      ∃ i e, FirstFault c.registry target conditions i e ∧ error = .inCondition i e := by
  rcases result_compile_cases c target conditions with
    ⟨i, e, hfirst, hresult⟩ | ⟨hnone, prepared, hresult, -⟩
  · rw [hresult, Except.error.injEq]
    refine ⟨fun herror => ⟨i, e, hfirst, herror.symm⟩, ?_⟩
    rintro ⟨j, e', hfirst', rfl⟩
    obtain ⟨rfl, rfl⟩ := hfirst.unique hfirst'
    rfl
  · rw [hresult]
    refine iff_of_false nofun ?_
    rintro ⟨i, e, hfirst, -⟩
    obtain ⟨condition, hmem, e', hfaulty⟩ := hfirst.exists_faulty
    exact hnone condition hmem e' hfaulty

/-- a condition of a compiled predicate is the guard, or was prepared from one of the list -/
theorem mem_conditions_of_compile {c : Compiler α} {target : TypeKey}
    {conditions : List (Condition α)} {predicate : Predicate α}
    (h : (c.compile target conditions).result = .ok predicate) {prepared : PreparedCondition α}
    (hmem : prepared ∈ predicate.conditions) :
    prepared = guardCondition ∨ ∃ condition ∈ conditions,
      (∀ p, condition.property? = some p → p.owner = target) ∧
        condition.prepare c.registry = .ok prepared := by
  rcases result_compile_cases c target conditions with
    ⟨i, e, -, hresult⟩ | ⟨hnone, all, hresult, hall⟩
  · cases h.symm.trans hresult
  · cases h.symm.trans hresult
    rcases List.mem_append.mp hmem with hguard | hmem
    · unfold guards at hguard
      split at hguard
      · exact .inl (List.mem_singleton.mp hguard)
      · cases hguard
    · right
      obtain ⟨condition, hcondition, hbecomes⟩ := exists_of_forall₂_right hall hmem
      refine ⟨condition, hcondition, ?_, hbecomes.prepare_eq⟩
      intro p hp
      by_cases howner : p.owner = target
      · exact howner
      · exact absurd (.foreign hp howner) (hnone condition hcondition _)

theorem compile_outcome (c : Compiler α) (target : TypeKey) (conditions : List (Condition α)) :
    ((∃ error, (c.compile target conditions).result = .error error) ↔
      ∃ condition ∈ conditions, ∃ e, condition.Faulty c.registry target e) ∧
    (∀ error, (c.compile target conditions).result = .error error ↔
      ∃ i e, FirstFault c.registry target conditions i e ∧ e.index? = none ∧
        error = .inCondition i e) ∧
    ((∀ condition ∈ conditions, ∀ e, ¬ condition.Faulty c.registry target e) →
      ∃ prepared,
        (c.compile target conditions).result =
            .ok ⟨target, guards c.typeGuard conditions ++ prepared⟩ ∧
          List.Forall₂ (Condition.Becomes c.registry) conditions prepared) := by
  rcases result_compile_cases c target conditions with
    ⟨i, e, hfirst, hresult⟩ | ⟨hnone, prepared, hresult, hall⟩
  · obtain ⟨condition, hmem, e', hfaulty⟩ := hfirst.exists_faulty
    refine ⟨⟨fun _ => ⟨condition, hmem, e', hfaulty⟩, fun _ => ⟨_, hresult⟩⟩, ?_, ?_⟩
    · intro error
      rw [hresult, Except.error.injEq]
      refine ⟨?_, ?_⟩
      · rintro rfl
        obtain ⟨_, _, hfaulty⟩ := hfirst.1
        exact ⟨i, e, hfirst, hfaulty.index?_eq_none, rfl⟩
      · rintro ⟨j, e'', hfirst', -, rfl⟩
        obtain ⟨rfl, rfl⟩ := hfirst.unique hfirst'
        rfl
    · intro hnone
      exact absurd hfaulty (hnone condition hmem e')
  · have hresult_ne : ∀ error, (c.compile target conditions).result ≠ .error error := by
      intro error herror
      cases hresult.symm.trans herror
    refine ⟨⟨?_, ?_⟩, ?_, fun _ => ⟨prepared, hresult, hall⟩⟩
    · rintro ⟨error, herror⟩
      exact absurd herror (hresult_ne error)
    · rintro ⟨condition, hmem, e, he⟩
      exact absurd he (hnone condition hmem e)
    · intro error
      refine ⟨fun herror => absurd herror (hresult_ne error), ?_⟩
      rintro ⟨i, e, hfirst, -, -⟩
      obtain ⟨condition, hmem, e', hfaulty⟩ := hfirst.exists_faulty
      exact absurd hfaulty (hnone condition hmem e')

/-- a number that is searched like a text, and behind it a search for null -/
def twoFaults : List (Condition World.Entity) :=
  [.type ⟨true⟩,
   .string ⟨⟨.named "Weapon", [], ⟨.named "Weapon", ⟨2, by decide⟩⟩⟩, .contains, .text "5", false,
    false⟩,
   .string ⟨⟨.named "Weapon", [], ⟨.named "Weapon", ⟨0, by decide⟩⟩⟩, .endsWith, .null, true,
    false⟩]

/-- the guard in front does not move the position of the first fault -/
theorem compile_outcome_guarded :
    needsGuard true twoFaults = true ∧
      ((⟨World.registry, true⟩ : Compiler World.Entity).compile (.named "Weapon") twoFaults).result
        = .error (.inCondition 1 (.notText "Damage" "i64" .contains)) := by
  have herror := (compile_outcome ⟨World.registry, true⟩ (.named "Weapon") twoFaults).2.1
  refine ⟨rfl, (herror _).mpr ⟨1, _, ⟨⟨_, rfl, .notText rfl ?_⟩, ?_⟩, rfl, rfl⟩⟩
  · decide
  · intro j hj condition hcondition e he
    obtain rfl : j = 0 := by omega
    cases hcondition
    cases he with
    | foreign hp _ => cases hp

end Compiler
end ObjectFilter
