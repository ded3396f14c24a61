import ObjectFilter.Compiler

/-!
# A single condition, compiled

A predicate of one condition answers as that condition does, whether or not a type condition is put in
front of it.

* `compile_single`   the predicate, and its answer for every candidate of the target type.
-/

namespace ObjectFilter

variable {α : Type} [Schema α]

theorem narrow_self {key : TypeKey} {a : α} (h : Schema.typeOf a = key) :
    narrow key a = some a := by
  rw [narrow_eq_some_iff]
  exact ⟨h, rfl⟩

namespace Compiler

theorem result_prepareOne_of_owner (c : Compiler α) {condition : Condition α} {p : Property α}
    (hp : condition.property? = some p) :
    (c.prepareOne p.owner condition).result = condition.prepare c.registry := by
  rw [result_prepareOne]
  unfold checkOwner
  simp only [hp, if_true]
  rfl

theorem evaluate_guardCondition (a : α) : guardCondition.evaluate (some a) = true := rfl

/-- the type condition in front makes no difference to candidates of the target type -/
theorem compile_single (c : Compiler α) {condition : Condition α} {p : Property α}
    (hp : condition.property? = some p) {prepared : PreparedCondition α}
    (h : condition.prepare c.registry = .ok prepared) :
    ∃ predicate : Predicate α, (c.compile p.owner [condition]).result = .ok predicate ∧
      ∀ a, Schema.typeOf a = p.owner → predicate.verify a = prepared.evaluate (some a) := by
  have hone : (c.prepareOne p.owner condition).result = .ok prepared := by
    rw [result_prepareOne_of_owner c hp, h]
  have hall : (c.prepareFrom p.owner 0 [condition]).result = .ok [prepared] := by
    rw [prepareFrom_cons_of_ok hone]
    rfl
  unfold compile
  rw [build_of_ok hall]
  refine ⟨_, rfl, ?_⟩
  intro a ha
  unfold Predicate.verify guards
  dsimp only
  rw [narrow_self ha, List.all_append, List.all_cons, List.all_nil, Bool.and_true]
  split
  · rw [List.all_cons, List.all_nil, evaluate_guardCondition, Bool.true_and, Bool.true_and]
  · rw [List.all_nil, Bool.true_and]

end Compiler
end ObjectFilter
