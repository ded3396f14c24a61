import ObjectFilter.Catalog
import ObjectFilter.Compiler
import ObjectFilter.Definition

/-!
# Compiling definitions

A definition is compiled in three steps: its target is looked up in a catalog, its conditions are bound
to the target, and the bound conditions are compiled.  The names of all conditions are looked up
before any literal is read.
-/

namespace ObjectFilter

variable {α : Type} [Schema α]

namespace ConditionDefinition

/-- looks up the names of the condition, the property before the operator -/
def bind (target : TypeKey) : ConditionDefinition → Except FilterError (Condition α)
  | type negated => .ok (.type ⟨negated⟩)
  | string property operator value ignoreCase negated => do
    let property ← Property.bind target property
    let operator ← StringOperator.ofTag operator
    return .string ⟨property, operator, value.raw, ignoreCase, negated⟩
  | comparison property operator value negated => do
    let property ← Property.bind target property
    let operator ← ComparisonOperator.ofTag operator
    return .comparison ⟨property, operator, value.raw, negated⟩

/-- looks up the names of conditions, the first of them at position `index` -/
def bindFrom (target : TypeKey) :
    Nat → List ConditionDefinition → Except FilterError (List (Condition α))
  | _, [] => .ok []
  | index, c :: rest =>
    match c.bind target with
    | .error e => .error (.inCondition index e)
    | .ok condition =>
      match bindFrom target (index + 1) rest with
      | .error e => .error e
      | .ok conditions => .ok (condition :: conditions)

end ConditionDefinition

def Compiler.compileDefinition (c : Compiler α) (catalog : Catalog α) (d : Definition) :
    Compilation α := do
  let target ← (Logged.ofExcept (catalog.resolve d.target)).reportError (.targetUnknown d.target)
  let bound := ConditionDefinition.bindFrom target.key 0 d.conditions
  let conditions ← (Logged.ofExcept bound).reportError (.rejected (typeName α target.key))
  c.build target.key conditions (c.typeGuard || d.typeGuard)

end ObjectFilter
