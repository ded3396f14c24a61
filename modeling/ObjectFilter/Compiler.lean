import ObjectFilter.Logged
import ObjectFilter.Predicate

/-!
# Compiling

A list of conditions becomes a predicate if every one of them can be prepared.  The first that cannot
gives the error, with its position in the list.  A compiler may put a type condition in front of
every list that does not start with one.  Every compilation leaves its events behind.
-/

namespace ObjectFilter

variable {α : Type} [Schema α]

structure Compiler (α : Type) where
  registry : Registry α
  typeGuard : Bool

/-- a predicate or an error, and what happened on the way -/
abbrev Compilation (α : Type) [Schema α] := Logged (Predicate α)

/-- the error of a property of another type than the target -/
def checkOwner (target : TypeKey) (c : Condition α) : Except FilterError Unit :=
  match c.property? with
  | some p =>
    if p.owner = target then .ok ()
    else .error (.foreignProperty p.path (typeName α p.owner) (typeName α target))
  | none => .ok ()

namespace Compiler

def prepareOne (c : Compiler α) (target : TypeKey) (condition : Condition α) :
    Logged (PreparedCondition α) := do
  checkOwner target condition
  condition.prepareLogged c.registry

/-- prepares conditions in order, the first of them at position `index`, up to the first fault -/
def prepareFrom (c : Compiler α) (target : TypeKey) :
    Nat → List (Condition α) → Logged (List (PreparedCondition α))
  | _, [] => return []
  | index, condition :: rest => do
    let prepared ← (c.prepareOne target condition).mapError (.inCondition index)
    return prepared :: (← c.prepareFrom target (index + 1) rest)

/-- whether a type condition goes in front of the list -/
def needsGuard (typeGuard : Bool) (conditions : List (Condition α)) : Bool :=
  typeGuard && !(conditions.head?.any Condition.isTypeGuard)

/-- the prepared type condition that goes in front -/
def guardCondition : PreparedCondition α := TypeCondition.prepare ⟨false⟩

def guards (typeGuard : Bool) (conditions : List (Condition α)) : List (PreparedCondition α) :=
  if needsGuard typeGuard conditions then [guardCondition] else []

/-- compiles with the guard as given -/
def build (c : Compiler α) (target : TypeKey) (conditions : List (Condition α))
    (typeGuard : Bool) : Compilation α := do
  let prepared ←
    (c.prepareFrom target 0 conditions).reportError (.rejected (typeName α target))
  let all := guards typeGuard conditions ++ prepared
  .emit (.compiled (typeName α target) all.length (needsGuard typeGuard conditions))
  return ⟨target, all⟩

def compile (c : Compiler α) (target : TypeKey) (conditions : List (Condition α)) :
    Compilation α :=
  c.build target conditions c.typeGuard

/-! ## small facts -/

theorem result_prepareOne (c : Compiler α) (target : TypeKey) (condition : Condition α) :
    (c.prepareOne target condition).result =
      checkOwner target condition >>= fun _ => condition.prepare c.registry :=
  Logged.result_bind ..

section
variable {c : Compiler α} {target : TypeKey} {conditions : List (Condition α)}

theorem prepareFrom_cons_of_error {condition : Condition α} {e : FilterError}
    (h : (c.prepareOne target condition).result = .error e) (index : Nat) :
    c.prepareFrom target index (condition :: conditions) =
      ⟨.error (.inCondition index e), (c.prepareOne target condition).events⟩ := by
  rw [prepareFrom, Logged.bind_of_error (e := .inCondition index e)]
  · rfl
  · rw [Logged.mapError, h]
    rfl

theorem prepareFrom_cons_of_ok {condition : Condition α} {p : PreparedCondition α}
    (h : (c.prepareOne target condition).result = .ok p) (index : Nat) :
    c.prepareFrom target index (condition :: conditions) =
      ⟨(c.prepareFrom target (index + 1) conditions).result.map (p :: ·),
        (c.prepareOne target condition).events ++
          (c.prepareFrom target (index + 1) conditions).events⟩ := by
  have hone : ((c.prepareOne target condition).mapError (.inCondition index)).result = .ok p := by
    rw [Logged.mapError, h]
    rfl
  rw [prepareFrom, Logged.bind_of_ok hone, Logged.bind_pure_eq]
  rfl

theorem build_of_error {e : FilterError} (h : (c.prepareFrom target 0 conditions).result = .error e)
    (typeGuard : Bool) :
    c.build target conditions typeGuard =
      ⟨.error e, (c.prepareFrom target 0 conditions).events ++
        [.rejected (typeName α target) e]⟩ := by
  unfold build
  rw [Logged.reportError_of_error h]
  rfl

theorem build_of_ok {prepared : List (PreparedCondition α)}
    (h : (c.prepareFrom target 0 conditions).result = .ok prepared) (typeGuard : Bool) :
    c.build target conditions typeGuard =
      ⟨.ok ⟨target, guards typeGuard conditions ++ prepared⟩,
        (c.prepareFrom target 0 conditions).events ++
          [.compiled (typeName α target) (guards typeGuard conditions ++ prepared).length
            (needsGuard typeGuard conditions)]⟩ := by
  unfold build
  rw [Logged.reportError_of_ok h, Logged.bind_of_ok h]
  rfl

end

end Compiler
end ObjectFilter
