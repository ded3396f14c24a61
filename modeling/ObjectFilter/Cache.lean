import ObjectFilter.Compiler

/-!
# Predicate caches

A cache keeps one predicate for each target type and list of conditions it compiled, and hands the same
predicate out again for an equal list.  A list that does not compile leaves nothing behind.
-/

namespace ObjectFilter

variable {α : Type} [Schema α]

structure CacheKey (α : Type) [Schema α] where
  target : TypeKey
  conditions : List (Condition α)

instance : DecidableEq (CacheKey α) := fun a b =>
  decidable_of_iff (a.target = b.target ∧ a.conditions = b.conditions) (by cases a; cases b; simp)

/-- a predicate that is handed out more than once, with a number of its own -/
structure SharedPredicate (α : Type) [Schema α] where
  id : Nat
  predicate : Predicate α

structure Cache (α : Type) [Schema α] where
  compiler : Compiler α
  entries : List (CacheKey α × SharedPredicate α)
  /-- the number of the next predicate -/
  nextId : Nat

/-- what a look-up gives, the cache after it, and what happened on the way -/
structure Lookup (α : Type) [Schema α] where
  result : Except FilterError (SharedPredicate α)
  cache : Cache α
  events : List Event

namespace Cache

def empty (compiler : Compiler α) : Cache α := ⟨compiler, [], 0⟩

def find? (c : Cache α) (key : CacheKey α) : Option (SharedPredicate α) :=
  (c.entries.find? (·.1 = key)).map (·.2)

/-- the predicate of a list of conditions, compiled if it is not there yet -/
def getOrCompile (c : Cache α) (target : TypeKey) (conditions : List (Condition α)) : Lookup α :=
  let key : CacheKey α := ⟨target, conditions⟩
  match c.find? key with
  | some shared => ⟨.ok shared, c, [.cacheHit (typeName α target)]⟩
  | none =>
    let compilation := c.compiler.compile target conditions
    let events := .cacheMiss (typeName α target) :: compilation.events
    match compilation.result with
    | .error e => ⟨.error e, c, events⟩
    | .ok predicate =>
      let shared : SharedPredicate α := ⟨c.nextId, predicate⟩
      ⟨.ok shared, { c with entries := c.entries ++ [(key, shared)], nextId := c.nextId + 1 },
        events⟩

def clear (c : Cache α) : Cache α := { c with entries := [] }

def size (c : Cache α) : Nat := c.entries.length

def isEmpty (c : Cache α) : Bool := c.entries.isEmpty

/-! ## small facts -/

theorem getOrCompile_of_find? (c : Cache α) (target : TypeKey) (conditions : List (Condition α))
    (shared : SharedPredicate α) (h : c.find? ⟨target, conditions⟩ = some shared) :
    c.getOrCompile target conditions = ⟨.ok shared, c, [.cacheHit (typeName α target)]⟩ := by
  simp [getOrCompile, h]

end Cache
end ObjectFilter
