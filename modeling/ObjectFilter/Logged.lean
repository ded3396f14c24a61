import ObjectFilter.Event

/-!
# Computations that leave events behind

A computation gives a result or an error, and either way the events of what happened on the way.  What is
done after an error is not done, and leaves nothing behind; the events up to the error stay.
-/

namespace ObjectFilter

/-- a result or an error, and what happened on the way -/
structure Logged (β : Type) where
  result : Except FilterError β
  events : List Event

namespace Logged

variable {β γ : Type}

instance : Monad Logged where
  pure b := ⟨.ok b, []⟩
  bind x f :=
    match x.result with
    | .ok b => ⟨(f b).result, x.events ++ (f b).events⟩
    | .error e => ⟨.error e, x.events⟩

/-- a computation that leaves nothing behind -/
def ofExcept (x : Except FilterError β) : Logged β := ⟨x, []⟩

instance : MonadLift (Except FilterError) Logged where
  monadLift := ofExcept

def fail (e : FilterError) : Logged β := ⟨.error e, []⟩

def emit (e : Event) : Logged Unit := ⟨.ok (), [e]⟩

def reportError (x : Logged β) (report : FilterError → Event) : Logged β :=
  match x.result with
  | .ok _ => x
  | .error e => ⟨.error e, x.events ++ [report e]⟩

def mapError (x : Logged β) (f : FilterError → FilterError) : Logged β :=
  ⟨x.result.mapError f, x.events⟩

/-! ## small facts -/

theorem bind_of_ok {x : Logged β} {b : β} (h : x.result = .ok b) (f : β → Logged γ) :
    x >>= f = ⟨(f b).result, x.events ++ (f b).events⟩ := by
  obtain ⟨result, events⟩ := x
  cases h
  rfl

theorem bind_of_error {x : Logged β} {e : FilterError} (h : x.result = .error e)
    (f : β → Logged γ) : x >>= f = ⟨.error e, x.events⟩ := by
  obtain ⟨result, events⟩ := x
  cases h
  rfl

/-- a result that is only changed leaves nothing more behind -/
theorem bind_pure_eq (x : Logged β) (g : β → γ) :
    (x >>= fun b => pure (g b)) = ⟨x.result.map g, x.events⟩ := by
  cases h : x.result with
  | error e => exact bind_of_error h _
  | ok b =>
    rw [bind_of_ok h]
    show (⟨_, x.events ++ []⟩ : Logged γ) = _
    rw [List.append_nil]
    rfl

theorem reportError_of_ok {x : Logged β} {b : β} (h : x.result = .ok b)
    (report : FilterError → Event) : x.reportError report = x := by
  unfold reportError
  rw [h]

theorem reportError_of_error {x : Logged β} {e : FilterError} (h : x.result = .error e)
    (report : FilterError → Event) :
    x.reportError report = ⟨.error e, x.events ++ [report e]⟩ := by
  unfold reportError
  rw [h]

theorem result_bind (x : Logged β) (f : β → Logged γ) :
    (x >>= f).result = x.result >>= fun b => (f b).result := by
  cases h : x.result with
  | error e => rw [bind_of_error h]; rfl
  | ok b => rw [bind_of_ok h]; rfl

end Logged
end ObjectFilter
