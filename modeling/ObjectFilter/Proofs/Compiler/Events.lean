import ObjectFilter.Cache
import ObjectFilter.Proofs.Definition.Refusal
import Mathlib.Data.List.TakeWhile

/-!
# What happens while predicates are compiled

A literal that is parsed into a compound value leaves its event when it is parsed, before anything else is
known of its condition.  Still no such event belongs to a condition that is refused: whatever can go wrong
with a condition goes wrong in front of its literal, or in it.  The end of a compilation is an event of its
own, the last one.

* `events_prepareOne_of_refused`   a refused condition leaves nothing behind;
* `events_prepareFrom`             what a list leaves behind, up to its first fault;
* `build_logs`                     the events of a list that is compiled;
* `compile_events`                 those of conditions, lists, definitions and look-ups.
-/

namespace ObjectFilter

variable {α : Type} [Schema α]

/-! ## literals -/

/-- the compound value that a literal of a declared type is parsed into -/
def Registry.slot? (r : Registry α) (t : ValueType) (raw : RawLiteral) : Option (Slot α) :=
  match r.resolve t raw with
  | .ok l => l.slot?
  | .error _ => none

namespace Registry

theorem slot?_of_resolve_ok {r : Registry α} {t : ValueType} {raw : RawLiteral} {l : Literal α}
    (h : r.resolve t raw = .ok l) : r.slot? t raw = l.slot? := by
  unfold slot?
  rw [h]

theorem slot?_of_resolve_error {r : Registry α} {t : ValueType} {raw : RawLiteral}
    {e : FilterError} (h : r.resolve t raw = .error e) : r.slot? t raw = none := by
  unfold slot?
  rw [h]

/-- a literal leaves the event of its compound value behind, and nothing else -/
theorem events_resolveLogged (r : Registry α) (t : ValueType) (raw : RawLiteral) :
    (r.resolveLogged t raw).events = (r.slot? t raw).toList.map Slot.event := by
  have houtcome := r.resolveLogged_outcome t raw
  unfold slot? resolve
  generalize r.resolveLogged t raw = x at houtcome
  cases houtcome <;> rfl

theorem slot?_text (r : Registry α) (raw : RawLiteral) : r.slot? .text raw = none := by
  rcases r.resolve_text_cases raw with ⟨htyped, hnull⟩ | ⟨text, htext⟩
  · exact slot?_of_resolve_error (r.resolve_text_typed htyped hnull)
  · rw [slot?_of_resolve_ok htext]
    rfl

theorem events_resolveLogged_text (r : Registry α) (raw : RawLiteral) :
    (r.resolveLogged .text raw).events = [] := by
  rw [r.events_resolveLogged, r.slot?_text]
  rfl

end Registry

/-! ## conditions -/

def Condition.slot? (r : Registry α) : Condition α → Option (Slot α)
  | .type _ => none
  | .string c => r.slot? c.property.type c.value
  | .comparison c => r.slot? c.property.type c.value

theorem StringCondition.events_prepareLogged (c : StringCondition α) (r : Registry α) :
    (c.prepareLogged r).events = [] := by
  have hnone := r.events_resolveLogged_text c.value
  by_cases htype : c.property.type = .text
  · rw [prepareLogged_of_text htype]
    cases hresolve : (r.resolveLogged .text c.value).result with
    | error e =>
      rw [Logged.bind_of_error hresolve]
      exact hnone
    | ok l =>
      rw [Logged.bind_of_ok hresolve, hnone]
      rfl
  · rw [prepareLogged_of_ne_text htype]
    rfl

/-- a condition that cannot be prepared is refused before anything is parsed for it -/
theorem Condition.events_of_prepare_error {c : Condition α} {r : Registry α} {e : FilterError}
    (h : c.prepare r = .error e) : (c.prepareLogged r).events = [] := by
  cases c with
  | type c => rfl
  | string c => exact c.events_prepareLogged r
  | comparison c =>
    show (c.prepareLogged r).events = []
    by_cases hfits : c.Fits
    · rw [ComparisonCondition.prepareLogged_of_fits hfits]
      dsimp only
      cases hresolve : r.resolve c.property.type c.value with
      | error e' =>
        rw [r.events_resolveLogged, Registry.slot?_of_resolve_error hresolve]
        rfl
      | ok l =>
        have hok : c.prepare r = .ok (c.prepared l) :=
          (c.prepare_eq_ok_iff r _).mpr ⟨hfits, l, hresolve, rfl⟩
        cases hok.symm.trans h
    · rw [ComparisonCondition.prepareLogged_of_not_fits hfits]
      rfl

theorem Condition.events_of_prepare_ok {c : Condition α} {r : Registry α}
    {p : PreparedCondition α} (h : c.prepare r = .ok p) :
    (c.prepareLogged r).events = (c.slot? r).toList.map Slot.event := by
  cases c with
  | type c => rfl
  | string c =>
    have hnone : (Condition.string c).slot? r = none := by
      show r.slot? c.property.type c.value = none
      rw [StringCondition.isText_of_prepare h, Registry.slot?_text]
    rw [hnone]
    exact c.events_prepareLogged r
  | comparison c =>
    obtain ⟨hfits, -⟩ := (c.prepare_eq_ok_iff r p).mp h
    show (c.prepareLogged r).events = _
    rw [ComparisonCondition.prepareLogged_of_fits hfits]
    exact r.events_resolveLogged c.property.type c.value

/-! ## lists of conditions -/

namespace Compiler

/-- the conditions in front of the first that cannot be prepared -/
def sound (c : Compiler α) (target : TypeKey) (conditions : List (Condition α)) :
    List (Condition α) :=
  conditions.takeWhile fun condition => (c.prepareOne target condition).result.isOk

def slots (c : Compiler α) (target : TypeKey) (conditions : List (Condition α)) :
    List (Slot α) :=
  (c.sound target conditions).filterMap (Condition.slot? c.registry)

section
variable {c : Compiler α} {target : TypeKey} {condition : Condition α}

theorem events_prepareOne_of_refused {e : FilterError}
    (h : (c.prepareOne target condition).result = .error e) :
    (c.prepareOne target condition).events = [] := by
  unfold prepareOne at h ⊢
  cases howner : checkOwner target condition with
  | error e' => rfl
  | ok u =>
    rw [howner] at h
    exact Condition.events_of_prepare_error h

theorem events_prepareOne_of_prepared {p : PreparedCondition α}
    (h : (c.prepareOne target condition).result = .ok p) :
    (c.prepareOne target condition).events =
      (condition.slot? c.registry).toList.map Slot.event := by
  unfold prepareOne at h ⊢
  cases howner : checkOwner target condition with
  | error e' =>
    rw [howner] at h
    cases h
  | ok u =>
    rw [howner] at h
    exact Condition.events_of_prepare_ok h

theorem sound_cons_of_refused {e : FilterError}
    (h : (c.prepareOne target condition).result = .error e) (rest : List (Condition α)) :
    c.sound target (condition :: rest) = [] := by
  unfold sound
  rw [List.takeWhile_cons_of_neg]
  rw [h]
  exact Bool.false_ne_true

theorem sound_cons_of_prepared {p : PreparedCondition α}
    (h : (c.prepareOne target condition).result = .ok p) (rest : List (Condition α)) :
    c.sound target (condition :: rest) = condition :: c.sound target rest := by
  unfold sound
  rw [List.takeWhile_cons_of_pos]
  rw [h]
  rfl

theorem slots_cons_of_prepared {p : PreparedCondition α}
    (h : (c.prepareOne target condition).result = .ok p) (rest : List (Condition α)) :
    c.slots target (condition :: rest) =
      (condition.slot? c.registry).toList ++ c.slots target rest := by
  unfold slots
  rw [sound_cons_of_prepared h, List.filterMap_cons]
  cases condition.slot? c.registry <;> rfl

end

/-- what is left behind belongs to conditions that were not refused -/
theorem events_prepareFrom (c : Compiler α) (target : TypeKey) (conditions : List (Condition α)) :
    ∀ index, (c.prepareFrom target index conditions).events =
      (c.slots target conditions).map Slot.event := by
  induction conditions with
  | nil =>
    intro index
    rfl
  | cons condition rest ih =>
    intro index
    cases hone : (c.prepareOne target condition).result with
    | error e =>
      have hslots : c.slots target (condition :: rest) = [] := by
        unfold slots
        rw [sound_cons_of_refused hone]
        rfl
      rw [prepareFrom_cons_of_error hone, hslots]
      exact events_prepareOne_of_refused hone
    | ok p =>
      rw [prepareFrom_cons_of_ok hone, slots_cons_of_prepared hone, List.map_append]
      dsimp only
      rw [events_prepareOne_of_prepared hone, ih]

theorem sound_of_firstFault {c : Compiler α} {target : TypeKey} {conditions : List (Condition α)} :
    ∀ {i : Nat} {e : FilterError}, FirstFault c.registry target conditions i e →
      c.sound target conditions = conditions.take i := by
  induction conditions with
  | nil =>
    intro i e h
    exact List.take_nil.symm
  | cons condition rest ih =>
    intro i e h
    cases i with
    | zero =>
      obtain ⟨⟨_, hhead, hfaulty⟩, -⟩ := h
      cases hhead
      rw [sound_cons_of_refused (prepareOne_of_faulty c hfaulty), List.take_zero]
    | succ i =>
      have hhead : ∃ p, (c.prepareOne target condition).result = .ok p := by
        rcases c.faulty_or_prepareOne target condition with ⟨e', hfaulty⟩ | hok
        · exact absurd hfaulty (h.2 0 (Nat.succ_pos i) condition rfl e')
        · exact hok
      obtain ⟨p, hp⟩ := hhead
      have hrest : FirstFault c.registry target rest i e := by
        refine ⟨h.1, ?_⟩
        intro j hj
        exact h.2 (j + 1) (Nat.succ_lt_succ hj)
      rw [sound_cons_of_prepared hp, List.take_succ_cons, ih hrest]

theorem sound_of_not_faulty {c : Compiler α} {target : TypeKey} {conditions : List (Condition α)}
    (h : ∀ condition ∈ conditions, ∀ e, ¬ condition.Faulty c.registry target e) :
    c.sound target conditions = conditions := by
  unfold sound
  rw [List.takeWhile_eq_self_iff]
  intro condition hmem
  rcases c.faulty_or_prepareOne target condition with ⟨e, hfaulty⟩ | ⟨p, hp⟩
  · exact absurd hfaulty (h condition hmem e)
  · rw [hp]
    rfl

theorem sound_of_build {c : Compiler α} {target : TypeKey} {conditions : List (Condition α)}
    {typeGuard : Bool} {predicate : Predicate α}
    (h : (c.build target conditions typeGuard).result = .ok predicate) :
    c.sound target conditions = conditions := by
  rw [build_eq_compile] at h
  rcases result_compile_cases ⟨c.registry, typeGuard⟩ target conditions with
    ⟨i, e, -, hresult⟩ | ⟨hnone, -⟩
  · cases h.symm.trans hresult
  · exact sound_of_not_faulty hnone

end Compiler

/-! ## the last event -/

/-- the event that says how the compilation for a target ended -/
inductive Event.Ends (target : String) : Except FilterError (Predicate α) → Event → Prop
  | compiled (p : Predicate α) (typeGuard : Bool) :
      Ends target (.ok p) (.compiled target p.size typeGuard)
  | rejected (e : FilterError) : Ends target (.error e) (.rejected target e)

namespace Compilation

/-- the events are those of the compound values, and one for the end -/
def Logs (x : Compilation α) (target : String) (slots : List (Slot α)) : Prop :=
  ∃ last, last.Ends target x.result ∧ x.events = slots.map Slot.event ++ [last]

end Compilation

namespace Compiler

theorem build_logs (c : Compiler α) (target : TypeKey) (conditions : List (Condition α))
    (typeGuard : Bool) :
    (c.build target conditions typeGuard).Logs (typeName α target)
      (c.slots target conditions) := by
  have hevents := c.events_prepareFrom target conditions 0
  cases hprepare : (c.prepareFrom target 0 conditions).result with
  | error e =>
    rw [build_of_error hprepare, hevents]
    exact ⟨_, .rejected e, rfl⟩
  | ok prepared =>
    rw [build_of_ok hprepare, hevents]
    exact ⟨_, .compiled ⟨target, guards typeGuard conditions ++ prepared⟩ _, rfl⟩

theorem events_getOrCompile_of_miss {cache : Cache α} {target : TypeKey}
    {conditions : List (Condition α)} (h : cache.find? ⟨target, conditions⟩ = none) :
    (cache.getOrCompile target conditions).events =
      .cacheMiss (typeName α target) :: (cache.compiler.compile target conditions).events := by
  unfold Cache.getOrCompile
  simp only [h]
  split <;> rfl

theorem compile_events (c : Compiler α) :
    (∀ target condition,
      (∀ e, (c.prepareOne target condition).result = .error e →
        (c.prepareOne target condition).events = []) ∧
      ∀ p, (c.prepareOne target condition).result = .ok p →
        (c.prepareOne target condition).events =
          (condition.slot? c.registry).toList.map Slot.event) ∧
    (∀ target conditions,
      (c.compile target conditions).Logs (typeName α target) (c.slots target conditions) ∧
      (∀ predicate, (c.compile target conditions).result = .ok predicate →
        c.sound target conditions = conditions) ∧
      ∀ i e, FirstFault c.registry target conditions i e →
        c.sound target conditions = conditions.take i) ∧
    (∀ (catalog : Catalog α) (d : Definition),
      (∀ e, catalog.resolve d.target = .error e →
        c.compileDefinition catalog d = ⟨.error e, [.targetUnknown d.target e]⟩) ∧
      ∀ target, catalog.resolve d.target = .ok target →
        (∀ e, (ConditionDefinition.bindFrom target.key 0 d.conditions :
            Except FilterError (List (Condition α))) = .error e →
          (c.compileDefinition catalog d).Logs (typeName α target.key) []) ∧
        ∀ conditions, ConditionDefinition.bindFrom target.key 0 d.conditions = .ok conditions →
          (c.compileDefinition catalog d).Logs (typeName α target.key)
            (c.slots target.key conditions) ∧
          ∀ predicate, (c.compileDefinition catalog d).result = .ok predicate →
            c.sound target.key conditions = conditions) ∧
    ∀ (cache : Cache α) target conditions,
      (∀ shared, cache.find? ⟨target, conditions⟩ = some shared →
        (cache.getOrCompile target conditions).events = [.cacheHit (typeName α target)]) ∧
      (cache.find? ⟨target, conditions⟩ = none →
        (cache.getOrCompile target conditions).events =
          .cacheMiss (typeName α target) ::
            (cache.compiler.compile target conditions).events) := by
  refine ⟨?_, ?_, ?_, ?_⟩
  · intro target condition
    exact ⟨fun _ => events_prepareOne_of_refused, fun _ => events_prepareOne_of_prepared⟩
  · intro target conditions
    exact ⟨c.build_logs target conditions c.typeGuard, fun _ h => sound_of_build h,
      fun _ _ h => sound_of_firstFault h⟩
  · intro catalog d
    refine ⟨fun _ h => compileDefinition_of_unknown h, ?_⟩
    intro target htarget
    refine ⟨?_, ?_⟩
    · intro e hbind
      rw [compileDefinition_of_unbound htarget hbind]
      exact ⟨_, .rejected e, rfl⟩
    · intro conditions hbind
      rw [compileDefinition_of_bound htarget hbind]
      exact ⟨c.build_logs target.key conditions _, fun _ h => sound_of_build h⟩
  · intro cache target conditions
    refine ⟨?_, events_getOrCompile_of_miss⟩
    intro shared h
    rw [Cache.getOrCompile_of_find? cache target conditions shared h]

/-- a hue between two places -/
def placesAndHue (hue : String) : List (Condition World.Entity) :=
  let location := ⟨.named "Container", [], ⟨.named "Container", ⟨5, by decide⟩⟩⟩
  [.comparison ⟨location, .equal, .text " (1, 2, 3)", false⟩,
   .comparison ⟨⟨.named "Container", [], ⟨.named "Container", ⟨1, by decide⟩⟩⟩, .greater,
    .text hue, false⟩,
   .comparison ⟨location, .notEqual, .text "(0, 0, 0)", true⟩]

/-- the same as a definition, with names that may be wrong -/
def placesAndHueOf (target hue : String) : Definition :=
  ⟨target, true,
    [.comparison "location" "==" (.text " (1, 2, 3)") false,
     .comparison hue ">" (.text "0x1F") false,
     .comparison "LOCATION" "!=" (.text "(0, 0, 0)") true]⟩

/-- reads points, and puts no type condition in front -/
def ofPoints : Compiler World.Entity := ⟨World.registry, false⟩

/-- a look-up of a list with a fault, and one of a list that is there; then three definitions: nothing is
wrong with the first, its target with the second and a name with the third -/
theorem compile_events_places :
    (∃ e, ((Cache.empty ofPoints).getOrCompile (.named "Container") (placesAndHue "red")).events =
      [.cacheMiss "Container", .slotCreated "Point3D" "(1, 2, 3)", .rejected "Container" e]) ∧
    ((⟨ofPoints, [(⟨.named "Container", []⟩, ⟨0, ⟨.named "Container", []⟩⟩)], 1⟩ :
        Cache World.Entity).getOrCompile (.named "Container") []).events =
      [.cacheHit "Container"] ∧
    (∃ size typeGuard,
      (ofPoints.compileDefinition World.catalog (placesAndHueOf "container" "Hue")).events =
        [.slotCreated "Point3D" "(1, 2, 3)", .slotCreated "Point3D" "(0, 0, 0)",
          .compiled "Container" size typeGuard]) ∧
    (ofPoints.compileDefinition World.catalog (placesAndHueOf "boat" "Hue")).events =
      [.targetUnknown "boat" (.unknownType "boat")] ∧
    ∃ e, (ofPoints.compileDefinition World.catalog (placesAndHueOf "container" "Colour")).events =
      [.rejected "Container" e] := by
  obtain ⟨-, hlists, hdefinitions, hcaches⟩ := compile_events ofPoints
  have htarget : World.catalog.resolve "container" = .ok (World.describe (.named "Container")) :=
    rfl
  have hkey : (World.describe (.named "Container")).key = .named "Container" := rfl
  refine ⟨?_, ?_, ?_, ?_, ?_⟩
  · obtain ⟨⟨last, hlast, hevents⟩, hall, hfirst⟩ :=
      hlists (.named "Container") (placesAndHue "red")
    have hread : World.registry.resolve (.signed .w32) (.text "red") =
        .error (.conversion "red" "i32" "invalid digit found in string") := rfl
    have hfault : FirstFault World.registry (.named "Container") (placesAndHue "red") 1
        (.conversion "red" "i32" "invalid digit found in string") := by
      refine .cons ?_ (.head ?_)
      · intro e he
        cases prepareOne_of_faulty ofPoints he
      · refine .literal ?_ ?_ ?_
        · rfl
        · exact fun _ => rfl
        · exact hread
    have hsound := hfirst 1 _ hfault
    have hslots : (ofPoints.slots (.named "Container") (placesAndHue "red")).map Slot.event =
        [.slotCreated "Point3D" "(1, 2, 3)"] := by
      unfold slots
      rw [hsound]
      decide +kernel
    rw [hslots] at hevents
    cases hresult : (ofPoints.compile (.named "Container") (placesAndHue "red")).result with
    | ok predicate => cases hsound.symm.trans (hall predicate hresult)
    | error e =>
      rw [hresult] at hlast
      cases hlast
      refine ⟨e, ?_⟩
      rw [(hcaches _ _ _).2 rfl]
      exact congrArg _ hevents
  · exact (hcaches _ _ []).1 _ rfl
  · obtain ⟨⟨last, hlast, hevents⟩, -⟩ :=
      ((hdefinitions World.catalog (placesAndHueOf "container" "Hue")).2 _ htarget).2
        (placesAndHue "0x1F") (by decide +kernel)
    have hslots : (ofPoints.slots (.named "Container") (placesAndHue "0x1F")).map Slot.event =
        [.slotCreated "Point3D" "(1, 2, 3)", .slotCreated "Point3D" "(0, 0, 0)"] := by
      decide +kernel
    have hok : (ofPoints.compileDefinition World.catalog
        (placesAndHueOf "container" "Hue")).result.isOk = true := by decide +kernel
    rw [hkey, hslots] at hevents
    cases hresult : (ofPoints.compileDefinition World.catalog
        (placesAndHueOf "container" "Hue")).result with
    | ok predicate =>
      rw [hresult] at hlast
      cases hlast
      exact ⟨_, _, hevents⟩
    | error e =>
      rw [hresult] at hok
      cases hok
  · rw [(hdefinitions World.catalog (placesAndHueOf "boat" "Hue")).1 _ rfl]
    rfl
  · have hbind : (ConditionDefinition.bindFrom (.named "Container") 0
        (placesAndHueOf "container" "Colour").conditions :
        Except FilterError (List (Condition World.Entity))) = .error
          (.inCondition 1 (.unknownProperty "Container" "Colour")) := by decide +kernel
    obtain ⟨last, hlast, hevents⟩ :=
      ((hdefinitions World.catalog (placesAndHueOf "container" "Colour")).2 _ htarget).1 _ hbind
    rw [compileDefinition_of_unbound htarget hbind] at hlast
    cases hlast
    exact ⟨_, hevents⟩

end Compiler
end ObjectFilter
