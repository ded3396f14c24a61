import ObjectFilter.Proofs.Compiler.Events
import Mathlib.Data.List.DropRight

/-!
# What the console shows of a rejection

A compilation that fails ends with the event of its rejection, and the console writes the message of the
error in the line of that event.  The quotation marks at the end of the message are not written.  They
belong to it where it ends with a quoted operator or path, or with the reason of a parser that quotes
something last.

* `trimQuotes_append`        what is lost at the end of a text that starts with something else;
* `getLast?_message`         the errors whose message ends with a quotation mark;
* `ShownAs.eq_message_iff`   the errors that are shown as they are;
* `rejections_shown`         the lines of all compilations that fail.
-/

namespace ObjectFilter

variable {α : Type} [Schema α]

/-! ## quotation marks at the ends of a text -/

theorem toList_trimQuotes (s : String) :
    (trimQuotes s).toList = (s.toList.dropWhile (· = '"')).rdropWhile (· = '"') := by
  unfold trimQuotes
  dsimp only
  rw [String.toList_ofList]
  rfl

theorem getLast?_trimQuotes (s : String) : (trimQuotes s).toList.getLast? ≠ some '"' := by
  intro hlast
  rw [toList_trimQuotes] at hlast
  obtain ⟨hne, hquote⟩ := List.mem_getLast?_eq_getLast hlast
  exact List.rdropWhile_last_not _ _ hne (decide_eq_true hquote.symm)

/-- what is lost at the end of a text that starts with something else -/
theorem trimQuotes_append {s : String} (h : s.toList.head? ≠ some '"') :
    ∃ n, s.toList = (trimQuotes s).toList ++ List.replicate n '"' := by
  have hfront : s.toList.dropWhile (· = '"') = s.toList := by
    cases hs : s.toList with
    | nil => rfl
    | cons c rest =>
      rw [hs] at h
      refine List.dropWhile_cons_of_neg ?_
      simpa using h
  have hback : s.toList.rtakeWhile (· = '"') =
      List.replicate (s.toList.rtakeWhile (· = '"')).length '"' := by
    refine List.eq_replicate_of_mem ?_
    intro c hc
    simpa using List.mem_rtakeWhile_imp hc
  refine ⟨(s.toList.rtakeWhile (· = '"')).length, ?_⟩
  rw [toList_trimQuotes, hfront, ← hback, List.rdropWhile_append_rtakeWhile]

/-! ## the ends of messages -/

section
variable {front part : String}

theorem head?_append {c : Char} (h : front.toList.head? = some c) (part : String) :
    (front ++ part).toList.head? = some c := by
  rw [String.toList_append, List.head?_append, h]
  rfl

theorem getLast?_append {c : Char} (h : part.toList.getLast? = some c) (front : String) :
    (front ++ part).toList.getLast? = some c := by
  rw [String.toList_append, List.getLast?_append, h]
  rfl

theorem getLast?_append_ne {c : Char} (h : part.toList.getLast? = some c) (hc : c ≠ '"')
    (front : String) : (front ++ part).toList.getLast? ≠ some '"' := by
  rw [getLast?_append h]
  simpa using hc

/-- behind something else, a quotation mark at the end is one of the last part -/
theorem getLast?_append_iff (h : front.toList.getLast? ≠ some '"') :
    (front ++ part).toList.getLast? = some '"' ↔ part.toList.getLast? = some '"' := by
  rw [String.toList_append, List.getLast?_append]
  cases hpart : part.toList.getLast? with
  | none => exact iff_of_false h nofun
  | some c => exact Iff.rfl

end

namespace FilterError

/-- the message quotes something last: an operator, a path, or what a parser quotes in its reason -/
def EndsQuoted : FilterError → Prop
  | conversion _ _ reason => reason.toList.getLast? = some '"'
  | unknownOperator _ | invalidPath _ => True
  | inCondition _ source => source.EndsQuoted
  | _ => False

theorem getLast?_message (e : FilterError) :
    e.message.toList.getLast? = some '"' ↔ e.EndsQuoted := by
  -- by what is written last: a reason or another message, a quotation mark, or some other character
  induction e with
  | conversion literal type reason =>
    exact getLast?_append_iff (getLast?_append_ne (c := ' ') (by decide) (by decide) _)
  | inCondition index source ih =>
    refine Iff.trans (getLast?_append_iff ?_) ih
    exact getLast?_append_ne (c := ' ') (by decide) (by decide) _
  | unknownOperator tag => exact iff_of_true (getLast?_append (by decide) _) trivial
  | invalidPath path => exact iff_of_true (getLast?_append (by decide) _) trivial
  | noParser => exact iff_of_false (getLast?_append_ne (c := 'd') (by decide) (by decide) _) id
  | nullSubstring =>
    exact iff_of_false (getLast?_append_ne (c := 'l') (by decide) (by decide) _) id
  | notOrdered property type operator =>
    refine iff_of_false (getLast?_append_ne (c := ')') ?_ (by decide) _) id
    exact getLast?_append (by decide) _
  | notText property type operator =>
    refine iff_of_false (getLast?_append_ne (c := '\'') ?_ (by decide) _) id
    exact getLast?_append (by decide) _
  | _ => exact iff_of_false (getLast?_append_ne (c := '\'') (by decide) (by decide) _) id

/-- an error with a position starts with that, also the one message that has a quotation mark in front -/
theorem head?_message_inCondition (index : Nat) (e : FilterError) :
    (inCondition index e).message.toList.head? ≠ some '"' := by
  have hhead : (inCondition index e).message.toList.head? = some 'c' :=
    head?_append (head?_append (head?_append (by decide) _) _) _
  rw [hhead]
  decide

theorem head?_message_unknownType (name : String) :
    (unknownType name).message.toList.head? ≠ some '"' := by
  have hhead : (unknownType name).message.toList.head? = some 'u' :=
    head?_append (head?_append (by decide) _) _
  rw [hhead]
  decide

/-- the text is the message of the error without the quotation marks at its end -/
structure ShownAs (e : FilterError) (text : String) : Prop where
  message_eq : ∃ n, e.message.toList = text.toList ++ List.replicate n '"'
  bare : text.toList.getLast? ≠ some '"'

theorem shownAs_trimQuotes {e : FilterError} (h : e.message.toList.head? ≠ some '"') :
    e.ShownAs (trimQuotes e.message) :=
  ⟨trimQuotes_append h, getLast?_trimQuotes _⟩

/-- nothing is lost of the messages that do not end with a quotation mark, and of no others -/
theorem ShownAs.eq_message_iff {e : FilterError} {text : String} (h : e.ShownAs text) :
    text = e.message ↔ ¬ e.EndsQuoted := by
  rw [← getLast?_message]
  constructor
  · rintro rfl
    exact h.bare
  · intro hbare
    obtain ⟨n, hmessage⟩ := h.message_eq
    cases n with
    | zero =>
      rw [List.replicate_zero, List.append_nil] at hmessage
      exact (String.toList_inj.mp hmessage).symm
    | succ n =>
      refine absurd ?_ hbare
      rw [hmessage, List.replicate_succ', ← List.append_assoc, List.getLast?_concat]

end FilterError

/-! ## the line of a rejection -/

namespace Event

/-- the error that an event reports -/
def error? : Event → Option FilterError
  | rejected _ e | targetUnknown _ e => some e
  | _ => none

/-- the line of a rejection, with the name of the target and a text for the error -/
def rejectionLine (target text : String) : String :=
  Style.yellow.apply "[condforge]" ++ " "
    ++ (Style.bold.apply (Style.brightRed.apply "rejected") ++ " " ++ Style.brightWhite.apply target
      ++ ": " ++ Style.red.apply text)

theorem render_rejected (target : String) (e : FilterError) :
    (rejected target e).render = rejectionLine target (trimQuotes e.message) := rfl

theorem render_targetUnknown (name : String) (e : FilterError) :
    (targetUnknown name e).render = rejectionLine (trimQuotes name) (trimQuotes e.message) := rfl

end Event

/-- the compilation ends with the rejection of the target for the error, and in the line of that the
message stands without the quotation marks at its end -/
def Compilation.Shows (x : Compilation α) (target : String) (error : FilterError) : Prop :=
  ∃ (slots : List (Slot α)) (last : Event) (text : String),
    x.events = slots.map Slot.event ++ [last] ∧ last.error? = some error ∧
      last.render = Event.rejectionLine target text ∧ error.ShownAs text ∧
        (text = error.message ↔ ¬ error.EndsQuoted)

section
variable {x : Compilation α} {target : String} {error : FilterError}

theorem Compilation.Shows.exists_mem (h : x.Shows target error) :
    ∃ event ∈ x.events, ∃ text, event.render = Event.rejectionLine target text ∧
      (text = error.message ↔ ¬ error.EndsQuoted) := by
  obtain ⟨slots, last, text, hevents, -, hline, -, htext⟩ := h
  refine ⟨last, ?_, text, hline, htext⟩
  rw [hevents]
  exact List.mem_append_right _ (List.mem_singleton_self last)

/-- a message that does not end with a quotation mark stands in the line as it is -/
theorem Compilation.Shows.complete (h : x.Shows target error) (hbare : ¬ error.EndsQuoted) :
    ∃ event ∈ x.events, event.render = Event.rejectionLine target error.message := by
  obtain ⟨event, hmem, text, hline, htext⟩ := h.exists_mem
  rw [htext.mpr hbare] at hline
  exact ⟨event, hmem, hline⟩

end

namespace Compiler

theorem shows_of_logs {x : Compilation α} {target : String} {slots : List (Slot α)}
    {error : FilterError} (h : x.Logs target slots) (hresult : x.result = .error error)
    (hhead : error.message.toList.head? ≠ some '"') : x.Shows target error := by
  obtain ⟨last, hlast, hevents⟩ := h
  rw [hresult] at hlast
  cases hlast
  have hshown := FilterError.shownAs_trimQuotes hhead
  exact ⟨slots, _, _, hevents, rfl, Event.render_rejected target error, hshown,
    hshown.eq_message_iff⟩

theorem shows_of_build {c : Compiler α} {target : TypeKey} {conditions : List (Condition α)}
    {typeGuard : Bool} {error : FilterError}
    (h : (c.build target conditions typeGuard).result = .error error) :
    (c.build target conditions typeGuard).Shows (typeName α target) error := by
  have hposition : error.message.toList.head? ≠ some '"' := by
    rw [build_eq_compile, result_compile_eq_error_iff] at h
    obtain ⟨i, e, -, rfl⟩ := h
    exact FilterError.head?_message_inCondition i e
  exact shows_of_logs (c.build_logs target conditions typeGuard) h hposition

theorem shows_of_unknown {c : Compiler α} {catalog : Catalog α} {d : Definition}
    (h : catalog.get? d.target = none) :
    (c.compileDefinition catalog d).Shows (trimQuotes d.target) (.unknownType d.target) := by
  have hshown :=
    FilterError.shownAs_trimQuotes (FilterError.head?_message_unknownType d.target)
  refine ⟨[], _, _, ?_, rfl, Event.render_targetUnknown d.target _, hshown, hshown.eq_message_iff⟩
  rw [compileDefinition_of_unknown ((catalog.resolve_eq_error_iff ..).mpr ⟨h, rfl⟩)]
  rfl

theorem shows_of_known {c : Compiler α} {catalog : Catalog α} {d : Definition}
    {target : TypeDescriptor α} {error : FilterError} (h : catalog.get? d.target = some target)
    (herror : (c.compileDefinition catalog d).result = .error error) :
    (c.compileDefinition catalog d).Shows (typeName α target.key) error := by
  have hresolve := (catalog.resolve_eq_ok_iff ..).mpr h
  rcases ConditionDefinition.bindFrom_cases α target.key d.conditions 0 with
    ⟨i, e, -, hbind⟩ | ⟨conditions, hbind, -⟩
  · rw [compileDefinition_of_unbound hresolve hbind] at herror ⊢
    cases herror
    have hlogs : Compilation.Logs ⟨_, [.rejected _ (.inCondition (0 + i) e)]⟩
        (typeName α target.key) ([] : List (Slot α)) := ⟨_, .rejected _, rfl⟩
    exact shows_of_logs hlogs rfl (FilterError.head?_message_inCondition _ e)
  · rw [compileDefinition_of_bound hresolve hbind] at herror ⊢
    exact shows_of_build herror

/-- of a fault, only the reason of a parser can be quoted last -/
theorem quoted_reason_of_faulty {r : Registry α} {target : TypeKey} {condition : Condition α}
    {e : FilterError} (h : condition.Faulty r target e) (hquoted : e.EndsQuoted) :
    ∃ literal type reason, e = .conversion literal type reason := by
  cases h with
  | literal _ _ he =>
    have hliteral := Registry.isOfLiteral_of_resolve_error he
    cases e with
    | conversion literal type reason => exact ⟨literal, type, reason, rfl⟩
    | unknownOperator => cases hliteral
    | invalidPath => cases hliteral
    | inCondition => cases hliteral
    | _ => cases hquoted
  | _ => cases hquoted

theorem rejections_shown (c : Compiler α) :
    (∀ target conditions error, (c.compile target conditions).result = .error error →
      (c.compile target conditions).Shows (typeName α target) error ∧
      (error.EndsQuoted → ∃ i literal type reason,
        error = .inCondition i (.conversion literal type reason))) ∧
    ∀ (catalog : Catalog α) (d : Definition) error,
      (c.compileDefinition catalog d).result = .error error →
      (∀ target, catalog.get? d.target = some target →
        (c.compileDefinition catalog d).Shows (typeName α target.key) error) ∧
      (catalog.get? d.target = none →
        error = .unknownType d.target ∧
          (c.compileDefinition catalog d).Shows (trimQuotes d.target) error) := by
  refine ⟨?_, ?_⟩
  · intro target conditions error h
    refine ⟨shows_of_build h, ?_⟩
    intro hquoted
    obtain ⟨i, e, ⟨⟨_, -, hfaulty⟩, -⟩, rfl⟩ := (result_compile_eq_error_iff ..).mp h
    obtain ⟨literal, type, reason, rfl⟩ := quoted_reason_of_faulty hfaulty hquoted
    exact ⟨i, literal, type, reason, rfl⟩
  · intro catalog d error h
    refine ⟨fun target htarget => shows_of_known htarget h, ?_⟩
    intro hnone
    cases h.symm.trans (result_compileDefinition_of_unknown hnone)
    exact ⟨rfl, shows_of_unknown hnone⟩

/-- a place that cannot be read -/
def nowhere : List (Condition World.Entity) :=
  [.comparison ⟨⟨.named "Gadget", [], Property.gadgetLink ⟨19, by decide⟩⟩, .equal, .text "oops",
    false⟩]

/-- a place that is quoted at the end, a target that is not in the catalog, and a property that the target
does not have -/
theorem rejections_shown_nowhere :
    (∃ error, (ofPoints.compile (.named "Gadget") nowhere).result = .error error ∧
      (∃ i literal type reason, error = .inCondition i (.conversion literal type reason)) ∧
      ∃ text, text ≠ error.message ∧
        ∃ event ∈ (ofPoints.compile (.named "Gadget") nowhere).events,
          event.render = Event.rejectionLine "Gadget" text) ∧
    (∃ event ∈ (ofPoints.compileDefinition World.catalog (placesAndHueOf "boat" "Hue")).events,
      event.render = Event.rejectionLine "boat" "unknown candidate type 'boat'") ∧
    ∃ event ∈
        (ofPoints.compileDefinition World.catalog (placesAndHueOf "container" "Colour")).events,
      event.render = Event.rejectionLine "Container"
        "condition 1: type 'Container' has no property named 'Colour'" := by
  obtain ⟨hlists, hdefinitions⟩ := rejections_shown ofPoints
  refine ⟨?_, ?_, ?_⟩
  · have herror : (ofPoints.compile (.named "Gadget") nowhere).result = .error (.inCondition 0
        (.conversion "oops" "Point3D" "expected (x, y, z), got \"oops\"")) := by rfl
    have hquoted : FilterError.EndsQuoted (.inCondition 0
        (.conversion "oops" "Point3D" "expected (x, y, z), got \"oops\"")) := by
      show _ = some '"'
      decide
    obtain ⟨hshows, hreason⟩ := hlists _ _ _ herror
    obtain ⟨event, hmem, text, hline, htext⟩ := hshows.exists_mem
    refine ⟨_, herror, hreason hquoted, text, ?_, event, hmem, hline⟩
    intro hsame
    exact htext.mp hsame hquoted
  · have hnone : World.catalog.get? "boat" = none := by decide +kernel
    have herror := result_compileDefinition_of_unknown (c := ofPoints)
      (d := placesAndHueOf "boat" "Hue") hnone
    obtain ⟨-, hshows⟩ := (hdefinitions World.catalog _ _ herror).2 hnone
    exact hshows.complete id
  · have htarget : World.catalog.get? "container" =
        some (World.describe (.named "Container")) := rfl
    have hbind : (ConditionDefinition.bindFrom (.named "Container") 0
        (placesAndHueOf "container" "Colour").conditions :
        Except FilterError (List (Condition World.Entity))) = .error
          (.inCondition 1 (.unknownProperty "Container" "Colour")) := by decide +kernel
    have herror := result_compileDefinition_of_unbound (c := ofPoints)
      (d := placesAndHueOf "container" "Colour") htarget hbind
    have hshows := (hdefinitions World.catalog _ _ herror).1 _ htarget
    exact hshows.complete id

/-- an operator that nothing is called -/
def almostHue : Definition := ⟨"Container", false, [.comparison "Hue" "almost" (.text "5") false]⟩

/-- the name of the operator loses the quotation mark behind it -/
theorem rejection_lost_quote :
    ∃ error, (ofPoints.compileDefinition World.catalog almostHue).result = .error error ∧
      ∀ event ∈ (ofPoints.compileDefinition World.catalog almostHue).events,
        ¬ error.message.toList <:+: event.render.toList := by
  have hbind : (ConditionDefinition.bindFrom (.named "Container") 0 almostHue.conditions :
      Except FilterError (List (Condition World.Entity))) =
        .error (.inCondition 0 (.unknownOperator "almost")) := by decide +kernel
  have htarget : World.catalog.resolve almostHue.target =
      .ok (World.describe (.named "Container")) := rfl
  rw [compileDefinition_of_unbound htarget hbind]
  refine ⟨_, rfl, ?_⟩
  intro event hmem
  rw [List.mem_singleton.mp hmem]
  decide +kernel

end Compiler
end ObjectFilter
