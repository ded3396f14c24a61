import ObjectFilter.Proofs.Compiler.Faults
import ObjectFilter.Proofs.Condition.RegisteredParser

/-!
# What a registration changes

A parser is asked for one thing only, a text that is compared with a property of its type.  Registering
one therefore leaves every other literal as it was resolved before, and with it the conditions: a list
in which no such text occurs compiles to the predicate, or to the error, that it compiled to before.

* `Registry.resolveLogged_congr`  a literal depends on the parser of its type, and only if it is a text;
* `prepareLogged_congr`           a condition depends on the literal that it resolves;
* `apply_frame`                   what stays as it was under a registration.
-/

namespace ObjectFilter

variable {α : Type} [Schema α]

/-- a parser that the embedding program registers for a type, with notations or without -/
inductive Registration (α : Type) [Schema α] (key : TypeKey)
  | plain (parse : String → Except String (Instance α key))
  | styled (parse : String → NumberStyle → Except String (Instance α key))

namespace Registration

variable {key : TypeKey}

def apply (g : Registration α key) (r : Registry α) : Registry α :=
  match g with
  | plain parse => r.register key parse
  | styled parse => r.registerStyled key parse

/-- what reads the literals of the type from then on -/
def parser : Registration α key → Parser α
  | plain parse => .compound parse
  | styled parse => .styled fun text style => (parse text style).map fun v => .compound v.1

theorem apply_eq_insert (g : Registration α key) (r : Registry α) :
    g.apply r = r.insert key g.parser := by
  cases g <;> rfl

theorem get?_apply_self (g : Registration α key) (r : Registry α) :
    (g.apply r).get? key = some g.parser := by
  rw [apply_eq_insert, Registry.get?_insert_self]

theorem get?_apply_of_ne (g : Registration α key) (r : Registry α) {k : TypeKey} (h : k ≠ key) :
    (g.apply r).get? k = r.get? k := by
  rw [apply_eq_insert, Registry.get?_insert_of_ne r _ h]

end Registration

/-! ## literals -/

namespace Registry

variable {r r' : Registry α} {t : ValueType}

theorem parseLogged_congr (h : r'.parser? t = r.parser? t) (text : String) :
    r'.parseLogged t text = r.parseLogged t text := by
  unfold parseLogged
  rw [h]

theorem resolveTextLogged_congr (h : r'.parser? t = r.parser? t) (text : String) :
    r'.resolveTextLogged t text = r.resolveTextLogged t text := by
  have hparse := parseLogged_congr h (Text.trimmed text)
  unfold resolveTextLogged
  cases t with
  | text => rfl
  | enum e => rfl
  | _ =>
    dsimp only
    rw [hparse]

/-- typed literals are resolved without a parser -/
theorem resolveLogged_congr {raw : RawLiteral}
    (h : raw.isText = true → r'.parser? t = r.parser? t) :
    r'.resolveLogged t raw = r.resolveLogged t raw := by
  cases htext : raw.isText with
  | true =>
    cases raw with
    | text text => exact resolveTextLogged_congr (h htext) text
    | _ => cases htext
  | false =>
    rw [resolveLogged_of_not_isText r' t raw htext, resolveLogged_of_not_isText r t raw htext]

end Registry

namespace Registration

variable {key : TypeKey}

theorem parser?_apply_of_ne (g : Registration α key) (r : Registry α) {t : ValueType}
    (h : t.key? ≠ some key) : (g.apply r).parser? t = r.parser? t := by
  unfold Registry.parser?
  cases hkey : t.key? with
  | none => rfl
  | some k => exact g.get?_apply_of_ne r fun hk => h (by rw [hkey, hk])

theorem resolveLogged_apply (g : Registration α key) (r : Registry α) {t : ValueType}
    {raw : RawLiteral} (h : t.key? ≠ some key ∨ raw.isText = false) :
    (g.apply r).resolveLogged t raw = r.resolveLogged t raw := by
  refine Registry.resolveLogged_congr fun htext => ?_
  rcases h with hkey | htyped
  · exact g.parser?_apply_of_ne r hkey
  · rw [htext] at htyped
    cases htyped

end Registration

/-! ## conditions -/

/-- the condition compares a text with a property whose literals go by the key; a search in a text
needs a property of type text, which goes by none -/
def Condition.ReadsText (key : TypeKey) : Condition α → Prop
  | .comparison c => c.property.type.key? = some key ∧ c.value.isText = true
  | .type _ | .string _ => False

/-- only a condition on text resolves the literal of a search -/
theorem StringCondition.prepareLogged_congr (c : StringCondition α) {r r' : Registry α}
    (h : c.property.type = .text → r'.resolveLogged .text c.value = r.resolveLogged .text c.value) :
    c.prepareLogged r' = c.prepareLogged r := by
  by_cases htype : c.property.type = .text
  · rw [prepareLogged_of_text htype, prepareLogged_of_text htype, h htype]
  · rw [prepareLogged_of_ne_text htype, prepareLogged_of_ne_text htype]

theorem ComparisonCondition.prepareLogged_congr (c : ComparisonCondition α) {r r' : Registry α}
    (h : r'.resolveLogged c.property.type c.value = r.resolveLogged c.property.type c.value) :
    c.prepareLogged r' = c.prepareLogged r := by
  by_cases hfits : c.Fits
  · rw [prepareLogged_of_fits hfits, prepareLogged_of_fits hfits, h]
  · rw [prepareLogged_of_not_fits hfits, prepareLogged_of_not_fits hfits]

namespace Registration

variable {key : TypeKey}

theorem prepareLogged_apply (g : Registration α key) (r : Registry α) {condition : Condition α}
    (h : ¬ condition.ReadsText key) :
    condition.prepareLogged (g.apply r) = condition.prepareLogged r := by
  cases condition with
  | type c => rfl
  | string c => exact c.prepareLogged_congr fun _ => g.resolveLogged_apply r (.inl nofun)
  | comparison c =>
    refine c.prepareLogged_congr (g.resolveLogged_apply r ?_)
    rcases Classical.not_and_iff_not_or_not.mp h with hkey | htyped
    · exact .inl hkey
    · rw [Bool.not_eq_true] at htyped
      exact .inr htyped

theorem compile_apply (g : Registration α key) (r : Registry α) (typeGuard : Bool)
    (target : TypeKey) {conditions : List (Condition α)}
    (h : ∀ condition ∈ conditions, ¬ condition.ReadsText key) :
    (⟨g.apply r, typeGuard⟩ : Compiler α).compile target conditions =
      (⟨r, typeGuard⟩ : Compiler α).compile target conditions := by
  have hone : ∀ condition ∈ conditions,
      (⟨g.apply r, typeGuard⟩ : Compiler α).prepareOne target condition =
        (⟨r, typeGuard⟩ : Compiler α).prepareOne target condition := by
    intro condition hmem
    unfold Compiler.prepareOne
    rw [g.prepareLogged_apply r (h condition hmem)]
  unfold Compiler.compile Compiler.build
  rw [Compiler.prepareFrom_congr (List.forall₂_same.mpr hone)]

/-- the parser of the type is in place; other types, typed literals, and lists in which no text is
compared with a property of the type are as they were -/
theorem apply_frame (g : Registration α key) (r : Registry α) :
    ((g.apply r).get? key = some g.parser ∧ ∀ k, k ≠ key → (g.apply r).get? k = r.get? k) ∧
    (∀ (t : ValueType) (raw : RawLiteral), t.key? ≠ some key ∨ raw.isText = false →
      (g.apply r).resolve t raw = r.resolve t raw) ∧
    ∀ (typeGuard : Bool) (target : TypeKey) (conditions : List (Condition α)),
      (∀ condition ∈ conditions, ¬ condition.ReadsText key) →
      (⟨g.apply r, typeGuard⟩ : Compiler α).compile target conditions =
        (⟨r, typeGuard⟩ : Compiler α).compile target conditions :=
  ⟨⟨g.get?_apply_self r, fun _ => g.get?_apply_of_ne r⟩,
    fun _ _ h => congrArg Logged.result (g.resolveLogged_apply r h),
    fun typeGuard target _ => g.compile_apply r typeGuard target⟩

/-- a typed number, and the text of a point -/
def hueAndLocation : List (Condition World.Entity) :=
  [.comparison ⟨hueOfContainer, .equal, .int 5, false⟩,
   .comparison (.equals locationOfContainer "(1, 2, 3)")]

/-- a parser for 32 bits is asked for neither of them -/
theorem apply_frame_registerInt32 :
    (World.registerInt32 World.registry).resolve (.signed .w32) (.int 5) =
      World.registry.resolve (.signed .w32) (.int 5) ∧
    (⟨World.registerInt32 World.registry, true⟩ : Compiler World.Entity).compile
        (.named "Container") hueAndLocation =
      (⟨World.registry, true⟩ : Compiler World.Entity).compile (.named "Container")
        hueAndLocation := by
  have hframe := (Registration.plain fun text =>
    ((Number.readSigned .w32 text.toList).map fun n =>
      (⟨.int32 (Int32.ofInt n), rfl⟩ : Instance World.Entity (.signed .w32))).mapError
        Number.NumeralError.message).apply_frame World.registry
  refine ⟨hframe.2.1 _ _ (.inr rfl), hframe.2.2 _ _ _ ?_⟩
  intro condition hmem
  rcases List.mem_pair.mp hmem with rfl | rfl
  · rintro ⟨-, htext⟩
    cases htext
  · rintro ⟨hkey, -⟩
    cases hkey

end Registration
end ObjectFilter
