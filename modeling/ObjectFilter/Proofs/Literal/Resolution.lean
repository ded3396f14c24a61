import ObjectFilter.Literal
import ObjectFilter.Proofs.Outcome

/-!
# How a literal is resolved

What each stage of the resolver gives, one law per stage: the parser of the type, the check of what the
parser gave, and the choice between them for a text.

* `parse_eq_ok_iff`          a parsed literal comes from a parser that accepts the text;
* `acceptParsed_scalar_eq_ok_iff`, `acceptParsed_compound_eq_ok_iff`   which results are kept;
* `resolveLogged_outcome`    an error of the literal, a constant, or a compound value with its event;
* `get?_defaults_of_ofScalar?`   the default registry reads every scalar by the parser of its kind.
-/

namespace ObjectFilter

variable {α : Type} [Schema α]

/-! ## scalar types and compound types -/

def TypeKey.isScalar : TypeKey → Bool
  | .bool | .char | .signed _ | .unsigned _ | .single | .double => true
  | .decimal | .named _ => false

/-- the parser of a scalar type by its key, none for the other keys -/
def Parser.ofScalar? {α : Type} : TypeKey → Option (Parser α)
  | .bool => some .bool
  | .char => some .char
  | .signed w => some (.signed w)
  | .unsigned w => some (.unsigned w)
  | .single => some (.float .single)
  | .double => some (.float .double)
  | .decimal | .named _ => none

theorem Parser.ofScalar?_isSome {α : Type} (key : TypeKey) :
    (Parser.ofScalar? key : Option (Parser α)).isSome = key.isScalar := by
  cases key <;> rfl

def Value.isCompound {α : Type} : Value α → Bool
  | .custom _ | .object _ => true
  | _ => false

def ValueType.isCompound : ValueType → Bool
  | .custom _ | .object _ => true
  | _ => false

/-! ## notations -/

/-- the characters are in hexadecimal notation, with these digits behind the mark -/
def MarksHex (cs digits : List Char) : Prop := ∃ x, (x = 'x' ∨ x = 'X') ∧ cs = '0' :: x :: digits

theorem MarksHex.unique {cs ds es : List Char} (hd : MarksHex cs ds) (he : MarksHex cs es) :
    ds = es := by
  obtain ⟨x, -, rfl⟩ := hd
  obtain ⟨y, -, h⟩ := he
  cases h
  rfl

theorem splitStyle_of_marksHex {text : String} {digits : List Char}
    (h : MarksHex text.toList digits) : splitStyle text = (String.ofList digits, .hex) := by
  obtain ⟨x, hx, htext⟩ := h
  unfold splitStyle
  rw [htext]
  rcases hx with rfl | rfl <;> rfl

theorem splitStyle_of_not_marksHex {text : String}
    (h : ∀ digits, ¬ MarksHex text.toList digits) : splitStyle text = (text, .integer) := by
  unfold splitStyle
  split
  · next x digits htext =>
    rw [if_neg]
    intro hx
    exact h digits ⟨x, by simpa using hx, htext⟩
  · rfl

/-! ## what a parser gave -/

theorem acceptParsed_scalar (t : ValueType) (text : String) (v : Value α) :
    acceptParsed t text (.scalar v) =
      if v.isCompound || t.isCompound then .fail (.mismatch text (t.name α))
      else pure (.const v) := by
  cases v <;> cases t <;> rfl

theorem acceptParsed_compound (t : ValueType) (text : String) (a : α) :
    acceptParsed t text (.compound a) =
      if t.key? = some (Schema.typeOf a) then
        ⟨.ok (.slot ⟨a, t.name α, text⟩), [.slotCreated (t.name α) text]⟩
      else .fail (.mismatch text (t.name α)) := rfl

theorem acceptParsed_scalar_eq_ok_iff (t : ValueType) (text : String) (v : Value α)
    (l : Literal α) :
    (acceptParsed t text (.scalar v)).result = .ok l ↔
      v.isCompound = false ∧ t.isCompound = false ∧ l = .const v := by
  rw [acceptParsed_scalar]
  cases v.isCompound <;> cases t.isCompound <;> simp [Logged.fail, pure, eq_comm]

theorem acceptParsed_compound_eq_ok_iff (t : ValueType) (text : String) (a : α)
    (l : Literal α) :
    (acceptParsed t text (.compound a)).result = .ok l ↔
      t.key? = some (Schema.typeOf a) ∧ l = .slot ⟨a, t.name α, text⟩ := by
  rw [acceptParsed_compound]
  by_cases h : t.key? = some (Schema.typeOf a)
  · simp [h, eq_comm]
  · simp [h, Logged.fail]

namespace Registry

theorem parse_eq_ok_iff (r : Registry α) (t : ValueType) (text : String) (l : Literal α) :
    r.parse t text = .ok l ↔
      ∃ parser parsed, r.parser? t = some parser ∧ runParser parser text = .ok parsed ∧
        (acceptParsed t text parsed).result = .ok l := by
  rw [parse_eq]
  cases hp : r.parser? t with
  | none => simp
  | some parser => cases hr : runParser parser text <;> simp [hr]

end Registry

/-! ## how a literal can be resolved -/

/-- an error of a literal and its type -/
def FilterError.isOfLiteral : FilterError → Bool
  | conversion .. | noParser .. | unknownMember .. | mismatch .. => true
  | _ => false

/-- a literal is refused for an error of its own, becomes a constant, or becomes a compound value and
leaves the event of that -/
inductive Literal.Outcome : Logged (Literal α) → Prop
  | fail {e : FilterError} (h : e.isOfLiteral = true) : Outcome (.fail e)
  | const (v : Value α) : Outcome (pure (.const v))
  | slot (s : Slot α) : Outcome ⟨.ok (.slot s), [s.event]⟩

theorem acceptParsed_outcome (t : ValueType) (text : String) (parsed : Parsed α) :
    Literal.Outcome (acceptParsed t text parsed) := by
  cases parsed with
  | scalar v =>
    rw [acceptParsed_scalar]
    split
    · exact .fail rfl
    · exact .const v
  | compound a =>
    rw [acceptParsed_compound]
    split
    · exact .slot ⟨a, t.name α, text⟩
    · exact .fail rfl

namespace Registry

theorem parseLogged_outcome (r : Registry α) (t : ValueType) (text : String) :
    Literal.Outcome (r.parseLogged t text) := by
  unfold parseLogged
  split
  · exact .fail rfl
  · split
    · exact acceptParsed_outcome t text _
    · exact .fail rfl

theorem resolveTextLogged_outcome (r : Registry α) (t : ValueType) (text : String) :
    Literal.Outcome (r.resolveTextLogged t text) := by
  unfold resolveTextLogged
  split
  · exact .const .null
  · split
    · exact .const _
    · split
      · exact .const _
      · exact .fail rfl
    · exact r.parseLogged_outcome _ _

theorem resolveLogged_outcome (r : Registry α) (t : ValueType) (raw : RawLiteral) :
    Literal.Outcome (r.resolveLogged t raw) := by
  cases htext : raw.isText with
  | true =>
    cases raw with
    | text text => exact r.resolveTextLogged_outcome t text
    | _ => cases htext
  | false =>
    rw [r.resolveLogged_of_not_isText t raw htext]
    cases coerce? t raw with
    | some v => exact .const v
    | none => exact .fail rfl

theorem isOfLiteral_of_resolve_error {r : Registry α} {t : ValueType} {raw : RawLiteral}
    {e : FilterError} (h : r.resolve t raw = .error e) : e.isOfLiteral = true := by
  have houtcome := r.resolveLogged_outcome t raw
  unfold resolve at h
  generalize r.resolveLogged t raw = x at h houtcome
  cases houtcome with
  | fail hliteral =>
    cases h
    exact hliteral
  | _ => cases h

end Registry

/-! ## the default registry -/

namespace Registry

section
variable {α : Type}

/-- later entries for other keys do not change what is found -/
theorem get?_foldl_insert (entries : List (TypeKey × Parser α)) (key : TypeKey)
    (h : key ∉ entries.map (·.1)) :
    ∀ r : Registry α, (entries.foldl (fun r e => r.insert e.1 e.2) r).get? key = r.get? key := by
  induction entries with
  | nil => intro r; rfl
  | cons e rest ih =>
    intro r
    rw [List.map_cons, List.mem_cons, not_or] at h
    rw [List.foldl_cons, ih h.2, get?_insert_of_ne r e.2 h.1]

theorem get?_foldl_insert_of_mem (entries : List (TypeKey × Parser α))
    (hkeys : (entries.map (·.1)).Nodup) {key : TypeKey} {parser : Parser α}
    (h : (key, parser) ∈ entries) :
    ∀ r : Registry α,
      (entries.foldl (fun r e => r.insert e.1 e.2) r).get? key = some parser := by
  induction entries with
  | nil => cases h
  | cons e rest ih =>
    intro r
    rw [List.map_cons, List.nodup_cons] at hkeys
    rw [List.foldl_cons]
    rcases List.mem_cons.mp h with rfl | hrest
    · rw [get?_foldl_insert rest key hkeys.1, get?_insert_self]
    · exact ih hkeys.2 hrest _

end

theorem nodup_keys_defaults :
    ((scalarParsers ++ [(.decimal, .decimal)] : List (TypeKey × Parser α)).map (·.1)).Nodup := by
  simp [scalarParsers]

theorem get?_defaults_of_ofScalar? {key : TypeKey} {parser : Parser α}
    (h : Parser.ofScalar? key = some parser) :
    (defaults : Registry α).get? key = some parser := by
  refine get?_foldl_insert_of_mem _ nodup_keys_defaults ?_ empty
  cases key with
  | signed w => cases h; cases w <;> simp [scalarParsers]
  | unsigned w => cases h; cases w <;> simp [scalarParsers]
  | decimal => cases h
  | named id => cases h
  | _ => cases h; simp [scalarParsers]

end Registry
end ObjectFilter
