import ObjectFilter.Logged
import ObjectFilter.RawLiteral
import ObjectFilter.Registry

/-!
# Resolved literals

A raw literal is turned into a literal of the declared type once, before anything is evaluated.  A typed
literal has to fit the type.  For text these rules hold, in this order: `null` is null where the type
has a null; text is taken as it is, except that `@"null"` stands for the word; a member of an
enumeration goes by its name or by its discriminant; anything else is read by the parser of the
type, a parser of numbers taking `0x` in front as hexadecimal notation.  A text that becomes a compound
value leaves the event of that behind.
-/

namespace ObjectFilter

open Number (Binary64 Width)

/-- a compound value that was read from a literal -/
structure Slot (α : Type) where
  value : α
  /-- the name of the type it was read for -/
  type : String
  /-- the text it was read from -/
  source : String
deriving DecidableEq, Repr

def Slot.event {α : Type} (s : Slot α) : Event := .slotCreated s.type s.source

inductive Literal (α : Type)
  | const (value : Value α)
  | slot (slot : Slot α)
deriving DecidableEq, Repr

namespace Literal

variable {α : Type}

def value : Literal α → Value α
  | const v => v
  | slot s => .custom s.value

def isNull : Literal α → Bool
  | const .null => true
  | _ => false

def slot? : Literal α → Option (Slot α)
  | slot s => some s
  | const _ => none

def isSlot (l : Literal α) : Bool := l.slot?.isSome

end Literal

/-! ## typed literals -/

section
variable {α : Type}

/-- the value of a type for a signed integer -/
def coerceInt? (t : ValueType) (n : Int64) : Option (Value α) :=
  match t.signedRange? with
  | some (least, greatest) =>
    if least ≤ n.toInt ∧ n.toInt ≤ greatest then some (.int n) else none
  | none =>
    match t.unsignedMax? with
    | some greatest =>
      if 0 ≤ n.toInt ∧ n.toInt.toNat ≤ greatest then some (.uint (UInt64.ofNat n.toInt.toNat))
      else none
    | none =>
      match t with
      | .single => some (.float (Binary64.ofInt .single n.toInt))
      | .double => some (.float (Binary64.ofInt .double n.toInt))
      | .enum e => if e.names n then some (.enum ⟨e, n⟩) else none
      | _ => none

/-- the value of a type for an unsigned integer -/
def coerceUInt? (t : ValueType) (n : UInt64) : Option (Value α) :=
  if (t.signedRange?.isSome || t.isEnumeration) && (n.toNat : Int) ≤ Width.w64.greatest then
    coerceInt? t (Int64.ofNat n.toNat)
  else
    match t.unsignedMax? with
    | some greatest => if n.toNat ≤ greatest then some (.uint n) else none
    | none =>
      match t with
      | .single => some (.float (Binary64.ofInt .single n.toNat))
      | .double => some (.float (Binary64.ofInt .double n.toNat))
      | _ => none

def coerce? : ValueType → RawLiteral → Option (Value α)
  | t, .null => if t.isReference then some .null else none
  | .bool, .bool b => some (.bool b)
  | .char, .char c => some (.char c)
  | t, .int n => coerceInt? t n
  | t, .uint n => coerceUInt? t n
  | .single, .float x => some (.float x.toSingle)
  | .double, .float x => some (.float x)
  | _, _ => none

theorem coerceInt?_signed (w : Width) (n : Int64) :
    (coerceInt? (.signed w) n : Option (Value α)) =
      if w.least ≤ n.toInt ∧ n.toInt ≤ w.greatest then some (.int n) else none := rfl

theorem coerceInt?_unsigned (w : Width) (n : Int64) :
    (coerceInt? (.unsigned w) n : Option (Value α)) =
      if 0 ≤ n.toInt ∧ n.toInt.toNat ≤ w.greatestUnsigned then
        some (.uint (UInt64.ofNat n.toInt.toNat))
      else none := rfl

theorem coerceInt?_enum (e : Enumeration) (n : Int64) :
    (coerceInt? (.enum e) n : Option (Value α)) =
      if e.names n then some (.enum ⟨e, n⟩) else none := rfl

theorem coerceUInt?_of_signed {t : ValueType}
    (h : (t.signedRange?.isSome || t.isEnumeration) = true) (n : UInt64) :
    (coerceUInt? t n : Option (Value α)) =
      if (n.toNat : Int) ≤ Width.w64.greatest then coerceInt? t (Int64.ofNat n.toNat)
      else none := by
  unfold coerceUInt?
  rw [h]
  cases t with
  | signed w => simp [ValueType.unsignedMax?]
  | enum e => simp [ValueType.unsignedMax?]
  | _ => cases h

theorem coerceUInt?_unsigned (w : Width) (n : UInt64) :
    (coerceUInt? (.unsigned w) n : Option (Value α)) =
      if n.toNat ≤ w.greatestUnsigned then some (.uint n) else none := rfl

end

/-! ## text literals -/

def nullWord : String := "null"

/-- what stands for the text that spells null -/
def quotedNullWord : String := "@\"null\""

/-- a text without `0x` in front, and the notation of what is left -/
def splitStyle (text : String) : String × NumberStyle :=
  match text.toList with
  | '0' :: x :: digits =>
    if x = 'x' || x = 'X' then (String.ofList digits, .hex) else (text, .integer)
  | _ => (text, .integer)

/-- the discriminant that a text names, by the name of a member or by its numeral -/
def memberOf? (e : Enumeration) (text : String) : Option Int64 :=
  match e.byName? text with
  | some d => some d
  | none =>
    match Number.readSigned .w64 text.toList with
    | .ok n => if e.names (Int64.ofInt n) then some (Int64.ofInt n) else none
    | .error _ => none

variable {α : Type} [Schema α]

/-- the literal of a type for what its parser gave -/
def acceptParsed (t : ValueType) (text : String) : Parsed α → Logged (Literal α)
  | .scalar value =>
    match value, t with
    | .custom _, _ | .object _, _ | _, .custom _ | _, .object _ =>
      .fail (.mismatch text (t.name α))
    | _, _ => return .const value
  | .compound value => do
    if t.key? = some (Schema.typeOf value) then
      let slot : Slot α := ⟨value, t.name α, text⟩
      .emit slot.event
      return .slot slot
    else .fail (.mismatch text (t.name α))

namespace Registry

def parser? (r : Registry α) (t : ValueType) : Option (Parser α) := t.key?.bind r.get?

/-- what a parser gives for a trimmed text, in the notation that the text shows -/
def runParser (parser : Parser α) (text : String) : Except String (Parsed α) :=
  match parser with
  | .styled parse => parse (splitStyle text).1 (splitStyle text).2
  | .plain parse => parse text

def parseLogged (r : Registry α) (t : ValueType) (text : String) : Logged (Literal α) :=
  match r.parser? t with
  | none => .fail (.noParser text (t.name α))
  | some parser =>
    match runParser parser text with
    | .ok parsed => acceptParsed t text parsed
    | .error reason => .fail (.conversion text (t.name α) reason)

def resolveTextLogged (r : Registry α) (t : ValueType) (text : String) : Logged (Literal α) :=
  if t.isReference && text = nullWord then return .const .null
  else
    match t with
    | .text => return .const (.text (if text = quotedNullWord then nullWord else text))
    | .enum e =>
      match memberOf? e (Text.trimmed text) with
      | some d => return .const (.enum ⟨e, d⟩)
      | none => .fail (.unknownMember (Text.trimmed text) e.name)
    | t => r.parseLogged t (Text.trimmed text)

def resolveLogged (r : Registry α) (t : ValueType) : RawLiteral → Logged (Literal α)
  | .text text => r.resolveTextLogged t text
  | typed =>
    match coerce? t typed with
    | some value => return .const value
    | none => .fail (.mismatch typed.display (t.name α))

/-! ## without the events -/

def parse (r : Registry α) (t : ValueType) (text : String) : Except FilterError (Literal α) :=
  (r.parseLogged t text).result

def resolveText (r : Registry α) (t : ValueType) (text : String) :
    Except FilterError (Literal α) :=
  (r.resolveTextLogged t text).result

def resolve (r : Registry α) (t : ValueType) (raw : RawLiteral) : Except FilterError (Literal α) :=
  (r.resolveLogged t raw).result

/-! ## small facts -/

theorem parse_eq (r : Registry α) (t : ValueType) (text : String) :
    r.parse t text =
      match r.parser? t with
      | none => .error (.noParser text (t.name α))
      | some parser =>
        match runParser parser text with
        | .ok parsed => (acceptParsed t text parsed).result
        | .error reason => .error (.conversion text (t.name α) reason) := by
  unfold parse parseLogged
  cases r.parser? t with
  | none => rfl
  | some parser =>
    dsimp only
    cases runParser parser text with
    | ok parsed => rfl
    | error reason => rfl

theorem resolveText_of_null {t : ValueType} (h : t.isReference = true) (r : Registry α) :
    r.resolveText t nullWord = .ok (.const .null) := by
  unfold resolveText resolveTextLogged
  rw [h]
  rfl

theorem resolveText_text {text : String} (h : text ≠ nullWord) (r : Registry α) :
    r.resolveText .text text =
      .ok (.const (.text (if text = quotedNullWord then nullWord else text))) := by
  have hcond : ¬ (ValueType.text.isReference && decide (text = nullWord)) = true := by
    simpa using fun _ => h
  unfold resolveText resolveTextLogged
  rw [if_neg hcond]
  rfl

theorem resolveText_enum (r : Registry α) (e : Enumeration) (text : String) :
    r.resolveText (.enum e) text =
      match memberOf? e (Text.trimmed text) with
      | some d => .ok (.const (.enum ⟨e, d⟩))
      | none => .error (.unknownMember (Text.trimmed text) e.name) := by
  have hcond : ¬ ((ValueType.enum e).isReference && decide (text = nullWord)) = true :=
    Bool.false_ne_true
  unfold resolveText resolveTextLogged
  rw [if_neg hcond]
  dsimp only
  cases memberOf? e (Text.trimmed text) <;> rfl

/-- types that are neither text nor an enumeration go by their parser -/
theorem resolveText_eq_parse (r : Registry α) (t : ValueType) (text : String)
    (hkey : t.key?.isSome) (hnull : t.isReference = true → text ≠ nullWord) :
    r.resolveText t text = r.parse t (Text.trimmed text) := by
  have hcond : ¬ (t.isReference && decide (text = nullWord)) = true := by simpa using hnull
  unfold resolveText resolveTextLogged
  rw [if_neg hcond]
  cases t with
  | text => cases hkey
  | enum e => cases hkey
  | _ => rfl

theorem resolve_text (r : Registry α) (t : ValueType) (text : String) :
    r.resolve t (.text text) = r.resolveText t text := rfl

theorem resolveLogged_of_not_isText (r : Registry α) (t : ValueType) (raw : RawLiteral)
    (h : raw.isText = false) :
    r.resolveLogged t raw =
      match coerce? t raw with
      | some value => pure (.const value)
      | none => .fail (.mismatch raw.display (t.name α)) := by
  cases raw with
  | text s => cases h
  | _ => rfl

theorem resolve_of_not_isText (r : Registry α) (t : ValueType) (raw : RawLiteral)
    (h : raw.isText = false) :
    r.resolve t raw =
      match coerce? t raw with
      | some value => .ok (.const value)
      | none => .error (.mismatch raw.display (t.name α)) := by
  unfold resolve
  rw [r.resolveLogged_of_not_isText t raw h]
  cases coerce? t raw <;> rfl

end Registry
end ObjectFilter
