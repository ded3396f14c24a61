import ObjectFilter.Proofs.Literal.Integer
import ObjectFilter.Proofs.Number.Rounding
import ObjectFilter.World.Parsers

/-!
# Resolved literals have the declared type

What the literals of a declared type are, and that the resolver gives no others, whatever has been
registered for types that are no scalars.  The invariant is about keys: under the key of a scalar type
a registry has the parser of that type, or none.

* `hasType_of_resolve`   a literal that is resolved has the declared type.
-/

namespace ObjectFilter

open Number (Width Binary64)

/-! ## what the scalar parsers give -/

section
variable {α : Type}

theorem runParser_bool {text : String} {parsed : Parsed α}
    (h : Registry.runParser .bool text = .ok parsed) : ∃ b, parsed = .scalar (.bool b) := by
  unfold Registry.runParser Parser.bool at h
  dsimp only at h
  split at h
  · cases h
    exact ⟨true, rfl⟩
  · split at h
    · cases h
      exact ⟨false, rfl⟩
    · cases h

theorem runParser_char {text : String} {parsed : Parsed α}
    (h : Registry.runParser .char text = .ok parsed) : ∃ c, parsed = .scalar (.char c) := by
  unfold Registry.runParser Parser.char at h
  dsimp only at h
  split at h
  · cases h
    exact ⟨_, rfl⟩
  · cases h

theorem runParser_float {f : Binary64.Format} {text : String} {parsed : Parsed α}
    (h : Registry.runParser (.float f) text = .ok parsed) :
    ∃ x, Binary64.read f text.toList = .ok x ∧ parsed = .scalar (.float x) := by
  unfold Registry.runParser Parser.float at h
  dsimp only at h
  rw [mapError_eq_ok_iff, map_eq_ok_iff] at h
  obtain ⟨x, hx, rfl⟩ := h
  exact ⟨x, hx, rfl⟩

end

/-! ## registries that keep the scalar parsers -/

section
variable {α : Type} [Schema α]

/-- made from the empty or the default registry by registrations for types that are no scalars -/
inductive Registry.Built : Registry α → Prop
  | empty : Built .empty
  | defaults : Built .defaults
  | register {r : Registry α} (h : Built r) {key : TypeKey} (hkey : key.isScalar = false)
      (parse : String → Except String (Instance α key)) : Built (r.register key parse)
  | registerStyled {r : Registry α} (h : Built r) {key : TypeKey} (hkey : key.isScalar = false)
      (parse : String → NumberStyle → Except String (Instance α key)) :
      Built (r.registerStyled key parse)

theorem Registry.Built.get?_of_isScalar {r : Registry α} (h : r.Built) {key : TypeKey}
    (hkey : key.isScalar = true) : r.get? key = none ∨ r.get? key = Parser.ofScalar? key := by
  have hne : ∀ {other : TypeKey}, other.isScalar = false → key ≠ other := by
    rintro other hother rfl
    rw [hkey] at hother
    cases hother
  induction h with
  | empty => exact .inl rfl
  | defaults =>
    have hsome : (Parser.ofScalar? key : Option (Parser α)).isSome = true :=
      (Parser.ofScalar?_isSome key).trans hkey
    obtain ⟨parser, hparser⟩ := Option.isSome_iff_exists.mp hsome
    right
    rw [Registry.get?_defaults_of_ofScalar? hparser, hparser]
  | register h hother parse ih =>
    unfold Registry.register
    rw [Registry.get?_insert_of_ne _ _ (hne hother)]
    exact ih
  | registerStyled h hother parse ih =>
    unfold Registry.registerStyled
    rw [Registry.get?_insert_of_ne _ _ (hne hother)]
    exact ih

end

/-! ## literals of a type -/

section
variable {α : Type} [Schema α]

/-- the literal is one of the declared type -/
def Literal.HasType (l : Literal α) : ValueType → Prop
  | .bool => ∃ b, l = .const (.bool b)
  | .char => ∃ c, l = .const (.char c)
  | .signed w => ∃ n : Int64, l = .const (.int n) ∧ w.least ≤ n.toInt ∧ n.toInt ≤ w.greatest
  | .unsigned w => ∃ n : UInt64, l = .const (.uint n) ∧ n.toNat ≤ w.greatestUnsigned
  | .single => ∃ x : Binary64, l = .const (.float x) ∧ x.IsSingle
  | .double => ∃ x, l = .const (.float x)
  | .text => l = .const .null ∨ ∃ s, l = .const (.text s)
  | .enum e => ∃ d, l = .const (.enum ⟨e, d⟩) ∧ ∃ m ∈ e.members, m.2 = d
  | .custom type => ∃ s : Slot α, l = .slot s ∧ Schema.typeOf s.value = type.key
  | .object key => l = .const .null ∨ ∃ s : Slot α, l = .slot s ∧ Schema.typeOf s.value = key

theorem IntegerType.hasType_value (t : IntegerType) {m : Int}
    (hrange : t.least ≤ m ∧ m ≤ t.greatest) :
    (Literal.const (t.value m) : Literal α).HasType t.type := by
  have hholds : t.Holds (t.value m : Value α) m := t.holds_value hrange.1 hrange.2
  cases t with
  | signed w =>
    have hm : (Int64.ofInt m).toInt = m := hholds
    refine ⟨Int64.ofInt m, rfl, ?_⟩
    rw [hm]
    exact hrange
  | unsigned w =>
    have hm : ((UInt64.ofNat m.toNat).toNat : Int) = m := hholds
    have hgreatest : m ≤ w.greatestUnsigned := hrange.2
    exact ⟨UInt64.ofNat m.toNat, rfl, by omega⟩

/-! ## typed literals -/

theorem hasType_of_coerceInt? {t : ValueType} {n : Int64} {v : Value α}
    (h : coerceInt? t n = some v) : (Literal.const v).HasType t := by
  cases t with
  | signed w =>
    obtain ⟨hrange, rfl⟩ := ((IntegerType.signed w).coerceInt?_eq_some_iff n v).mp h
    exact IntegerType.hasType_value _ hrange
  | unsigned w =>
    obtain ⟨hrange, rfl⟩ := ((IntegerType.unsigned w).coerceInt?_eq_some_iff n v).mp h
    exact IntegerType.hasType_value _ hrange
  | single =>
    cases h
    exact ⟨_, rfl, Binary64.isSingle_ofInt _⟩
  | double =>
    cases h
    exact ⟨_, rfl⟩
  | enum e =>
    rw [coerceInt?_enum, Option.ite_none_right_eq_some] at h
    obtain ⟨hnames, hv⟩ := h
    cases hv
    exact ⟨n, rfl, (e.names_iff n).mp hnames⟩
  | _ => cases h

theorem hasType_of_coerceUInt? {t : ValueType} {n : UInt64} {v : Value α}
    (h : coerceUInt? t n = some v) : (Literal.const v).HasType t := by
  cases t with
  | signed w =>
    obtain ⟨hrange, rfl⟩ := ((IntegerType.signed w).coerceUInt?_eq_some_iff n v).mp h
    exact IntegerType.hasType_value _ hrange
  | unsigned w =>
    obtain ⟨hrange, rfl⟩ := ((IntegerType.unsigned w).coerceUInt?_eq_some_iff n v).mp h
    exact IntegerType.hasType_value _ hrange
  | single =>
    cases h
    exact ⟨_, rfl, Binary64.isSingle_ofInt _⟩
  | double =>
    cases h
    exact ⟨_, rfl⟩
  | enum e =>
    rw [coerceUInt?_of_signed rfl, Option.ite_none_right_eq_some] at h
    exact hasType_of_coerceInt? h.2
  | _ => cases h

theorem hasType_of_coerce? {t : ValueType} {raw : RawLiteral} {v : Value α}
    (h : coerce? t raw = some v) : (Literal.const v).HasType t := by
  cases raw with
  | text s => cases t <;> cases h
  | null =>
    cases t with
    | text =>
      cases h
      exact .inl rfl
    | object key =>
      cases h
      exact .inl rfl
    | _ => cases h
  | bool b =>
    cases t with
    | bool =>
      cases h
      exact ⟨b, rfl⟩
    | _ => cases h
  | char c =>
    cases t with
    | char =>
      cases h
      exact ⟨c, rfl⟩
    | _ => cases h
  | int n =>
    refine hasType_of_coerceInt? (n := n) ?_
    cases t <;> exact h
  | uint n =>
    refine hasType_of_coerceUInt? (n := n) ?_
    cases t <;> exact h
  | float x =>
    cases t with
    | single =>
      cases h
      exact ⟨_, rfl, Binary64.isSingle_toSingle x⟩
    | double =>
      cases h
      exact ⟨x, rfl⟩
    | _ => cases h

/-! ## texts -/

theorem mem_of_memberOf? {e : Enumeration} {text : String} {d : Int64}
    (h : memberOf? e text = some d) : ∃ m ∈ e.members, m.2 = d := by
  unfold memberOf? at h
  cases hname : e.byName? text with
  | some d' =>
    rw [hname] at h
    cases h
    obtain ⟨m, hm, hd, -⟩ := Enumeration.mem_of_byName? hname
    exact ⟨m, hm, hd⟩
  | none =>
    rw [hname] at h
    dsimp only at h
    split at h
    · split at h
      · next hnames =>
        cases h
        exact (e.names_iff _).mp hnames
      · cases h
    · cases h

theorem IntegerType.hasType_of_runParser (t : IntegerType) {text : String} {parsed : Parsed α}
    (h : Registry.runParser t.parser (Text.trimmed text) = .ok parsed) :
    ∃ v, parsed = .scalar v ∧ (Literal.const v).HasType t.type := by
  obtain ⟨m, -, hrange, rfl⟩ := (t.runParser_eq_ok_iff text parsed).mp h
  exact ⟨_, rfl, t.hasType_value hrange⟩

theorem hasType_of_runParser {t : ValueType} {key : TypeKey} (hkey : t.key? = some key)
    (hprimitive : t.isPrimitive = true) {parser : Parser α}
    (hparser : Parser.ofScalar? key = some parser) {text : String} {parsed : Parsed α}
    (hrun : Registry.runParser parser (Text.trimmed text) = .ok parsed) :
    ∃ v, parsed = .scalar v ∧ (Literal.const v).HasType t := by
  cases t with
  | bool =>
    cases hkey
    cases hparser
    obtain ⟨b, rfl⟩ := runParser_bool hrun
    exact ⟨_, rfl, b, rfl⟩
  | char =>
    cases hkey
    cases hparser
    obtain ⟨c, rfl⟩ := runParser_char hrun
    exact ⟨_, rfl, c, rfl⟩
  | signed w =>
    cases hkey
    cases hparser
    exact (IntegerType.signed w).hasType_of_runParser hrun
  | unsigned w =>
    cases hkey
    cases hparser
    exact (IntegerType.unsigned w).hasType_of_runParser hrun
  | single =>
    cases hkey
    cases hparser
    obtain ⟨x, hx, rfl⟩ := runParser_float hrun
    exact ⟨_, rfl, x, rfl, Binary64.isSingle_read hx⟩
  | double =>
    cases hkey
    cases hparser
    obtain ⟨x, -, rfl⟩ := runParser_float hrun
    exact ⟨_, rfl, x, rfl⟩
  | _ => cases hprimitive

theorem isScalar_of_isPrimitive {t : ValueType} {key : TypeKey} (hkey : t.key? = some key)
    (hprimitive : t.isPrimitive = true) : key.isScalar = true := by
  cases t <;> cases hprimitive <;> cases hkey <;> rfl

/-- a compound value is kept for its own type only -/
theorem hasType_of_acceptParsed {t : ValueType} (hcompound : t.isCompound = true) {text : String}
    {parsed : Parsed α} {l : Literal α} (h : (acceptParsed t text parsed).result = .ok l) :
    l.HasType t := by
  cases parsed with
  | scalar v =>
    rw [acceptParsed_scalar_eq_ok_iff, hcompound] at h
    cases h.2.1
  | compound a =>
    obtain ⟨hkey, rfl⟩ := (acceptParsed_compound_eq_ok_iff ..).mp h
    cases t with
    | custom type => exact ⟨_, rfl, (Option.some_inj.mp hkey).symm⟩
    | object key => exact .inr ⟨_, rfl, (Option.some_inj.mp hkey).symm⟩
    | _ => cases hcompound

theorem hasType_of_parse {r : Registry α} (hr : r.Built) {t : ValueType} {text : String}
    {l : Literal α} (h : r.parse t (Text.trimmed text) = .ok l) : l.HasType t := by
  obtain ⟨parser, parsed, hparser, hrun, haccept⟩ := (Registry.parse_eq_ok_iff ..).mp h
  obtain ⟨key, hkey, hget⟩ := Option.bind_eq_some_iff.mp hparser
  by_cases hprimitive : t.isPrimitive = true
  · rcases hr.get?_of_isScalar (isScalar_of_isPrimitive hkey hprimitive) with hnone | hscalar
    · rw [hnone] at hget
      cases hget
    · rw [hscalar] at hget
      obtain ⟨v, rfl, hv⟩ := hasType_of_runParser hkey hprimitive hget hrun
      obtain ⟨-, -, rfl⟩ := (acceptParsed_scalar_eq_ok_iff ..).mp haccept
      exact hv
  · have hcompound : t.isCompound = true := by
      cases t with
      | text => cases hkey
      | enum e => cases hkey
      | custom type => rfl
      | object key => rfl
      | _ => exact absurd rfl hprimitive
    exact hasType_of_acceptParsed hcompound haccept

theorem hasType_of_resolveText {r : Registry α} (hr : r.Built) {t : ValueType} {text : String}
    {l : Literal α} (h : r.resolveText t text = .ok l) : l.HasType t := by
  unfold Registry.resolveText Registry.resolveTextLogged at h
  split at h
  · next hnull =>
    cases h
    rw [Bool.and_eq_true] at hnull
    cases t with
    | text => exact .inl rfl
    | object key => exact .inl rfl
    | _ => cases hnull.1
  · split at h
    · cases h
      exact .inr ⟨_, rfl⟩
    · split at h
      · next hmember =>
        cases h
        exact ⟨_, rfl, mem_of_memberOf? hmember⟩
      · cases h
    · exact hasType_of_parse hr h

/-! ## all literals -/

/-- a literal that is resolved has the declared type -/
theorem hasType_of_resolve {r : Registry α} (hr : r.Built) {t : ValueType} {raw : RawLiteral}
    {l : Literal α} (h : r.resolve t raw = .ok l) : l.HasType t := by
  cases htext : raw.isText with
  | true =>
    cases raw with
    | text text => exact hasType_of_resolveText hr h
    | _ => cases htext
  | false =>
    rw [Registry.resolve_of_not_isText r t raw htext] at h
    split at h
    · next hcoerce =>
      cases h
      exact hasType_of_coerce? hcoerce
    · cases h

end

/-- a serial number in hexadecimal notation, where points are registered too -/
theorem hasType_of_resolve_serial :
    (World.registerSerial World.registry).Built ∧
      (World.registerSerial World.registry).resolve (.custom World.serialType) (.text " 0x1F ")
        = .ok (.slot ⟨.serial 31, "Serial", "0x1F"⟩) ∧
      (Literal.slot ⟨.serial 31, "Serial", "0x1F"⟩ : Literal World.Entity).HasType
        (.custom World.serialType) := by
  have hbuilt : (World.registerSerial World.registry).Built :=
    .registerStyled (.register .defaults rfl _) rfl _
  have hresolve : (World.registerSerial World.registry).resolve (.custom World.serialType)
      (.text " 0x1F ") = .ok (.slot ⟨.serial 31, "Serial", "0x1F"⟩) := by
    rfl
  exact ⟨hbuilt, hresolve, hasType_of_resolve hbuilt hresolve⟩

end ObjectFilter
