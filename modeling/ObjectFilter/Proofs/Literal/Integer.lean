import ObjectFilter.Proofs.Literal.Resolution
import ObjectFilter.Proofs.Number.Numeral

/-!
# Integer literals

Which integer a literal denotes for an integer type, said apart from the parsers: decimal digits with an
optional sign, hexadecimal digits behind `0x` as a number or, for a signed type, as the bit
pattern of the type's width, and typed integers as they are.

* `resolve_integer_eq_ok_iff`   under the default registry a literal resolves exactly if it denotes
                                an integer of the type, and to the constant that holds it;
* `Denotes.unique`              a literal denotes at most one integer.
-/

namespace ObjectFilter

open Number (Width Spells SpellsUnsigned SpellsSigned)

theorem MarksHex.not_spellsUnsigned {cs digits : List Char} (h : MarksHex cs digits) (n : Nat) :
    ¬ SpellsUnsigned 10 cs n := by
  obtain ⟨x, hx, rfl⟩ := h
  exact Number.not_spellsUnsigned_zero_x hx digits n

theorem MarksHex.not_spellsSigned {cs digits : List Char} (h : MarksHex cs digits) (m : Int) :
    ¬ SpellsSigned cs m := by
  obtain ⟨x, hx, rfl⟩ := h
  exact Number.not_spellsSigned_zero_x hx digits m

inductive IntegerType
  | signed (width : Width)
  | unsigned (width : Width)
deriving DecidableEq, Repr

namespace IntegerType

def type : IntegerType → ValueType
  | signed w => .signed w
  | unsigned w => .unsigned w

def least : IntegerType → Int
  | signed w => w.least
  | unsigned _ => 0

def greatest : IntegerType → Int
  | signed w => w.greatest
  | unsigned w => w.greatestUnsigned

section
variable {α : Type}

def value : IntegerType → Int → Value α
  | signed _, m => .int (Int64.ofInt m)
  | unsigned _, m => .uint (UInt64.ofNat m.toNat)

/-- the value is of the kind that the type's properties have, and holds the integer -/
def Holds : IntegerType → Value α → Int → Prop
  | signed _, .int x, n => x.toInt = n
  | unsigned _, .uint x, n => (x.toNat : Int) = n
  | _, _, _ => False

end

/-- the text, without blanks around it, is hexadecimal digits behind `0x` or `0X` -/
def SpellsHex (text : String) (n : Nat) : Prop :=
  ∃ digits, MarksHex (Text.trim text.toList) digits ∧ SpellsUnsigned 16 digits n

/-- the literal stands for the integer where a literal of the type is expected -/
inductive Denotes : IntegerType → RawLiteral → Int → Prop
  | int (t : IntegerType) (n : Int64) : Denotes t (.int n) n.toInt
  | uint (t : IntegerType) (n : UInt64) : Denotes t (.uint n) n.toNat
  | signedDecimal (w : Width) {text : String} {m : Int}
      (h : SpellsSigned (Text.trim text.toList) m) : Denotes (signed w) (.text text) m
  | unsignedDecimal (w : Width) {text : String} {n : Nat}
      (h : SpellsUnsigned 10 (Text.trim text.toList) n) : Denotes (unsigned w) (.text text) n
  /-- the digits are the bit pattern in two's complement -/
  | signedHex (w : Width) {text : String} {n : Nat} (h : SpellsHex text n) (hn : n < w.size) :
      Denotes (signed w) (.text text) (BitVec.ofNat w.bits n).toInt
  | unsignedHex (w : Width) {text : String} {n : Nat} (h : SpellsHex text n) :
      Denotes (unsigned w) (.text text) n

/-! ## bounds -/

theorem neg_two_pow_le_least (t : IntegerType) : -2 ^ 63 ≤ t.least := by
  cases t with
  | signed w => cases w <;> decide
  | unsigned w =>
    show (-2 ^ 63 : Int) ≤ 0
    decide

theorem greatest_lt_two_pow (t : IntegerType) : t.greatest < 2 ^ 64 := by
  cases t with
  | signed w => cases w <;> decide
  | unsigned w => cases w <;> decide

theorem greatest_signed_lt_two_pow (w : Width) : (signed w).greatest < 2 ^ 63 := by
  cases w <;> decide

theorem holds_value {α : Type} (t : IntegerType) {m : Int} (hl : t.least ≤ m)
    (hg : m ≤ t.greatest) : t.Holds (t.value m : Value α) m := by
  cases t with
  | signed w =>
    have h1 := neg_two_pow_le_least (signed w)
    have h2 := greatest_signed_lt_two_pow w
    exact Int64.toInt_ofInt_of_le (by omega) (by omega)
  | unsigned w =>
    have h1 := greatest_lt_two_pow (unsigned w)
    have h0 : (unsigned w).least = 0 := rfl
    show ((UInt64.ofNat m.toNat).toNat : Int) = m
    rw [UInt64.toNat_ofNat_of_lt' (show m.toNat < 2 ^ 64 by omega)]
    omega

/-! ## typed integers -/

section
variable {α : Type}

theorem coerceInt?_eq_some_iff (t : IntegerType) (n : Int64) (v : Value α) :
    coerceInt? t.type n = some v ↔
      (t.least ≤ n.toInt ∧ n.toInt ≤ t.greatest) ∧ v = t.value n.toInt := by
  cases t with
  | signed w =>
    rw [type, coerceInt?_signed, Option.ite_none_right_eq_some, Option.some_inj, value,
      Int64.ofInt_toInt, eq_comm (a := v)]
    rfl
  | unsigned w =>
    rw [type, coerceInt?_unsigned, Option.ite_none_right_eq_some, Option.some_inj,
      eq_comm (a := v)]
    refine and_congr_left fun _ => ?_
    show 0 ≤ n.toInt ∧ n.toInt.toNat ≤ w.greatestUnsigned ↔
      0 ≤ n.toInt ∧ n.toInt ≤ w.greatestUnsigned
    omega

theorem coerceUInt?_eq_some_iff (t : IntegerType) (n : UInt64) (v : Value α) :
    coerceUInt? t.type n = some v ↔
      (t.least ≤ n.toNat ∧ n.toNat ≤ t.greatest) ∧ v = t.value n.toNat := by
  cases t with
  | signed w =>
    rw [type, coerceUInt?_of_signed rfl, Option.ite_none_right_eq_some]
    have h64 : w.greatest ≤ Width.w64.greatest := by cases w <;> decide
    have hmax : Width.w64.greatest = 2 ^ 63 - 1 := by decide
    refine ⟨?_, ?_⟩
    · intro h
      obtain ⟨hle, h⟩ := h
      have hn : (Int64.ofNat n.toNat).toInt = n.toNat := Int64.toInt_ofNat_of_lt (by omega)
      rw [show ValueType.signed w = (signed w).type from rfl, coerceInt?_eq_some_iff, hn] at h
      exact h
    · intro h
      obtain ⟨h, rfl⟩ := h
      have hle : (n.toNat : Int) ≤ Width.w64.greatest := h.2.trans h64
      have hn : (Int64.ofNat n.toNat).toInt = n.toNat := Int64.toInt_ofNat_of_lt (by omega)
      refine ⟨hle, ?_⟩
      rw [show ValueType.signed w = (signed w).type from rfl, coerceInt?_eq_some_iff, hn]
      exact ⟨h, rfl⟩
  | unsigned w =>
    rw [type, coerceUInt?_unsigned, Option.ite_none_right_eq_some, Option.some_inj,
      eq_comm (a := v)]
    have hvalue : (value (unsigned w) n.toNat : Value α) = .uint n := by
      show Value.uint (UInt64.ofNat (n.toNat : Int).toNat) = .uint n
      rw [Int.toNat_natCast, UInt64.ofNat_toNat]
    rw [hvalue]
    refine and_congr_left fun _ => ?_
    show n.toNat ≤ w.greatestUnsigned ↔
      (0 : Int) ≤ n.toNat ∧ (n.toNat : Int) ≤ w.greatestUnsigned
    omega

theorem coerce?_eq_some_iff (t : IntegerType) {raw : RawLiteral} (h : raw.isText = false)
    (v : Value α) :
    coerce? t.type raw = some v ↔
      ∃ m, Denotes t raw m ∧ (t.least ≤ m ∧ m ≤ t.greatest) ∧ v = t.value m := by
  cases raw with
  | text text => cases h
  | int n =>
    have hcoerce : (coerce? t.type (.int n) : Option (Value α)) = coerceInt? t.type n := by
      cases t <;> rfl
    rw [hcoerce, coerceInt?_eq_some_iff]
    refine ⟨?_, ?_⟩
    · exact fun h => ⟨_, .int t n, h⟩
    · intro h
      obtain ⟨m, hm, h⟩ := h
      cases hm
      exact h
  | uint n =>
    have hcoerce : (coerce? t.type (.uint n) : Option (Value α)) = coerceUInt? t.type n := by
      cases t <;> rfl
    rw [hcoerce, coerceUInt?_eq_some_iff]
    refine ⟨?_, ?_⟩
    · exact fun h => ⟨_, .uint t n, h⟩
    · intro h
      obtain ⟨m, hm, h⟩ := h
      cases hm
      exact h
  | _ =>
    refine ⟨?_, ?_⟩
    · intro h
      cases t <;> cases h
    · intro h
      obtain ⟨m, hm, -⟩ := h
      cases hm

end

/-! ## texts -/

theorem SpellsHex.unique {text : String} {m n : Nat} (hm : SpellsHex text m)
    (hn : SpellsHex text n) : m = n := by
  obtain ⟨ds, hds, hm⟩ := hm
  obtain ⟨es, hes, hn⟩ := hn
  obtain rfl := hds.unique hes
  exact hm.unique (by omega) hn

/-- a text is in one notation only -/
theorem SpellsHex.not_spellsUnsigned {text : String} {n : Nat} (h : SpellsHex text n) (k : Nat) :
    ¬ SpellsUnsigned 10 (Text.trim text.toList) k := by
  obtain ⟨digits, hmarks, -⟩ := h
  exact hmarks.not_spellsUnsigned k

theorem SpellsHex.not_spellsSigned {text : String} {n : Nat} (h : SpellsHex text n) (m : Int) :
    ¬ SpellsSigned (Text.trim text.toList) m := by
  obtain ⟨digits, hmarks, -⟩ := h
  exact hmarks.not_spellsSigned m

theorem Denotes.unique {t : IntegerType} {raw : RawLiteral} {m n : Int} (hm : Denotes t raw m)
    (hn : Denotes t raw n) : m = n := by
  cases hm with
  | int _ k =>
    cases hn
    rfl
  | uint _ k =>
    cases hn
    rfl
  | signedDecimal w h =>
    cases hn with
    | signedDecimal _ h' => exact h.unique h'
    | signedHex _ h' _ => exact absurd h (h'.not_spellsSigned _)
  | unsignedDecimal w h =>
    cases hn with
    | unsignedDecimal _ h' => rw [h.unique (by omega) h']
    | unsignedHex _ h' => exact absurd h (h'.not_spellsUnsigned _)
  | signedHex w h hk =>
    cases hn with
    | signedDecimal _ h' => exact absurd h' (h.not_spellsSigned _)
    | signedHex _ h' _ => rw [h.unique h']
  | unsignedHex w h =>
    cases hn with
    | unsignedDecimal _ h' => exact absurd h' (h.not_spellsUnsigned _)
    | unsignedHex _ h' => rw [h.unique h']

section
variable {α : Type}

def parser : IntegerType → Parser α
  | signed w => .signed w
  | unsigned w => .unsigned w

theorem runParser_signed_hex (w : Width) {text : String} {digits : List Char}
    (h : MarksHex text.toList digits) (parsed : Parsed α) :
    Registry.runParser (.signed w) text = .ok parsed ↔
      ∃ n, n < w.size ∧ SpellsUnsigned 16 digits n ∧
        parsed = .scalar (.int (Int64.ofInt (BitVec.ofNat w.bits n).toInt)) := by
  have hsize := w.size_eq
  have hbits : ∀ n : Nat, w.reinterpret n = (BitVec.ofNat w.bits n).toInt := by
    intro n
    rw [BitVec.toInt_ofNat']
    rfl
  simp only [Registry.runParser, Parser.signed, splitStyle_of_marksHex h, String.toList_ofList,
    NumberStyle.radix, mapError_eq_ok_iff, map_eq_ok_iff,
    Number.readUnsigned_eq_ok_iff w (show 16 ≤ 16 by omega) (by omega), hbits]
  refine ⟨?_, ?_⟩
  · intro h
    obtain ⟨_, ⟨n, ⟨hle, hn⟩, rfl⟩, rfl⟩ := h
    exact ⟨n, by omega, hn, rfl⟩
  · intro h
    obtain ⟨n, hlt, hn, rfl⟩ := h
    exact ⟨_, ⟨n, ⟨by omega, hn⟩, rfl⟩, rfl⟩

theorem runParser_signed_decimal (w : Width) {text : String}
    (h : ∀ digits, ¬ MarksHex text.toList digits) (parsed : Parsed α) :
    Registry.runParser (.signed w) text = .ok parsed ↔
      ∃ m, (w.least ≤ m ∧ m ≤ w.greatest) ∧ SpellsSigned text.toList m ∧
        parsed = .scalar (.int (Int64.ofInt m)) := by
  simp only [Registry.runParser, Parser.signed, splitStyle_of_not_marksHex h,
    mapError_eq_ok_iff, map_eq_ok_iff, Number.readSigned_eq_ok_iff]
  refine ⟨?_, ?_⟩
  · intro h
    obtain ⟨m, ⟨hrange, hm⟩, rfl⟩ := h
    exact ⟨m, hrange, hm, rfl⟩
  · intro h
    obtain ⟨m, hrange, hm, rfl⟩ := h
    exact ⟨m, ⟨hrange, hm⟩, rfl⟩

theorem runParser_unsigned (w : Width) (text : String) (parsed : Parsed α) :
    Registry.runParser (.unsigned w) text = .ok parsed ↔
      ∃ n, n ≤ w.greatestUnsigned ∧
        SpellsUnsigned (splitStyle text).2.radix (splitStyle text).1.toList n ∧
        parsed = .scalar (.uint (UInt64.ofNat n)) := by
  have hradix : ∀ style : NumberStyle, style.radix ≤ 16 ∧ 0 < style.radix := by
    intro style
    cases style <;> decide
  simp only [Registry.runParser, Parser.unsigned, mapError_eq_ok_iff, map_eq_ok_iff,
    Number.readUnsigned_eq_ok_iff w (hradix _).1 (hradix _).2]
  refine ⟨?_, ?_⟩
  · intro h
    obtain ⟨n, ⟨hle, hn⟩, rfl⟩ := h
    exact ⟨n, hle, hn, rfl⟩
  · intro h
    obtain ⟨n, hle, hn, rfl⟩ := h
    exact ⟨n, ⟨hle, hn⟩, rfl⟩

theorem marksHex_trimmed (text : String) (digits : List Char) :
    MarksHex (Text.trimmed text).toList digits ↔ MarksHex (Text.trim text.toList) digits := by
  rw [Text.toList_trimmed]

theorem spellsHex_iff {text : String} {digits : List Char}
    (h : MarksHex (Text.trim text.toList) digits) (n : Nat) :
    SpellsHex text n ↔ SpellsUnsigned 16 digits n := by
  refine ⟨?_, ?_⟩
  · intro h
    obtain ⟨ds, hds, hn⟩ := h
    rwa [← hds.unique h]
  · exact fun hn => ⟨digits, h, hn⟩

theorem runParser_signed_eq_ok_iff (w : Width) (text : String) (parsed : Parsed α) :
    Registry.runParser (.signed w) (Text.trimmed text) = .ok parsed ↔
      ∃ m, Denotes (signed w) (.text text) m ∧ (w.least ≤ m ∧ m ≤ w.greatest) ∧
        parsed = .scalar (.int (Int64.ofInt m)) := by
  by_cases hhex : ∃ digits, MarksHex (Text.trim text.toList) digits
  · obtain ⟨digits, hmarks⟩ := hhex
    have hrange : ∀ n : Nat, w.least ≤ (BitVec.ofNat w.bits n).toInt ∧
        (BitVec.ofNat w.bits n).toInt ≤ w.greatest := by
      intro n
      rw [BitVec.toInt_ofNat']
      exact w.reinterpret_bounds n
    rw [runParser_signed_hex w ((marksHex_trimmed text digits).mpr hmarks)]
    refine ⟨?_, ?_⟩
    · intro h
      obtain ⟨n, hlt, hn, rfl⟩ := h
      exact ⟨_, .signedHex w ((spellsHex_iff hmarks n).mpr hn) hlt, hrange n, rfl⟩
    · intro h
      obtain ⟨m, hm, -, rfl⟩ := h
      cases hm with
      | signedDecimal _ h => exact absurd h (hmarks.not_spellsSigned m)
      | signedHex _ h hlt => exact ⟨_, hlt, (spellsHex_iff hmarks _).mp h, rfl⟩
  · have hplain : ∀ digits, ¬ MarksHex (Text.trimmed text).toList digits :=
      fun digits h => hhex ⟨digits, (marksHex_trimmed text digits).mp h⟩
    rw [runParser_signed_decimal w hplain, Text.toList_trimmed]
    refine ⟨?_, ?_⟩
    · intro h
      obtain ⟨m, hrange, hm, rfl⟩ := h
      exact ⟨m, .signedDecimal w hm, hrange, rfl⟩
    · intro h
      obtain ⟨m, hm, hrange, rfl⟩ := h
      cases hm with
      | signedDecimal _ h => exact ⟨m, hrange, h, rfl⟩
      | signedHex _ h _ =>
        obtain ⟨digits, hmarks, -⟩ := h
        exact absurd ⟨digits, hmarks⟩ hhex

theorem runParser_unsigned_eq_ok_iff (w : Width) (text : String) (parsed : Parsed α) :
    Registry.runParser (.unsigned w) (Text.trimmed text) = .ok parsed ↔
      ∃ n : Nat, Denotes (unsigned w) (.text text) n ∧ n ≤ w.greatestUnsigned ∧
        parsed = .scalar (.uint (UInt64.ofNat n)) := by
  rw [runParser_unsigned]
  refine exists_congr fun n => ?_
  rw [← and_assoc, ← and_assoc, and_comm (a := n ≤ w.greatestUnsigned)]
  refine and_congr_left fun _ => and_congr_left fun _ => ?_
  by_cases hhex : ∃ digits, MarksHex (Text.trim text.toList) digits
  · obtain ⟨digits, hmarks⟩ := hhex
    rw [splitStyle_of_marksHex ((marksHex_trimmed text digits).mpr hmarks), String.toList_ofList]
    refine ⟨?_, ?_⟩
    · exact fun hn => .unsignedHex w ((spellsHex_iff hmarks n).mpr hn)
    · intro hn
      generalize hm : (n : Int) = m at hn
      cases hn with
      | @unsignedDecimal _ _ k h =>
        exact absurd h (hmarks.not_spellsUnsigned k)
      | unsignedHex _ h =>
        obtain rfl := Int.ofNat_inj.mp hm
        exact (spellsHex_iff hmarks n).mp h
  · have hplain : ∀ digits, ¬ MarksHex (Text.trimmed text).toList digits :=
      fun digits h => hhex ⟨digits, (marksHex_trimmed text digits).mp h⟩
    rw [splitStyle_of_not_marksHex hplain, Text.toList_trimmed]
    refine ⟨?_, ?_⟩
    · exact fun hn => .unsignedDecimal w hn
    · intro hn
      generalize hm : (n : Int) = m at hn
      cases hn with
      | unsignedDecimal _ h =>
        obtain rfl := Int.ofNat_inj.mp hm
        exact h
      | unsignedHex _ h =>
        obtain ⟨digits, hmarks, -⟩ := h
        exact absurd ⟨digits, hmarks⟩ hhex

theorem nonneg_of_denotes_text {w : Width} {text : String} {m : Int}
    (h : Denotes (unsigned w) (.text text) m) : 0 ≤ m := by
  cases h with
  | unsignedDecimal => exact Int.natCast_nonneg _
  | unsignedHex => exact Int.natCast_nonneg _

theorem runParser_eq_ok_iff (t : IntegerType) (text : String) (parsed : Parsed α) :
    Registry.runParser t.parser (Text.trimmed text) = .ok parsed ↔
      ∃ m, Denotes t (.text text) m ∧ (t.least ≤ m ∧ m ≤ t.greatest) ∧
        parsed = .scalar (t.value m) := by
  cases t with
  | signed w => exact runParser_signed_eq_ok_iff w text parsed
  | unsigned w =>
    rw [parser, runParser_unsigned_eq_ok_iff]
    refine ⟨?_, ?_⟩
    · intro h
      obtain ⟨n, hn, hle, rfl⟩ := h
      exact ⟨n, hn, ⟨Int.natCast_nonneg n, Int.ofNat_le.mpr hle⟩, rfl⟩
    · intro h
      obtain ⟨m, hm, hrange, rfl⟩ := h
      obtain ⟨n, rfl⟩ := Int.eq_ofNat_of_zero_le (nonneg_of_denotes_text hm)
      exact ⟨n, hm, Int.ofNat_le.mp hrange.2, rfl⟩

end

/-! ## literals -/

section
variable {α : Type} [Schema α]

theorem parser?_defaults (t : IntegerType) :
    (Registry.defaults : Registry α).parser? t.type = some t.parser := by
  cases t with
  | signed w =>
    have hkey : Parser.ofScalar? (.signed w) = some (.signed w : Parser α) := rfl
    exact Registry.get?_defaults_of_ofScalar? hkey
  | unsigned w =>
    have hkey : Parser.ofScalar? (.unsigned w) = some (.unsigned w : Parser α) := rfl
    exact Registry.get?_defaults_of_ofScalar? hkey

theorem parse_eq_ok_iff (t : IntegerType) (text : String) (l : Literal α) :
    (Registry.defaults : Registry α).parse t.type (Text.trimmed text) = .ok l ↔
      ∃ m, Denotes t (.text text) m ∧ (t.least ≤ m ∧ m ≤ t.greatest) ∧ l = .const (t.value m) := by
  have hvalue : ∀ m, (t.value m : Value α).isCompound = false := by
    intro m
    cases t <;> rfl
  have htype : t.type.isCompound = false := by cases t <;> rfl
  rw [Registry.parse_eq_ok_iff, parser?_defaults]
  refine ⟨?_, ?_⟩
  · intro h
    obtain ⟨p, parsed, hp, hrun, hl⟩ := h
    cases hp
    obtain ⟨m, hm, hrange, rfl⟩ := (runParser_eq_ok_iff t text parsed).mp hrun
    exact ⟨m, hm, hrange, ((acceptParsed_scalar_eq_ok_iff ..).mp hl).2.2⟩
  · intro h
    obtain ⟨m, hm, hrange, rfl⟩ := h
    refine ⟨t.parser, .scalar (t.value m), rfl, ?_, ?_⟩
    · exact (runParser_eq_ok_iff t text _).mpr ⟨m, hm, hrange, rfl⟩
    · exact (acceptParsed_scalar_eq_ok_iff ..).mpr ⟨hvalue m, htype, rfl⟩

/-- under the default registry a literal of an integer type resolves exactly if it denotes an
integer of the type, and to the constant that holds it -/
theorem resolve_integer_eq_ok_iff (t : IntegerType) (raw : RawLiteral) (l : Literal α) :
    (Registry.defaults : Registry α).resolve t.type raw = .ok l ↔
      ∃ m, Denotes t raw m ∧ (t.least ≤ m ∧ m ≤ t.greatest) ∧ l = .const (t.value m) := by
  by_cases htext : raw.isText = true
  · cases raw with
    | text text =>
      have hnull : t.type.isReference = true → text ≠ nullWord := by
        intro h
        cases t <;> cases h
      rw [Registry.resolve_text, Registry.resolveText_eq_parse _ _ _ (by cases t <;> rfl) hnull,
        parse_eq_ok_iff]
    | _ => cases htext
  · rw [Bool.not_eq_true] at htext
    rw [Registry.resolve_of_not_isText _ _ _ htext]
    have hcoerce := coerce?_eq_some_iff (α := α) t htext
    cases hv : (coerce? t.type raw : Option (Value α)) with
    | none =>
      refine ⟨?_, ?_⟩
      · intro h
        cases h
      · intro h
        obtain ⟨m, hm, hrange, -⟩ := h
        have h := (hcoerce _).mpr ⟨m, hm, hrange, rfl⟩
        rw [hv] at h
        cases h
    | some v =>
      obtain ⟨m, hm, hrange, rfl⟩ := (hcoerce v).mp hv
      refine ⟨?_, ?_⟩
      · intro h
        cases h
        exact ⟨m, hm, hrange, rfl⟩
      · intro h
        obtain ⟨n, hn, -, rfl⟩ := h
        rw [hm.unique hn]

end

end IntegerType
end ObjectFilter
