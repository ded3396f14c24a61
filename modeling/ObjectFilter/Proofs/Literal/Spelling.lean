import ObjectFilter.Proofs.Literal.Hexadecimal
import ObjectFilter.Proofs.Number.Written
import ObjectFilter.Proofs.Text.Blank

/-!
# The spellings of an integer

An integer can be supplied as its decimal text, as the hexadecimal digits of its bit pattern, each with white
space around it, and as a typed literal of either kind.  Where an integer of the type is expected, all of them
stand for that integer; an integer that is not one of the type is refused, however it is supplied.

* `Spelling.denotes`         a spelling of an integer of the type denotes that integer;
* `resolve_decimal_of_not_mem`, `resolve_typed_of_not_mem`   how the others are refused;
* `resolve_spelling`         all spellings of an integer are resolved alike.
-/

namespace ObjectFilter

open Number (Width Spells SpellsUnsigned SpellsSigned HexDigits NumeralError)

/-! ## numerals with white space around them -/

theorem not_isBlank_of_writes {radix : Nat} (hr : radix ≤ 16) {c : Char} {d : Nat}
    (h : Number.Writes radix c d) : Text.isBlank c = false := by
  have hdigit : Number.digit? 16 c = some d :=
    (Number.digit?_eq_some_iff (by omega) c d).mpr ⟨Nat.lt_of_lt_of_le h.1 hr, h.2⟩
  by_cases hc : c.toNat < 128
  · have hblank : (Number.digit? 16 c).isSome = true → Text.isBlank c = false :=
      Number.of_ascii (fun c => (Number.digit? 16 c).isSome = true → Text.isBlank c = false)
        (by decide +kernel) hc
    exact hblank (by rw [hdigit]; rfl)
  · rw [Number.digit?_of_not_ascii 16 c (by omega)] at hdigit
    cases hdigit

theorem not_isBlank_of_spells {radix : Nat} (hr : radix ≤ 16) {cs : List Char} {n : Nat}
    (h : Spells radix cs n) : ∀ c ∈ cs, Text.isBlank c = false := by
  intro c hc
  obtain ⟨d, hd⟩ := h.exists_writes hc
  exact not_isBlank_of_writes hr hd

theorem not_isBlank_of_spellsSigned {cs : List Char} {n : Int} (h : SpellsSigned cs n) :
    ∀ c ∈ cs, Text.isBlank c = false := by
  intro c hc
  rcases h.sign_or_writes hc with (rfl | rfl) | ⟨d, hd⟩
  · decide
  · decide
  · exact not_isBlank_of_writes (by omega) hd

theorem not_isBlank_of_toString (n : Int) : ∀ c ∈ (toString n).toList, Text.isBlank c = false :=
  not_isBlank_of_spellsSigned (Number.spellsSigned_toString n)

theorem trim_of_decimal {text : String} {n : Int}
    (h : Text.Padded text.toList (toString n).toList) :
    Text.trim text.toList = (toString n).toList :=
  h.trim_eq.trans (Text.trim_eq_self (not_isBlank_of_toString n))

theorem trimmed_of_decimal {text : String} {n : Int}
    (h : Text.Padded text.toList (toString n).toList) : Text.trimmed text = toString n := by
  rw [Text.trimmed, trim_of_decimal h, String.ofList_toList]

theorem trim_of_hexadecimal {text : String} {x : Char} (hx : x = 'x' ∨ x = 'X')
    {digits : List Char} {n : Nat} (hdigits : HexDigits digits n)
    (h : Text.Padded text.toList ('0' :: x :: digits)) :
    Text.trim text.toList = '0' :: x :: digits := by
  refine h.trim_eq.trans (Text.trim_eq_self ?_)
  have hblank := not_isBlank_of_spells (by omega) hdigits.spells
  rcases hx with rfl | rfl
  · exact List.forall_mem_cons.mpr ⟨by decide, List.forall_mem_cons.mpr ⟨by decide, hblank⟩⟩
  · exact List.forall_mem_cons.mpr ⟨by decide, List.forall_mem_cons.mpr ⟨by decide, hblank⟩⟩

/-! ## bit patterns -/

theorem reinterpret_emod (w : Width) {n : Int} (hl : w.least ≤ n) (hg : n ≤ w.greatest) :
    w.reinterpret (n % w.size).toNat = n := by
  have hne : (w.size : Int) ≠ 0 := by cases w <;> decide
  have hnat : ((n % w.size).toNat : Int) = n % w.size :=
    Int.toNat_of_nonneg (Int.emod_nonneg n hne)
  have hleast : -((w.size : Int) / 2) = w.least := by cases w <;> decide
  have hgreatest : ((w.size : Int) + 1) / 2 = w.greatest + 1 := by cases w <;> decide
  unfold Width.reinterpret
  rw [hnat, Int.emod_bmod]
  exact Int.bmod_eq_of_le (by omega) (by omega)

namespace IntegerType

theorem ofPattern_emod (t : IntegerType) {n : Int} (hl : t.least ≤ n) (hg : n ≤ t.greatest) :
    t.ofPattern (n % t.width.size).toNat = n := by
  cases t with
  | signed w =>
    show (BitVec.ofNat w.bits (n % w.size).toNat).toInt = n
    rw [BitVec.toInt_ofNat']
    exact reinterpret_emod w hl hg
  | unsigned w =>
    have hsize := w.size_eq
    have h0 : 0 ≤ n := hl
    have hle : n ≤ w.greatestUnsigned := hg
    show ((n % w.size).toNat : Int) = n
    rw [Int.emod_eq_of_lt h0 (by omega), Int.toNat_of_nonneg h0]

/-! ## spellings -/

/-- the literal is a way to supply the integer where one of the type is expected -/
inductive Spelling (t : IntegerType) (n : Int) : RawLiteral → Prop
  | decimal {text : String} (h : Text.Padded text.toList (toString n).toList) :
      Spelling t n (.text text)
  | hexadecimal {text : String} {x : Char} {digits : List Char} (hx : x = 'x' ∨ x = 'X')
      (hdigits : HexDigits digits (n % t.width.size).toNat)
      (h : Text.Padded text.toList ('0' :: x :: digits)) : Spelling t n (.text text)
  | int {k : Int64} (h : k.toInt = n) : Spelling t n (.int k)
  | uint {k : UInt64} (h : (k.toNat : Int) = n) : Spelling t n (.uint k)

theorem denotes_decimal (t : IntegerType) {n : Int} (h0 : t.least ≤ n) {text : String}
    (h : Text.Padded text.toList (toString n).toList) : Denotes t (.text text) n := by
  cases t with
  | signed w =>
    have hspells := Number.spellsSigned_toString n
    rw [← trim_of_decimal h] at hspells
    exact .signedDecimal w hspells
  | unsigned w =>
    have h0 : 0 ≤ n := h0
    have hspells := Number.spellsUnsigned_toString h0
    rw [← trim_of_decimal h] at hspells
    have hdenotes := Denotes.unsignedDecimal w hspells
    rwa [Int.toNat_of_nonneg h0] at hdenotes

theorem Spelling.denotes {t : IntegerType} {n : Int} (hl : t.least ≤ n) (hg : n ≤ t.greatest)
    {raw : RawLiteral} (h : Spelling t n raw) : Denotes t raw n := by
  cases h with
  | decimal h => exact t.denotes_decimal hl h
  | @hexadecimal text x digits hx hdigits h =>
    have hmark : MarksHex (Text.trim text.toList) digits := ⟨x, hx, trim_of_hexadecimal hx hdigits h⟩
    have hlt : (n % t.width.size).toNat < t.width.size := by
      have hpos : 0 < t.width.size := by rw [t.width.size_eq]; omega
      have hmod := Int.emod_lt_of_pos n (show (0 : Int) < t.width.size by omega)
      omega
    exact ((t.denotes_hexadecimal_iff hmark n).mpr
      ⟨_, hlt, .inl hdigits.spells, (t.ofPattern_emod hl hg).symm⟩).1
  | int h => exact h ▸ .int t _
  | uint h => exact h ▸ .uint t _

/-! ## integers that are none of the type -/

/-- why the parser of the type refuses the decimal text of an integer that is none of the type -/
def refusal : IntegerType → Int → NumeralError
  | signed _, n => if n < 0 then .tooSmall else .tooLarge
  | unsigned _, n => if n < 0 then .invalidDigit else .tooLarge

variable {α : Type} [Schema α]

omit [Schema α] in
theorem runParser_decimal_of_not_mem (t : IntegerType) {n : Int}
    (h : ¬ (t.least ≤ n ∧ n ≤ t.greatest)) :
    Registry.runParser (t.parser : Parser α) (toString n) = .error (t.refusal n).message := by
  have hplain : ∀ digits, ¬ MarksHex (toString n).toList digits :=
    fun digits hmark => hmark.not_spellsSigned n (Number.spellsSigned_toString n)
  cases t with
  | signed w =>
    simp only [parser, Registry.runParser, Parser.signed, splitStyle_of_not_marksHex hplain,
      Number.readSigned_toString w h]
    rfl
  | unsigned w =>
    simp only [parser, Registry.runParser, Parser.unsigned, splitStyle_of_not_marksHex hplain,
      NumberStyle.radix, Number.readUnsigned_toString w h]
    rfl

theorem resolve_decimal_of_not_mem (t : IntegerType) {n : Int}
    (h : ¬ (t.least ≤ n ∧ n ≤ t.greatest)) {text : String}
    (htext : Text.Padded text.toList (toString n).toList) :
    (Registry.defaults : Registry α).resolve t.type (.text text) =
      .error (.conversion (toString n) (t.type.name α) (t.refusal n).message) := by
  have hrun := t.runParser_decimal_of_not_mem (α := α) h
  rw [← trimmed_of_decimal htext] at hrun ⊢
  exact t.resolve_of_runParser_error hrun

/-- a typed literal that denotes an integer that is none of the type does not fit the type -/
theorem resolve_typed_of_not_mem (t : IntegerType) {n : Int}
    (h : ¬ (t.least ≤ n ∧ n ≤ t.greatest)) {raw : RawLiteral} (htyped : raw.isText = false)
    (hraw : Denotes t raw n) (r : Registry α) :
    r.resolve t.type raw = .error (.mismatch raw.display (t.type.name α)) := by
  rw [Registry.resolve_of_not_isText r t.type raw htyped]
  cases hv : (coerce? t.type raw : Option (Value α)) with
  | none => rfl
  | some v =>
    obtain ⟨m, hm, hrange, -⟩ := (coerce?_eq_some_iff t htyped v).mp hv
    rw [hm.unique hraw] at hrange
    exact absurd hrange h

/-- all ways to supply an integer of the type come to the constant that holds it, and all ways to supply
another integer are refused -/
theorem resolve_spelling (t : IntegerType) (n : Int) :
    (t.least ≤ n ∧ n ≤ t.greatest →
      t.Holds (t.value n : Value α) n ∧
      ∀ raw, Spelling t n raw →
        (Registry.defaults : Registry α).resolve t.type raw = .ok (.const (t.value n))) ∧
    (¬ (t.least ≤ n ∧ n ≤ t.greatest) →
      (∀ text : String, Text.Padded text.toList (toString n).toList →
        (Registry.defaults : Registry α).resolve t.type (.text text) =
          .error (.conversion (toString n) (t.type.name α) (t.refusal n).message)) ∧
      (∀ k : Int64, k.toInt = n → (Registry.defaults : Registry α).resolve t.type (.int k) =
        .error (.mismatch (toString n) (t.type.name α))) ∧
      ∀ k : UInt64, (k.toNat : Int) = n → (Registry.defaults : Registry α).resolve t.type (.uint k) =
        .error (.mismatch (toString n) (t.type.name α))) := by
  refine ⟨?_, ?_⟩
  · intro h
    refine ⟨t.holds_value h.1 h.2, ?_⟩
    intro raw hraw
    exact (t.resolve_integer_eq_ok_iff raw _).mpr ⟨n, hraw.denotes h.1 h.2, h, rfl⟩
  · intro h
    refine ⟨fun text htext => t.resolve_decimal_of_not_mem h htext, ?_, ?_⟩
    · rintro k rfl
      exact t.resolve_typed_of_not_mem h rfl (.int t k) _
    · rintro k rfl
      exact t.resolve_typed_of_not_mem h rfl (.uint t k) _

/-- the sign bit of 64 bits alone is the least integer; the same number without a pattern is one too many -/
theorem resolve_spelling_signBit :
    (Registry.defaults : Registry World.Entity).resolve (signed .w64).type
      (.text " 0X08000000000000000\n") = .ok (.const (.int (Int64.ofInt (-9223372036854775808)))) ∧
    (Registry.defaults : Registry World.Entity).resolve (signed .w64).type
      (.text "9223372036854775808 ") = .error (.conversion "9223372036854775808" "i64"
        "number too large to fit in target type") ∧
    (Registry.defaults : Registry World.Entity).resolve (signed .w64).type
      (.uint 9223372036854775808) = .error (.mismatch "9223372036854775808" "i64") := by
  have hleast := (resolve_spelling (α := World.Entity) (signed .w64) (-9223372036854775808)).1
    (by decide)
  obtain ⟨hdecimal, -, huint⟩ :=
    (resolve_spelling (α := World.Entity) (signed .w64) 9223372036854775808).2 (by decide)
  have hdigits : HexDigits "08000000000000000".toList 9223372036854775808 := ⟨1, by decide +kernel⟩
  have hpadded : Text.Padded " 0X08000000000000000\n".toList
      ('0' :: 'X' :: "08000000000000000".toList) :=
    ⟨[' '], ['\n'], List.forall_mem_singleton.mpr (by decide), List.forall_mem_singleton.mpr (by decide),
      by decide +kernel⟩
  have hpadded' : Text.Padded "9223372036854775808 ".toList
      (toString (9223372036854775808 : Int)).toList :=
    ⟨[], [' '], List.forall_mem_nil _, List.forall_mem_singleton.mpr (by decide), by decide +kernel⟩
  exact ⟨hleast.2 _ (.hexadecimal (.inr rfl) hdigits hpadded), hdecimal _ hpadded', huint _ rfl⟩

end IntegerType
end ObjectFilter
