import ObjectFilter.Proofs.Literal.Integer
import ObjectFilter.World.Types

/-!
# Hexadecimal literals

What may stand behind `0x` where an integer is expected: hexadecimal digits whose number fits the width of the
type, and in front of them a plus sign or nothing.  Every other text behind `0x` is refused by the parser.

* `denotes_hexadecimal_iff`          the integers that such a text denotes;
* `exists_conversion_of_not_ok`      an integer type refuses a text by its parser only;
* `resolve_hexadecimal`              which texts behind `0x` are resolved, and to what.
-/

namespace ObjectFilter

open Number (Width Spells SpellsUnsigned NumeralError)

namespace IntegerType

def width : IntegerType → Width
  | signed w | unsigned w => w

/-- the integer of the type that a number below the size of its width is the bit pattern of -/
def ofPattern : IntegerType → Nat → Int
  | signed w, n => (BitVec.ofNat w.bits n).toInt
  | unsigned _, n => n

theorem ofPattern_bounds (t : IntegerType) {n : Nat} (hn : n < t.width.size) :
    t.least ≤ t.ofPattern n ∧ t.ofPattern n ≤ t.greatest := by
  cases t with
  | signed w =>
    show w.least ≤ (BitVec.ofNat w.bits n).toInt ∧ (BitVec.ofNat w.bits n).toInt ≤ w.greatest
    rw [BitVec.toInt_ofNat']
    exact w.reinterpret_bounds n
  | unsigned w =>
    have hsize := w.size_eq
    have hlt : n < w.size := hn
    show (0 : Int) ≤ n ∧ (n : Int) ≤ w.greatestUnsigned
    omega

/-- behind the mark an integer type takes the patterns of its width -/
theorem denotes_hexadecimal_iff (t : IntegerType) {text : String} {digits : List Char}
    (h : MarksHex (Text.trim text.toList) digits) (m : Int) :
    Denotes t (.text text) m ∧ (t.least ≤ m ∧ m ≤ t.greatest) ↔
      ∃ n, n < t.width.size ∧ SpellsUnsigned 16 digits n ∧ m = t.ofPattern n := by
  refine ⟨?_, ?_⟩
  · intro hm
    obtain ⟨hdenotes, -, hgreatest⟩ := hm
    cases hdenotes with
    | signedDecimal w hspells => exact absurd hspells (h.not_spellsSigned m)
    | unsignedDecimal w hspells => exact absurd hspells (h.not_spellsUnsigned _)
    | signedHex w hspells hn => exact ⟨_, hn, (spellsHex_iff h _).mp hspells, rfl⟩
    | @unsignedHex w _ n hspells =>
      have hsize := w.size_eq
      have hle : (n : Int) ≤ w.greatestUnsigned := hgreatest
      have hlt : n < w.size := by omega
      exact ⟨n, hlt, (spellsHex_iff h _).mp hspells, rfl⟩
  · intro hm
    obtain ⟨n, hn, hspells, rfl⟩ := hm
    refine ⟨?_, t.ofPattern_bounds hn⟩
    cases t with
    | signed w => exact .signedHex w ((spellsHex_iff h n).mpr hspells) hn
    | unsigned w => exact .unsignedHex w ((spellsHex_iff h n).mpr hspells)

variable {α : Type} [Schema α]

/-! ## texts that are refused -/

omit [Schema α] in
theorem exists_message_of_runParser_error (t : IntegerType) {text reason : String}
    (h : Registry.runParser (t.parser : Parser α) text = .error reason) :
    ∃ fault : NumeralError, reason = fault.message := by
  cases t with
  | signed w =>
    obtain ⟨fault, -, rfl⟩ := (mapError_eq_error_iff ..).mp h
    exact ⟨fault, rfl⟩
  | unsigned w =>
    obtain ⟨fault, -, rfl⟩ := (mapError_eq_error_iff ..).mp h
    exact ⟨fault, rfl⟩

theorem resolve_of_runParser_error (t : IntegerType) {text reason : String}
    (h : Registry.runParser (t.parser : Parser α) (Text.trimmed text) = .error reason) :
    (Registry.defaults : Registry α).resolve t.type (.text text) =
      .error (.conversion (Text.trimmed text) (t.type.name α) reason) := by
  have hkey : t.type.key?.isSome := by cases t <;> rfl
  have hnull : t.type.isReference = true → text ≠ nullWord := by
    intro h
    cases t <;> cases h
  rw [Registry.resolve_text, Registry.resolveText_eq_parse _ _ _ hkey hnull, Registry.parse_eq,
    parser?_defaults]
  dsimp only
  rw [h]

theorem exists_conversion_of_not_ok (t : IntegerType) {text : String}
    (h : ∀ m, Denotes t (.text text) m → ¬ (t.least ≤ m ∧ m ≤ t.greatest)) :
    ∃ fault : NumeralError, (Registry.defaults : Registry α).resolve t.type (.text text) =
      .error (.conversion (Text.trimmed text) (t.type.name α) fault.message) := by
  cases hrun : Registry.runParser (t.parser : Parser α) (Text.trimmed text) with
  | ok parsed =>
    obtain ⟨m, hm, hrange, -⟩ := (runParser_eq_ok_iff t text parsed).mp hrun
    exact absurd hrange (h m hm)
  | error reason =>
    obtain ⟨fault, rfl⟩ := t.exists_message_of_runParser_error hrun
    exact ⟨fault, t.resolve_of_runParser_error hrun⟩

/-! ## literals -/

/-- behind `0x` stand hexadecimal digits with a plus sign in front of them or none, and a number that fits
the width; anything else is a conversion error -/
theorem resolve_hexadecimal (t : IntegerType) {text : String} {digits : List Char}
    (hmark : MarksHex (Text.trim text.toList) digits) :
    (∀ l, (Registry.defaults : Registry α).resolve t.type (.text text) = .ok l ↔
      ∃ n, n < t.width.size ∧ SpellsUnsigned 16 digits n ∧ l = .const (t.value (t.ofPattern n))) ∧
    ((¬ ∃ n, n < t.width.size ∧ SpellsUnsigned 16 digits n) →
      ∃ fault : NumeralError, (Registry.defaults : Registry α).resolve t.type (.text text) =
        .error (.conversion (Text.trimmed text) (t.type.name α) fault.message)) := by
  refine ⟨?_, ?_⟩
  · intro l
    rw [resolve_integer_eq_ok_iff]
    refine ⟨?_, ?_⟩
    · intro h
      obtain ⟨m, hm, hrange, rfl⟩ := h
      obtain ⟨n, hn, hspells, rfl⟩ := (t.denotes_hexadecimal_iff hmark m).mp ⟨hm, hrange⟩
      exact ⟨n, hn, hspells, rfl⟩
    · intro h
      obtain ⟨n, hn, hspells, rfl⟩ := h
      obtain ⟨hm, hrange⟩ := (t.denotes_hexadecimal_iff hmark _).mpr ⟨n, hn, hspells, rfl⟩
      exact ⟨_, hm, hrange, rfl⟩
  · intro hnone
    refine t.exists_conversion_of_not_ok ?_
    intro m hm hrange
    obtain ⟨n, hn, hspells, -⟩ := (t.denotes_hexadecimal_iff hmark m).mp ⟨hm, hrange⟩
    exact hnone ⟨n, hn, hspells⟩

/-- the pattern of -2 in eight bits, and a text with a second mark -/
theorem resolve_hexadecimal_secondMark :
    (Registry.defaults : Registry World.Entity).resolve (signed .w8).type (.text " 0XfE ") =
      .ok (.const (.int (-2))) ∧
    ∃ fault : NumeralError,
      (Registry.defaults : Registry World.Entity).resolve (signed .w8).type (.text "0x0x1") =
        .error (.conversion "0x0x1" "i8" fault.message) := by
  have hmark : MarksHex (Text.trim " 0XfE ".toList) ['f', 'E'] := ⟨'X', .inr rfl, by decide +kernel⟩
  have hmark' : MarksHex (Text.trim "0x0x1".toList) ['0', 'x', '1'] :=
    ⟨'x', .inl rfl, by decide +kernel⟩
  have hspells : SpellsUnsigned 16 ['f', 'E'] 254 :=
    ((Number.readUnsigned_eq_ok_iff .w8 (by omega) (by omega) ['f', 'E'] 254).mp rfl).2
  refine ⟨?_, ?_⟩
  · exact ((resolve_hexadecimal (signed .w8) hmark).1 _).mpr ⟨254, by decide, hspells, rfl⟩
  · refine (resolve_hexadecimal (signed .w8) hmark').2 ?_
    intro h
    obtain ⟨n, hn, hspells⟩ := h
    have hle : n ≤ Width.w8.greatestUnsigned := Nat.le_of_lt_succ hn
    have hread := (Number.readUnsigned_eq_ok_iff .w8 (by omega) (by omega) ['0', 'x', '1'] n).mpr
      ⟨hle, hspells⟩
    cases hread

/-- a sign is no hexadecimal digit, and yet the plus sign in `0x+1` is read over -/
theorem resolve_plusSign_behind_mark :
    MarksHex (Text.trim "0x+1".toList) ['+', '1'] ∧ (∀ n, ¬ Spells 16 ['+', '1'] n) ∧
      (Registry.defaults : Registry World.Entity).resolve (unsigned .w8).type (.text "0x+1") =
        .ok (.const (.uint 1)) := by
  refine ⟨⟨'x', .inl rfl, by decide +kernel⟩, ?_, rfl⟩
  intro n h
  exact h.head_ne_sign (by omega) (.inl rfl) ['1'] rfl

end IntegerType
end ObjectFilter
