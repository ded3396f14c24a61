import ObjectFilter.Proofs.Number.Numeral

/-!
# How integers are written

The decimal text of an integer and its hexadecimal digits, with zeros in front and in either case, are
numerals of that integer.  A decimal text is always a numeral, so a reader refuses it for one reason only:
the integer is not one of its width.

* `spells_toDigits`, `HexDigits.spells`      the digits of a number spell it;
* `spellsSigned_toString`                    the decimal text of an integer spells it;
* `readSigned_toString`, `readUnsigned_toString`   why the decimal text of an integer out of range is
                                             refused.
-/

namespace ObjectFilter.Number

/-! ## the digits of a number -/

theorem writes_digitChar {radix d : Nat} (hr : radix ≤ 16) (hd : d < radix) :
    Writes radix d.digitChar d := by
  have hrow : ∀ d < 16, digitRow[d]? = some d.digitChar.toLower := by decide
  exact ⟨hd, hrow d (by omega)⟩

theorem Spells.snoc {radix : Nat} {cs : List Char} {n : Nat} (h : Spells radix cs n) {c : Char}
    {d : Nat} (hc : Writes radix c d) : Spells radix (cs ++ [c]) (radix * n + d) := by
  obtain ⟨-, ds, hds, rfl⟩ := h
  refine ⟨by simp, ds ++ [d], List.rel_append hds (.cons hc .nil), ?_⟩
  rw [List.reverse_append, List.reverse_singleton, List.singleton_append, Nat.ofDigits_cons,
    add_comm]

theorem Spells.zeros {radix : Nat} (h0 : 0 < radix) {cs : List Char} {n : Nat}
    (h : Spells radix cs n) (k : Nat) : Spells radix (List.replicate k '0' ++ cs) n := by
  induction k with
  | zero => exact h
  | succ k ih =>
    obtain ⟨-, ds, hds, hn⟩ := ih
    have hzero : Writes radix '0' 0 := ⟨h0, by decide⟩
    refine ⟨by simp [List.replicate_succ], 0 :: ds, .cons hzero hds, ?_⟩
    rw [Nat.ofDigits_reverse_cons, mul_zero, add_zero]
    exact hn

theorem spells_toDigits {radix : Nat} (h1 : 1 < radix) (hr : radix ≤ 16) (n : Nat) :
    Spells radix (Nat.toDigits radix n) n := by
  induction n using Nat.strong_induction_on with
  | _ n ih =>
    by_cases hn : n < radix
    · rw [Nat.toDigits_of_lt_base hn]
      exact ⟨by simp, [n], .cons (writes_digitChar hr hn) .nil, by simp⟩
    · have hmod : n % radix < radix := Nat.mod_lt n (by omega)
      have hsnoc := (ih (n / radix) (Nat.div_lt_self (by omega) h1)).snoc (writes_digitChar hr hmod)
      rw [Nat.div_add_mod] at hsnoc
      rwa [Nat.toDigits_of_base_le h1 (by omega)]

theorem toLower_toLower (c : Char) : c.toLower.toLower = c.toLower := by
  by_cases hc : c.toNat < 128
  · exact of_ascii (fun c => c.toLower.toLower = c.toLower) (by decide +kernel) hc
  · rw [toLower_of_not_ascii c (by omega), toLower_of_not_ascii c (by omega)]

theorem writes_toLower_iff (radix : Nat) (c : Char) (d : Nat) :
    Writes radix c.toLower d ↔ Writes radix c d := by
  unfold Writes
  rw [toLower_toLower]

theorem spells_map_toLower_iff (radix : Nat) (cs : List Char) (n : Nat) :
    Spells radix (cs.map Char.toLower) n ↔ Spells radix cs n := by
  unfold Spells
  simp only [ne_eq, List.map_eq_nil_iff, List.forall₂_map_left_iff, writes_toLower_iff]

/-- the hexadecimal digits of a number, in either case and with zeros in front -/
def HexDigits (cs : List Char) (n : Nat) : Prop :=
  ∃ k, cs.map Char.toLower = List.replicate k '0' ++ Nat.toDigits 16 n

theorem HexDigits.spells {cs : List Char} {n : Nat} (h : HexDigits cs n) : Spells 16 cs n := by
  obtain ⟨k, hk⟩ := h
  rw [← spells_map_toLower_iff, hk]
  exact (spells_toDigits (by omega) (by omega) n).zeros (by omega) k

/-! ## decimal texts -/

theorem toList_toString_of_nonneg {n : Int} (h : 0 ≤ n) :
    (toString n).toList = Nat.toDigits 10 n.toNat := by
  rw [Int.toString_eq_repr, Int.repr_eq_if, if_pos h, Nat.toList_repr]

theorem toList_toString_of_neg {n : Int} (h : n < 0) :
    (toString n).toList = '-' :: Nat.toDigits 10 (-n).toNat := by
  rw [Int.toString_eq_repr, Int.repr_eq_if, if_neg (by omega), String.toList_append,
    Nat.toList_repr]
  rfl

/-- the decimal text of an integer is its digits, behind a minus sign if there is one -/
theorem toString_cases (n : Int) :
    (0 ≤ n ∧ Spells 10 (toString n).toList n.toNat) ∨
      n < 0 ∧ ∃ digits, (toString n).toList = '-' :: digits ∧ Spells 10 digits (-n).toNat := by
  by_cases h : 0 ≤ n
  · rw [toList_toString_of_nonneg h]
    exact .inl ⟨h, spells_toDigits (by omega) (by omega) _⟩
  · have hneg : n < 0 := by omega
    exact .inr ⟨hneg, _, toList_toString_of_neg hneg, spells_toDigits (by omega) (by omega) _⟩

theorem spellsUnsigned_toString {n : Int} (h : 0 ≤ n) :
    SpellsUnsigned 10 (toString n).toList n.toNat := by
  rw [toList_toString_of_nonneg h]
  exact .inl (spells_toDigits (by omega) (by omega) _)

theorem spellsSigned_toString (n : Int) : SpellsSigned (toString n).toList n := by
  rcases toString_cases n with ⟨h, hdigits⟩ | ⟨h, digits, hminus, hdigits⟩
  · exact .inl ⟨n.toNat, .inl hdigits, by omega⟩
  · exact .inr ⟨digits, _, hminus, hdigits, by omega⟩

/-! ## numbers out of range -/

section
variable {radix limit : Nat} {overflow : NumeralError}

theorem readDigits_cases (hr : radix ≤ 16) {cs : List Char} {ds : List Nat}
    (h : List.Forall₂ (Writes radix) cs ds) :
    ∀ acc, (∃ n, readDigits radix limit overflow acc cs = .ok n) ∨
      readDigits radix limit overflow acc cs = .error overflow := by
  induction h with
  | nil => exact fun acc => .inl ⟨acc, rfl⟩
  | cons hc _ ih =>
    intro acc
    rw [readDigits, (digit?_eq_some_iff hr ..).mpr hc]
    dsimp only
    split
    · exact ih _
    · exact .inr rfl

theorem readDigits_of_spells (hr : radix ≤ 16) (h0 : 0 < radix) {cs : List Char} {n : Nat}
    (h : Spells radix cs n) (hn : limit < n) :
    readDigits radix limit overflow 0 cs = .error overflow := by
  obtain ⟨ds, hds, -⟩ := h.2
  have hcases : (∃ m, readDigits radix limit overflow 0 cs = .ok m) ∨
      readDigits radix limit overflow 0 cs = .error overflow := readDigits_cases hr hds 0
  rcases hcases with ⟨m, hm⟩ | herror
  · obtain ⟨hle, hspells⟩ := (readDigits_zero_eq_ok_iff hr h0 overflow h.1 m).mp hm
    have heq := h.unique hr hspells
    omega
  · exact herror

end

theorem readSigned_of_spells (w : Width) {cs : List Char} {n : Nat} (h : Spells 10 cs n) :
    readSigned w cs = (readDigits 10 w.greatest.toNat .tooLarge 0 cs).map Int.ofNat := by
  have hplus : ∀ digits, cs ≠ '+' :: digits := h.head_ne_sign (by omega) (.inl rfl)
  have hminus : ∀ digits, cs ≠ '-' :: digits := h.head_ne_sign (by omega) (.inr rfl)
  unfold readSigned
  split
  · exact absurd rfl h.1
  · exact absurd rfl (hplus [])
  · exact absurd rfl (hminus [])
  · exact absurd rfl (hplus _)
  · exact absurd rfl (hminus _)
  · rfl

theorem readSigned_minus (w : Width) {digits : List Char} (h : digits ≠ []) :
    readSigned w ('-' :: digits) =
      (readDigits 10 w.least.natAbs .tooSmall 0 digits).map fun (n : Nat) => -(n : Int) := by
  cases digits with
  | nil => exact absurd rfl h
  | cons c rest => rfl

theorem readUnsigned_of_spells (w : Width) {radix : Nat} (hr : radix ≤ 16) {cs : List Char}
    {n : Nat} (h : Spells radix cs n) :
    readUnsigned w radix cs = readDigits radix w.greatestUnsigned .tooLarge 0 cs := by
  have hplus : ∀ digits, cs ≠ '+' :: digits := h.head_ne_sign hr (.inl rfl)
  unfold readUnsigned
  split
  · exact absurd rfl h.1
  · exact absurd rfl (hplus [])
  · exact absurd rfl (hplus _)
  · rfl

theorem readUnsigned_minus (w : Width) {radix : Nat} (hr : radix ≤ 16) (digits : List Char) :
    readUnsigned w radix ('-' :: digits) = .error .invalidDigit := by
  have hdigit : digit? radix '-' = none := by
    rw [digit?_eq_filter hr]
    rfl
  show readDigits radix w.greatestUnsigned .tooLarge 0 ('-' :: digits) = _
  rw [readDigits, hdigit]

theorem readSigned_toString (w : Width) {n : Int} (h : ¬ (w.least ≤ n ∧ n ≤ w.greatest)) :
    readSigned w (toString n).toList = .error (if n < 0 then .tooSmall else .tooLarge) := by
  have hleast := natAbs_least w
  have hgreatest := toNat_greatest w
  have hneg := least_neg w
  have hpos := greatest_nonneg w
  rcases toString_cases n with ⟨hn, hdigits⟩ | ⟨hn, digits, hminus, hdigits⟩
  · rw [readSigned_of_spells w hdigits, if_neg (by omega),
      readDigits_of_spells (by omega) (by omega) hdigits (by omega)]
    rfl
  · rw [hminus, readSigned_minus w hdigits.1, if_pos hn,
      readDigits_of_spells (by omega) (by omega) hdigits (by omega)]
    rfl

theorem readUnsigned_toString (w : Width) {n : Int} (h : ¬ (0 ≤ n ∧ n ≤ w.greatestUnsigned)) :
    readUnsigned w 10 (toString n).toList =
      .error (if n < 0 then .invalidDigit else .tooLarge) := by
  rcases toString_cases n with ⟨hn, hdigits⟩ | ⟨hn, digits, hminus, -⟩
  · rw [readUnsigned_of_spells w (by omega) hdigits, if_neg (by omega),
      readDigits_of_spells (by omega) (by omega) hdigits (by omega)]
  · rw [hminus, readUnsigned_minus w (by omega), if_pos hn]

end ObjectFilter.Number
