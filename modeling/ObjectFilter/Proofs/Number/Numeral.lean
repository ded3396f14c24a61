import Mathlib.Data.Nat.Digits.Defs
import Mathlib.Data.List.Forall2
import ObjectFilter.Number.Numeral
import ObjectFilter.Proofs.Outcome

/-!
# What integer numerals spell

The readers of integers check the range digit by digit.  Here a numeral is a row of written digits and
its value is the positional one, and the readers are shown to accept exactly the numerals whose
value is in range:

* `readUnsigned_eq_ok_iff`   digits, one plus sign allowed in front, and the value fits the width;
* `readSigned_eq_ok_iff`     the same with one minus sign allowed, the value between the bounds.
-/

namespace ObjectFilter.Number

/-- the digits in order, letters standing for ten and above -/
def digitRow : List Char := "0123456789abcdef".toList

/-- the character writes the digit; capital and small letters write the same -/
def Writes (radix : Nat) (c : Char) (d : Nat) : Prop :=
  d < radix ∧ digitRow[d]? = some c.toLower

/-- the characters are a row of digits, not an empty one, with the value `n` -/
def Spells (radix : Nat) (cs : List Char) (n : Nat) : Prop :=
  cs ≠ [] ∧ ∃ ds, List.Forall₂ (Writes radix) cs ds ∧ n = Nat.ofDigits radix ds.reverse

/-- digits that may have one plus sign in front -/
def SpellsUnsigned (radix : Nat) (cs : List Char) (n : Nat) : Prop :=
  Spells radix cs n ∨ ∃ digits, cs = '+' :: digits ∧ Spells radix digits n

/-- decimal digits that may have one sign in front -/
def SpellsSigned (cs : List Char) (m : Int) : Prop :=
  (∃ n : Nat, SpellsUnsigned 10 cs n ∧ m = n)
    ∨ ∃ digits, ∃ n : Nat, cs = '-' :: digits ∧ Spells 10 digits n ∧ m = -n

/-! ## one digit -/

/-- what holds of the 128 characters of ASCII holds of every character among them -/
theorem of_ascii (P : Char → Prop) (h : ∀ n < 128, P (Char.ofNat n)) {c : Char}
    (hc : c.toNat < 128) : P c := by
  have hchar := h c.toNat hc
  rwa [Char.ofNat_toNat] at hchar

theorem digit?_ascii :
    ∀ n < 128, ∀ d < 16, digit? 16 (Char.ofNat n) = some d ↔
      digitRow[d]? = some (Char.ofNat n).toLower := by
  decide +kernel

theorem not_le_of_not_ascii {c : Char} (h : 128 ≤ c.toNat) {b : UInt32} (hb : b.toNat < 128) :
    ¬ c.val ≤ b := by
  have hc : c.val.toNat = c.toNat := rfl
  rw [UInt32.le_iff_toNat_le]
  omega

theorem digit?_of_not_ascii (radix : Nat) (c : Char) (h : 128 ≤ c.toNat) :
    digit? radix c = none := by
  have hd : c.isDigit = false := by
    show (decide ('0'.val ≤ c.val) && decide (c.val ≤ '9'.val)) = false
    rw [decide_eq_false (not_le_of_not_ascii h (by decide)), Bool.and_false]
  have hl : c.isLower = false := by
    show (decide ('a'.val ≤ c.val) && decide (c.val ≤ 'z'.val)) = false
    rw [decide_eq_false (not_le_of_not_ascii h (by decide)), Bool.and_false]
  have hu : c.isUpper = false := by
    show decide ('A'.val ≤ c.val ∧ c.val ≤ 'Z'.val) = false
    exact decide_eq_false fun hc => not_le_of_not_ascii h (by decide) hc.2
  simp [digit?, hd, hl, hu]

theorem toLower_of_not_ascii (c : Char) (h : 128 ≤ c.toNat) : c.toLower = c := by
  unfold Char.toLower
  rw [dif_neg fun hc => not_le_of_not_ascii h (by decide) hc.2]

theorem digit?_eq_filter {radix : Nat} (hr : radix ≤ 16) (c : Char) :
    digit? radix c = (digit? 16 c).filter (· < radix) := by
  simp only [digit?, Option.filter_filter]
  congr 1
  funext d
  by_cases h : d < radix
  · simp [h, Nat.lt_of_lt_of_le h hr]
  · simp [h]

theorem digit?_eq_some_iff {radix : Nat} (hr : radix ≤ 16) (c : Char) (d : Nat) :
    digit? radix c = some d ↔ Writes radix c d := by
  have h16 : d < radix → (digit? 16 c = some d ↔ digitRow[d]? = some c.toLower) := by
    intro hd
    by_cases hc : c.toNat < 128
    · exact of_ascii (fun c => digit? 16 c = some d ↔ digitRow[d]? = some c.toLower)
        (fun n hn => digit?_ascii n hn d (Nat.lt_of_lt_of_le hd hr)) hc
    · rw [digit?_of_not_ascii 16 c (by omega), toLower_of_not_ascii c (by omega)]
      refine ⟨?_, ?_⟩
      · intro h
        cases h
      · intro h
        have hrow : digitRow.all (fun x => decide (x.toNat < 128)) = true := by decide
        have hlt := List.all_eq_true.mp hrow c (List.mem_of_getElem? h)
        exact absurd (decide_eq_true_iff.mp hlt) hc
  rw [digit?_eq_filter hr, Option.filter_eq_some_iff, decide_eq_true_eq, Writes, and_comm]
  exact and_congr_right h16

theorem not_writes_sign {radix : Nat} (hr : radix ≤ 16) {c : Char} (hc : c = '+' ∨ c = '-')
    (d : Nat) : ¬ Writes radix c d := by
  rw [← digit?_eq_some_iff hr, digit?_eq_filter hr]
  have hnone : digit? 16 c = none := by rcases hc with rfl | rfl <;> decide
  rw [hnone]
  intro h
  cases h

/-! ## rows of digits -/

/-- a row of digits never falls below what was read before it, so only the last value counts -/
theorem readDigits_eq_ok_iff {radix limit : Nat} (hr : radix ≤ 16) (h0 : 0 < radix)
    (overflow : NumeralError) (cs : List Char) :
    ∀ (acc n : Nat), acc ≤ limit →
      (readDigits radix limit overflow acc cs = .ok n ↔
        n ≤ limit ∧ ∃ ds, List.Forall₂ (Writes radix) cs ds ∧
          n = acc * radix ^ cs.length + Nat.ofDigits radix ds.reverse) := by
  induction cs with
  | nil =>
    intro acc n hacc
    simp only [readDigits_nil, Except.ok.injEq, List.forall₂_nil_left_iff, exists_eq_left,
      List.length_nil, pow_zero, mul_one, List.reverse_nil, Nat.ofDigits_nil, add_zero]
    refine ⟨?_, ?_⟩
    · rintro rfl
      exact ⟨hacc, rfl⟩
    · intro h
      obtain ⟨-, rfl⟩ := h
      rfl
  | cons c cs ih =>
    intro acc n hacc
    rw [readDigits]
    cases hd : digit? radix c with
    | none =>
      simp only [reduceCtorEq, List.forall₂_cons_left_iff, false_iff]
      intro h
      obtain ⟨-, ds, ⟨d, us, hw, -, -⟩, -⟩ := h
      rw [← digit?_eq_some_iff hr, hd] at hw
      cases hw
    | some d =>
      have hw : ∀ e, Writes radix c e ↔ e = d := by
        intro e
        rw [← digit?_eq_some_iff hr, hd, Option.some_inj, eq_comm]
      -- the first digit moves into the part that was read already
      have hstep : (∃ ds, List.Forall₂ (Writes radix) (c :: cs) ds ∧
            n = acc * radix ^ (cs.length + 1) + Nat.ofDigits radix ds.reverse) ↔
          ∃ us, List.Forall₂ (Writes radix) cs us ∧
            n = (acc * radix + d) * radix ^ cs.length + Nat.ofDigits radix us.reverse := by
        have hval : ∀ us, List.Forall₂ (Writes radix) cs us →
            acc * radix ^ (cs.length + 1) + Nat.ofDigits radix (d :: us).reverse
              = (acc * radix + d) * radix ^ cs.length + Nat.ofDigits radix us.reverse := by
          intro us hus
          rw [Nat.ofDigits_reverse_cons, ← hus.length_eq]
          ring
        refine ⟨?_, ?_⟩
        · intro h
          obtain ⟨_, hds, rfl⟩ := h
          obtain ⟨e, us, he, hus, rfl⟩ := List.forall₂_cons_left_iff.mp hds
          rw [hw] at he
          subst he
          exact ⟨us, hus, hval us hus⟩
        · intro h
          obtain ⟨us, hus, rfl⟩ := h
          exact ⟨d :: us, .cons ((hw d).mpr rfl) hus, (hval us hus).symm⟩
      rw [List.length_cons, hstep]
      dsimp only
      split
      · next hle => rw [ih _ n hle]
      · next hlt =>
        simp only [reduceCtorEq, false_iff]
        intro h
        obtain ⟨hn, us, -, rfl⟩ := h
        have hpos : 1 ≤ radix ^ cs.length := Nat.one_le_pow _ _ h0
        have hmul := Nat.mul_le_mul_left (acc * radix + d) hpos
        omega

theorem readDigits_zero_eq_ok_iff {radix limit : Nat} (hr : radix ≤ 16) (h0 : 0 < radix)
    (overflow : NumeralError) {cs : List Char} (hcs : cs ≠ []) (n : Nat) :
    readDigits radix limit overflow 0 cs = .ok n ↔ n ≤ limit ∧ Spells radix cs n := by
  rw [readDigits_eq_ok_iff hr h0 overflow cs 0 n (Nat.zero_le _)]
  simp [Spells, hcs]

theorem Writes.unique {radix : Nat} (hr : radix ≤ 16) {c : Char} {d e : Nat}
    (hd : Writes radix c d) (he : Writes radix c e) : d = e := by
  rw [← digit?_eq_some_iff hr] at hd he
  rw [hd] at he
  exact Option.some_inj.mp he

theorem Spells.unique {radix : Nat} (hr : radix ≤ 16) {cs : List Char} {m n : Nat}
    (hm : Spells radix cs m) (hn : Spells radix cs n) : m = n := by
  obtain ⟨-, ds, hds, rfl⟩ := hm
  obtain ⟨-, es, hes, rfl⟩ := hn
  have hunique : Relator.RightUnique (Writes radix) := fun _ _ _ => Writes.unique hr
  rw [List.right_unique_forall₂' hunique hds hes]

theorem Spells.head_ne_sign {radix : Nat} (hr : radix ≤ 16) {cs : List Char} {n : Nat}
    (h : Spells radix cs n) {c : Char} (hc : c = '+' ∨ c = '-') (rest : List Char) :
    cs ≠ c :: rest := by
  rintro rfl
  obtain ⟨-, ds, hds, -⟩ := h
  obtain ⟨d, -, hw, -, -⟩ := List.forall₂_cons_left_iff.mp hds
  exact not_writes_sign hr hc d hw

/-! ## signed and unsigned numerals -/

theorem spellsUnsigned_of_sign {radix : Nat} (hr : radix ≤ 16) {c : Char} (hc : c = '+' ∨ c = '-')
    (digits : List Char) (n : Nat) :
    SpellsUnsigned radix (c :: digits) n ↔ c = '+' ∧ Spells radix digits n := by
  refine ⟨?_, ?_⟩
  · intro h
    rcases h with h | ⟨ds, hds, h⟩
    · exact absurd rfl (h.head_ne_sign hr hc digits)
    · cases hds
      exact ⟨rfl, h⟩
  · intro h
    obtain ⟨rfl, h⟩ := h
    exact .inr ⟨digits, rfl, h⟩

theorem spellsUnsigned_of_ne_plus {radix : Nat} {cs : List Char}
    (hcs : ∀ digits, cs ≠ '+' :: digits) (n : Nat) :
    SpellsUnsigned radix cs n ↔ Spells radix cs n := by
  refine ⟨?_, ?_⟩
  · intro h
    rcases h with h | ⟨ds, hds, -⟩
    · exact h
    · exact absurd hds (hcs ds)
  · exact .inl

theorem SpellsUnsigned.unique {radix : Nat} (hr : radix ≤ 16) {cs : List Char} {m n : Nat}
    (hm : SpellsUnsigned radix cs m) (hn : SpellsUnsigned radix cs n) : m = n := by
  rcases hm with hm | ⟨digits, rfl, hm⟩
  · have hplus : ∀ digits, cs ≠ '+' :: digits := fun digits => hm.head_ne_sign hr (.inl rfl) digits
    exact hm.unique hr ((spellsUnsigned_of_ne_plus hplus n).mp hn)
  · exact hm.unique hr ((spellsUnsigned_of_sign hr (.inl rfl) digits n).mp hn).2

theorem SpellsSigned.unique {cs : List Char} {m n : Int}
    (hm : SpellsSigned cs m) (hn : SpellsSigned cs n) : m = n := by
  have hminus : ∀ digits (k : Nat), ¬ SpellsUnsigned 10 ('-' :: digits) k := by
    intro digits k h
    have hc := ((spellsUnsigned_of_sign (by omega) (.inr rfl) digits k).mp h).1
    exact absurd hc (by decide)
  rcases hm with ⟨m, hm, rfl⟩ | ⟨digits, m, rfl, hm, rfl⟩
  · rcases hn with ⟨n, hn, rfl⟩ | ⟨digits, n, rfl, -, -⟩
    · rw [hm.unique (by omega) hn]
    · exact absurd hm (hminus digits m)
  · rcases hn with ⟨n, hn, rfl⟩ | ⟨others, n, hds, hn, rfl⟩
    · exact absurd hn (hminus digits n)
    · cases hds
      rw [hm.unique (by omega) hn]

theorem Spells.exists_writes {radix : Nat} {cs : List Char} {n : Nat} (h : Spells radix cs n)
    {c : Char} (hc : c ∈ cs) : ∃ d, Writes radix c d := by
  obtain ⟨-, ds, hds, -⟩ := h
  obtain ⟨d, -, hd⟩ := exists_of_forall₂_left hds hc
  exact ⟨d, hd⟩

theorem SpellsSigned.sign_or_writes {cs : List Char} {m : Int} (h : SpellsSigned cs m) {c : Char}
    (hc : c ∈ cs) : (c = '+' ∨ c = '-') ∨ ∃ d, Writes 10 c d := by
  rcases h with ⟨n, hn | ⟨digits, rfl, hn⟩, -⟩ | ⟨digits, n, rfl, hn, -⟩
  · exact .inr (hn.exists_writes hc)
  · rcases List.mem_cons.mp hc with rfl | hc
    · exact .inl (.inl rfl)
    · exact .inr (hn.exists_writes hc)
  · rcases List.mem_cons.mp hc with rfl | hc
    · exact .inl (.inr rfl)
    · exact .inr (hn.exists_writes hc)

theorem not_spells_zero_x {x : Char} (hx : x = 'x' ∨ x = 'X') (digits : List Char) (n : Nat) :
    ¬ Spells 10 ('0' :: x :: digits) n := by
  intro h
  obtain ⟨-, ds, hds, -⟩ := h
  obtain ⟨-, us, -, hus, -⟩ := List.forall₂_cons_left_iff.mp hds
  obtain ⟨d, -, hd, -, -⟩ := List.forall₂_cons_left_iff.mp hus
  rw [← digit?_eq_some_iff (by omega)] at hd
  have hnone : digit? 10 x = none := by rcases hx with rfl | rfl <;> decide
  rw [hnone] at hd
  cases hd

theorem not_spellsUnsigned_zero_x {x : Char} (hx : x = 'x' ∨ x = 'X') (digits : List Char)
    (n : Nat) : ¬ SpellsUnsigned 10 ('0' :: x :: digits) n := by
  intro h
  rcases h with h | ⟨ds, hds, -⟩
  · exact not_spells_zero_x hx digits n h
  · cases hds

theorem not_spellsSigned_zero_x {x : Char} (hx : x = 'x' ∨ x = 'X') (digits : List Char)
    (m : Int) : ¬ SpellsSigned ('0' :: x :: digits) m := by
  intro h
  rcases h with ⟨n, h, -⟩ | ⟨ds, n, hds, -⟩
  · exact not_spellsUnsigned_zero_x hx digits n h
  · cases hds

theorem readUnsigned_eq_ok_iff (w : Width) {radix : Nat} (hr : radix ≤ 16) (h0 : 0 < radix)
    (cs : List Char) (n : Nat) :
    readUnsigned w radix cs = .ok n ↔ n ≤ w.greatestUnsigned ∧ SpellsUnsigned radix cs n := by
  unfold readUnsigned
  split
  · simp [SpellsUnsigned, Spells]
  · rw [spellsUnsigned_of_sign hr (.inl rfl)]
    simp [Spells]
  · next digits hne =>
    rw [readDigits_zero_eq_ok_iff hr h0 _ hne, spellsUnsigned_of_sign hr (.inl rfl)]
    simp
  · next hnil _ hplus =>
    rw [readDigits_zero_eq_ok_iff hr h0 _ hnil, spellsUnsigned_of_ne_plus hplus]

theorem natAbs_least (w : Width) : (w.least.natAbs : Int) = -w.least := by
  cases w <;> rfl

theorem toNat_greatest (w : Width) : (w.greatest.toNat : Int) = w.greatest := by
  cases w <;> rfl

theorem least_neg (w : Width) : w.least < 0 := by
  cases w <;> decide

theorem greatest_nonneg (w : Width) : 0 ≤ w.greatest := by
  cases w <;> decide

/-- digits that count upwards from zero -/
theorem map_ofNat_eq_ok_iff (w : Width) {digits : List Char} (hne : digits ≠ []) (m : Int) :
    (readDigits 10 w.greatest.toNat .tooLarge 0 digits).map Int.ofNat = .ok m ↔
      (w.least ≤ m ∧ m ≤ w.greatest) ∧ ∃ n : Nat, Spells 10 digits n ∧ m = n := by
  have hbound := toNat_greatest w
  have hneg := least_neg w
  rw [map_eq_ok_iff]
  refine ⟨?_, ?_⟩
  · intro h
    obtain ⟨n, hn, rfl⟩ := h
    rw [readDigits_zero_eq_ok_iff (by omega) (by omega) _ hne] at hn
    refine ⟨?_, n, hn.2, rfl⟩
    rw [Int.ofNat_eq_natCast]
    omega
  · intro h
    obtain ⟨hrange, n, hs, rfl⟩ := h
    refine ⟨n, ?_, rfl⟩
    rw [readDigits_zero_eq_ok_iff (by omega) (by omega) _ hne]
    exact ⟨by omega, hs⟩

/-- digits that count downwards from zero -/
theorem map_neg_eq_ok_iff (w : Width) {digits : List Char} (hne : digits ≠ []) (m : Int) :
    (readDigits 10 w.least.natAbs .tooSmall 0 digits).map (fun (n : Nat) => -(n : Int)) = .ok m ↔
      (w.least ≤ m ∧ m ≤ w.greatest) ∧ ∃ n : Nat, Spells 10 digits n ∧ m = -n := by
  have hbound := natAbs_least w
  have hpos := greatest_nonneg w
  rw [map_eq_ok_iff]
  refine ⟨?_, ?_⟩
  · intro h
    obtain ⟨n, hn, rfl⟩ := h
    rw [readDigits_zero_eq_ok_iff (by omega) (by omega) _ hne] at hn
    exact ⟨by omega, n, hn.2, rfl⟩
  · intro h
    obtain ⟨hrange, n, hs, rfl⟩ := h
    refine ⟨n, ?_, rfl⟩
    rw [readDigits_zero_eq_ok_iff (by omega) (by omega) _ hne]
    exact ⟨by omega, hs⟩

theorem readSigned_eq_ok_iff (w : Width) (cs : List Char) (m : Int) :
    readSigned w cs = .ok m ↔ (w.least ≤ m ∧ m ≤ w.greatest) ∧ SpellsSigned cs m := by
  unfold readSigned
  split
  · simp [SpellsSigned, SpellsUnsigned, Spells]
  · simp [SpellsSigned, spellsUnsigned_of_sign, Spells]
  · simp [SpellsSigned, spellsUnsigned_of_sign, Spells]
  · next digits hne =>
    rw [map_ofNat_eq_ok_iff w hne]
    simp [SpellsSigned, spellsUnsigned_of_sign]
  · next digits hne =>
    rw [map_neg_eq_ok_iff w hne]
    simp [SpellsSigned, spellsUnsigned_of_sign]
  · next hnil _ _ hplus hminus =>
    rw [map_ofNat_eq_ok_iff w hnil]
    have hno : ¬ ∃ digits, ∃ n : Nat, cs = '-' :: digits ∧ Spells 10 digits n ∧ m = -n := by
      intro h
      obtain ⟨digits, n, h, -⟩ := h
      exact hminus digits h
    rw [SpellsSigned, or_iff_left hno]
    simp [spellsUnsigned_of_ne_plus hplus]

end ObjectFilter.Number
