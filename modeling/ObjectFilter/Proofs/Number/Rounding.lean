import Mathlib.Data.Nat.Digits.Defs
import ObjectFilter.Number.FloatNumeral
import ObjectFilter.Proofs.Outcome

/-!
# Numbers rounded to single precision

A number is exactly a single-precision number if its significand takes 24 bits at most, its last bit is
worth at least the least positive single-precision number, and it stays below the next power
above the greatest one; the infinities and NaN count too.

* `units_ofUnits`     a count of units with at most 53 significant bits is held exactly;
* `isSingle_round`    rounding to single precision gives a single-precision number, and with it
                      conversion from double precision, from integers and from text.
-/

namespace ObjectFilter.Number.Binary64

/-! ## counts of units -/

theorem log2_lt_of_lt {u b : Nat} (hne : u ≠ 0) (h : u < 2 ^ b) : u.log2 < b :=
  (Nat.log2_lt hne).mpr h

theorem one_eq : one = 2 ^ 1074 := by
  unfold one
  -- with the numeral in its place the power would be evaluated
  generalize 1074 = k
  exact Nat.pow_eq

theorem one_pos : 0 < one := by
  unfold one
  generalize 1074 = k
  exact Nat.two_pow_pos k

theorem infiniteUnits_eq : infiniteUnits = 2 ^ 2098 := by
  unfold infiniteUnits
  generalize 2098 = k
  exact Nat.pow_eq

theorem significand_bounds {u : Nat} (hu : 2 ^ 52 ≤ u) :
    2 ^ 52 ≤ u / 2 ^ (u.log2 - 52) ∧ u / 2 ^ (u.log2 - 52) < 2 ^ 53 := by
  have hne : u ≠ 0 := by omega
  have hlog : 52 ≤ u.log2 := (Nat.le_log2 hne).mpr hu
  have hlow : 2 ^ u.log2 ≤ u := Nat.log2_self_le hne
  have hhigh : u < 2 ^ (u.log2 + 1) := Nat.lt_log2_self
  constructor
  · rw [Nat.le_div_iff_mul_le (Nat.two_pow_pos _), ← Nat.pow_add]
    rwa [Nat.add_sub_cancel' hlog]
  · rw [Nat.div_lt_iff_lt_mul (Nat.two_pow_pos _), ← Nat.pow_add]
    rwa [show 53 + (u.log2 - 52) = u.log2 + 1 by omega]

theorem toNat_bits (negative : Bool) {e : Nat} (he : e < 2 ^ 63) :
    (UInt64.ofNat ((if negative then Nat.pow 2 63 else 0) + e)).toNat =
      (if negative then 2 ^ 63 else 0) + e := by
  refine UInt64.toNat_ofNat_of_lt' ?_
  show (if negative then 2 ^ 63 else 0) + e < 2 ^ 64
  split <;> omega

theorem fields_of_bits (negative : Bool) {e : Nat} (he : e < 2 ^ 63) :
    (⟨UInt64.ofNat ((if negative then Nat.pow 2 63 else 0) + e)⟩ : Binary64).exponent
        = e / 2 ^ 52 ∧
      (⟨UInt64.ofNat ((if negative then Nat.pow 2 63 else 0) + e)⟩ : Binary64).fraction
        = e % 2 ^ 52 := by
  unfold exponent fraction
  rw [toNat_bits negative he]
  simp only [Nat.pow_eq]
  cases negative <;> simp <;> omega

theorem encode_of_large {u : Nat} (hu : 2 ^ 52 ≤ u) :
    encode u = (u.log2 - 51) * 2 ^ 52 + (u / 2 ^ (u.log2 - 52) - 2 ^ 52) := by
  have hlog : 52 ≤ u.log2 := (Nat.le_log2 (by omega)).mpr hu
  have hencode : encode u = (u.log2 - 52 + 1) * 2 ^ 52 + (u / 2 ^ (u.log2 - 52) - 2 ^ 52) :=
    if_neg (Nat.not_lt.mpr hu)
  rw [hencode, show u.log2 - 52 + 1 = u.log2 - 51 by omega]

/-- the exponent of a count of units below infinity is not the one of infinity -/
theorem encode_lt {u : Nat} (hu : u < 2 ^ 2098) : encode u < 2047 * 2 ^ 52 := by
  by_cases hsmall : u < 2 ^ 52
  · have hencode : encode u = u := if_pos hsmall
    omega
  · have hlarge : 2 ^ 52 ≤ u := by omega
    obtain ⟨hlow, hhigh⟩ := significand_bounds hlarge
    have hlog : u.log2 < 2098 := log2_lt_of_lt (by omega) hu
    have hencode := encode_of_large hlarge
    omega

/-- a count of units below infinity, with zeros below its first 53 bits, is held exactly -/
theorem units_ofUnits (negative : Bool) {u : Nat} (hu : u < 2 ^ 2098)
    (hdvd : 2 ^ (u.log2 - 52) ∣ u) : (ofUnits negative u).units = u := by
  unfold ofUnits units
  by_cases hsmall : u < 2 ^ 52
  · have hencode : encode u = u := if_pos hsmall
    rw [hencode]
    obtain ⟨hexponent, hfraction⟩ := fields_of_bits negative (e := u) (by omega)
    rw [hexponent, hfraction, Nat.div_eq_of_lt hsmall, if_pos rfl, Nat.mod_eq_of_lt hsmall]
  · have hlarge : 2 ^ 52 ≤ u := by omega
    obtain ⟨hlow, hhigh⟩ := significand_bounds hlarge
    have hlog : 52 ≤ u.log2 := (Nat.le_log2 (by omega)).mpr hlarge
    have hencode := encode_of_large hlarge
    have hlt := encode_lt hu
    have hfield : u / 2 ^ (u.log2 - 52) - 2 ^ 52 < 2 ^ 52 := by omega
    have hpos : 0 < u.log2 - 51 := by omega
    obtain ⟨hexponent, hfraction⟩ := fields_of_bits negative (e := encode u) (by omega)
    have hdiv : encode u / 2 ^ 52 = u.log2 - 51 := by omega
    have hmod : encode u % 2 ^ 52 = u / 2 ^ (u.log2 - 52) - 2 ^ 52 := by omega
    rw [hexponent, hfraction, hdiv, hmod, if_neg (by omega)]
    simp only [Nat.pow_eq]
    rw [Nat.add_sub_cancel' hlow, show u.log2 - 51 - 1 = u.log2 - 52 by omega]
    exact Nat.div_mul_cancel hdvd

theorem log2_mul_two_pow {m : Nat} (hm : m ≠ 0) (k : Nat) : (m * 2 ^ k).log2 = m.log2 + k := by
  have hne : m * 2 ^ k ≠ 0 := Nat.mul_ne_zero hm (Nat.ne_of_gt (Nat.two_pow_pos k))
  rw [Nat.log2_eq_iff hne]
  have hlow : 2 ^ m.log2 ≤ m := Nat.log2_self_le hm
  have hhigh : m < 2 ^ (m.log2 + 1) := Nat.lt_log2_self
  constructor
  · rw [Nat.pow_add]
    exact Nat.mul_le_mul_right _ hlow
  · rw [show m.log2 + k + 1 = m.log2 + 1 + k by omega, Nat.pow_add 2 (m.log2 + 1)]
    exact Nat.mul_lt_mul_of_pos_right hhigh (Nat.two_pow_pos k)

/-- a significand of 53 bits leaves zeros behind it -/
theorem two_pow_dvd_units {m : Nat} (hm : m < 2 ^ 53) (k : Nat) :
    2 ^ ((m * 2 ^ k).log2 - 52) ∣ m * 2 ^ k := by
  by_cases hzero : m = 0
  · rw [hzero, Nat.zero_mul]
    exact Nat.dvd_zero _
  · have hlog : m.log2 < 53 := log2_lt_of_lt hzero hm
    rw [log2_mul_two_pow hzero]
    exact Nat.dvd_trans (Nat.pow_dvd_pow 2 (by omega)) (Nat.dvd_mul_left _ _)

/-! ## rounding -/

theorem nearest_cases (n d : Nat) :
    (nearest n d = n / d ∧ 2 * (n % d) ≤ d) ∨ (nearest n d = n / d + 1 ∧ d ≤ 2 * (n % d)) := by
  unfold nearest
  dsimp only
  split
  · exact .inl ⟨rfl, by omega⟩
  · split
    · exact .inr ⟨rfl, by omega⟩
    · -- half way, where the parity decides
      rcases Nat.mod_two_eq_zero_or_one (n / d) with h | h
      · exact .inl ⟨by omega, by omega⟩
      · exact .inr ⟨by omega, by omega⟩

theorem nearest_le (n d : Nat) : nearest n d ≤ n / d + 1 := by
  rcases nearest_cases n d with ⟨h, -⟩ | ⟨h, -⟩
  · omega
  · omega

theorem lt_two_pow_length (q : Nat) : q < 2 ^ (if q = 0 then 0 else q.log2 + 1) := by
  split
  · next h =>
    rw [h]
    decide
  · exact Nat.lt_log2_self

/-- the significand that is rounded to has the bits of the format, or is the next power of two -/
theorem nearest_le_two_pow {n d precision shift : Nat} (h : n / d < 2 ^ (precision + shift)) :
    nearest n (d * 2 ^ shift) ≤ 2 ^ precision := by
  have hlt : n / (d * 2 ^ shift) < 2 ^ precision := by
    rw [← Nat.div_div_eq_div_mul, Nat.div_lt_iff_lt_mul (Nat.two_pow_pos _), ← Nat.pow_add]
    exact h
  have hle := nearest_le n (d * 2 ^ shift)
  omega

/-- rounding gives infinity, or a count of units that the format has -/
theorem roundUnits_cases (f : Format) (hf : 0 < f.precision) (n d : Nat) :
    roundUnits f n d = infiniteUnits ∨
      ∃ m k, m < 2 ^ f.precision ∧ f.least ≤ k ∧ roundUnits f n d = m * 2 ^ k ∧
        m * 2 ^ k < f.infinite := by
  unfold roundUnits
  dsimp only
  simp only [Nat.pow_eq]
  have hlength := lt_two_pow_length (n / d)
  generalize (if n / d = 0 then 0 else (n / d).log2 + 1) = length at hlength ⊢
  have hshift : length ≤ f.precision + max (length - f.precision) f.least := by omega
  have hleast : f.least ≤ max (length - f.precision) f.least := by omega
  generalize max (length - f.precision) f.least = shift at hshift hleast ⊢
  have hle : nearest n (d * 2 ^ shift) ≤ 2 ^ f.precision :=
    nearest_le_two_pow (Nat.lt_of_lt_of_le hlength (Nat.pow_le_pow_right (by omega) hshift))
  generalize nearest n (d * 2 ^ shift) = m at hle ⊢
  split
  · exact .inl rfl
  · next hfinite =>
    right
    rw [Nat.not_le] at hfinite
    rcases Nat.lt_or_eq_of_le hle with hm | rfl
    · exact ⟨m, shift, hm, hleast, rfl, hfinite⟩
    · -- the next power of two has a shorter significand
      rw [← Nat.pow_add] at hfinite ⊢
      refine ⟨1, f.precision + shift, Nat.one_lt_two_pow (by omega), by omega, ?_, ?_⟩
      · rw [Nat.one_mul]
      · rwa [Nat.one_mul]

/-! ## single-precision numbers -/

/-- the number is exactly a single-precision number: NaN, an infinity, or of a magnitude below
`2 ^ 128` that is `m * 2 ^ k / 2 ^ 149` with a significand `m` of 24 bits -/
def IsSingle (x : Binary64) : Prop :=
  x.isNaN = true ∨ x.isInfinite = true ∨
    ∃ m k, m < 2 ^ 24 ∧ x.units * 2 ^ 149 = m * 2 ^ k * one ∧ x.units < 2 ^ 128 * one

theorem isSingle_nan (negative : Bool) : (nan negative).IsSingle := by
  left
  cases negative <;> decide +kernel

theorem isSingle_infinity (negative : Bool) : (infinity negative).IsSingle := by
  right
  left
  cases negative <;> decide +kernel

theorem double_infinite : Format.double.infinite = infiniteUnits := by
  simp only [Format.double]

/-- the least positive single-precision number is `2 ^ -149`, and infinity would be `2 ^ 128` -/
theorem single_units :
    2 ^ Format.single.least * 2 ^ 149 = one ∧ Format.single.infinite = 2 ^ 128 * one ∧
      Format.single.infinite < infiniteUnits := by
  decide +kernel

theorem isSingle_ofUnits (negative : Bool) {m k : Nat} (hm : m < 2 ^ Format.single.precision)
    (hk : Format.single.least ≤ k) (hu : m * 2 ^ k < Format.single.infinite) :
    (ofUnits negative (m * 2 ^ k)).IsSingle := by
  obtain ⟨hone, hinfinite, hbelow⟩ := single_units
  have hunits : (ofUnits negative (m * 2 ^ k)).units = m * 2 ^ k := by
    refine units_ofUnits negative ?_ (two_pow_dvd_units ?_ k)
    · rw [← infiniteUnits_eq]
      exact Nat.lt_trans hu hbelow
    · exact Nat.lt_trans hm (by decide)
  refine .inr (.inr ⟨m, k - Format.single.least, hm, ?_, ?_⟩)
  · have hsplit : 2 ^ (k - Format.single.least) * 2 ^ Format.single.least = 2 ^ k := by
      rw [← Nat.pow_add, Nat.sub_add_cancel hk]
    rw [hunits, ← hone, ← Nat.mul_assoc, Nat.mul_assoc m (2 ^ (k - Format.single.least)), hsplit]
  · rw [hunits, ← hinfinite]
    exact hu

theorem isSingle_round (negative : Bool) (n d : Nat) : (round .single negative n d).IsSingle := by
  unfold round
  rcases roundUnits_cases .single (by decide) n d with h | ⟨m, k, hm, hk, h, hu⟩
  · rw [h]
    exact isSingle_infinity negative
  · rw [h]
    exact isSingle_ofUnits negative hm hk hu

theorem isSingle_toSingle (x : Binary64) : x.toSingle.IsSingle := by
  unfold toSingle
  split
  · exact isSingle_nan x.negative
  · exact isSingle_round x.negative x.units 1

theorem isSingle_ofInt (n : Int) : (ofInt .single n).IsSingle := isSingle_round _ _ 1

theorem isSingle_zero (negative : Bool) : (ofUnits negative 0).IsSingle := by
  have hzero : 0 * 2 ^ Format.single.least = 0 := Nat.zero_mul _
  rw [← hzero]
  refine isSingle_ofUnits negative (by decide) (Nat.le_refl _) ?_
  rw [hzero, single_units.2.1]
  exact Nat.mul_pos (Nat.two_pow_pos 128) one_pos

theorem isSingle_ofScientific (negative : Bool) (digits : Nat) (power : Int) :
    (ofScientific .single negative digits power).IsSingle := by
  unfold ofScientific
  dsimp only
  split
  · exact isSingle_zero negative
  · split
    · exact isSingle_infinity negative
    · split
      · exact isSingle_round negative _ _
      · exact isSingle_round negative _ _

theorem isSingle_readMagnitude {negative : Bool} {cs : List Char} {x : Binary64}
    (h : readMagnitude .single negative cs = some x) : x.IsSingle := by
  have hmap : ∀ (digits places : Nat) (power? : Option Int),
      power?.map (fun power => ofScientific .single negative digits (power - places)) = some x →
        x.IsSingle := by
    intro digits places power? hx
    obtain ⟨power, -, hx⟩ := Option.map_eq_some_iff.mp hx
    rw [← hx]
    exact isSingle_ofScientific negative digits _
  unfold readMagnitude at h
  dsimp only at h
  -- with and without a point
  split at h
  · split at h
    · cases h
    · exact hmap _ _ _ h
  · split at h
    · cases h
    · exact hmap _ _ _ h

theorem isSingle_read {cs : List Char} {x : Binary64} (h : read .single cs = .ok x) :
    x.IsSingle := by
  unfold read at h
  dsimp only at h
  split at h
  · cases h
  · split at h
    · rw [← Except.ok.inj h]
      exact isSingle_infinity _
    · split at h
      · rw [← Except.ok.inj h]
        exact isSingle_nan _
      · split at h
        · next hread =>
          rw [← Except.ok.inj h]
          exact isSingle_readMagnitude hread
        · cases h

end ObjectFilter.Number.Binary64
