import Mathlib.Data.Nat.Dist
import ObjectFilter.Proofs.Number.Rounding

/-!
# The nearest number of a format

An integer of 64 bits is far below the infinity of either format, so converting it never overflows: it
gives the nearest number that the format has, and the integer itself if its significant bits fit.

* `roundUnits_closest`      no number of the format is nearer than the rounded one;
* `ofInt_closest`           the same for converted integers, over numbers of either sign;
* `value_ofInt_eq_iff`      an integer is held exactly if the format has it;
* `has_mul_one_iff`         which integers a format has.
-/

namespace ObjectFilter.Number.Binary64

/-! ## the nearest multiple -/

theorem nearest_closest (n : Nat) {d : Nat} (hd : 0 < d) (c : Nat) :
    Nat.dist (nearest n d * d) n ≤ Nat.dist (c * d) n := by
  have hn : n / d * d + n % d = n := Nat.div_add_mod' n d
  have hlt : n % d < d := Nat.mod_lt n hd
  have hside : c * d ≤ n / d * d ∨ (n / d + 1) * d ≤ c * d := by
    rcases Nat.lt_or_ge (n / d) c with h | h
    · exact .inr (Nat.mul_le_mul_right d h)
    · exact .inl (Nat.mul_le_mul_right d h)
  rw [Nat.succ_mul] at hside
  unfold Nat.dist
  rcases nearest_cases n d with ⟨hq, hr⟩ | ⟨hq, hr⟩
  · rw [hq]
    omega
  · rw [hq, Nat.succ_mul]
    omega

/-! ## the numbers of a format -/

/-- the format has the count of units -/
def Format.Has (f : Format) (u : Nat) : Prop :=
  ∃ m k, m < 2 ^ f.precision ∧ f.least ≤ k ∧ u = m * 2 ^ k ∧ u < f.infinite

/-- a format inside double precision that goes beyond the integers of 64 bits -/
structure Format.HoldsWords (f : Format) : Prop where
  precision_pos : 0 < f.precision
  precision_le : f.precision ≤ 53
  least_le : f.least ≤ 1074
  lt_infinite : 2 ^ 64 * one < f.infinite
  infinite_le : f.infinite ≤ infiniteUnits

theorem two_pow_mul_one_lt_single : 2 ^ 64 * one < Format.single.infinite := by
  rw [single_units.2.1]
  exact Nat.mul_lt_mul_of_pos_right (by decide) one_pos

theorem holdsWords_single : Format.single.HoldsWords where
  precision_pos := by decide
  precision_le := by decide
  least_le := by decide
  lt_infinite := two_pow_mul_one_lt_single
  infinite_le := Nat.le_of_lt single_units.2.2

theorem holdsWords_double : Format.double.HoldsWords where
  precision_pos := by decide
  precision_le := by decide
  least_le := by decide
  lt_infinite := by
    rw [double_infinite]
    exact Nat.lt_trans two_pow_mul_one_lt_single single_units.2.2
  infinite_le := Nat.le_of_eq double_infinite

/-- the integer, apart from its sign, has at most so many bits from the first to the last that is set -/
def SignificantBits (bits : Nat) (n : Int) : Prop := ∃ m k, m < 2 ^ bits ∧ n.natAbs = m * 2 ^ k

theorem mul_two_pow_lt {m k bits top : Nat} (hm : m < 2 ^ bits) (hk : bits + k ≤ top) :
    m * 2 ^ k < 2 ^ top := by
  calc m * 2 ^ k < 2 ^ bits * 2 ^ k := Nat.mul_lt_mul_of_pos_right hm (Nat.two_pow_pos k)
    _ = 2 ^ (bits + k) := (Nat.pow_add 2 bits k).symm
    _ ≤ 2 ^ top := Nat.pow_le_pow_right Nat.two_pos hk

/-- bits that were put behind a number are not significant -/
theorem significantBits_of_mul {bits i m k : Nat} {n : Int} (hm : m < 2 ^ bits)
    (h : n.natAbs * 2 ^ i = m * 2 ^ k) : SignificantBits bits n := by
  rcases Nat.le_total i k with hik | hki
  · refine ⟨m, k - i, hm, ?_⟩
    refine Nat.eq_of_mul_eq_mul_right (Nat.two_pow_pos i) ?_
    rw [h, Nat.mul_assoc, ← Nat.pow_add, Nat.sub_add_cancel hik]
  · have hn : n.natAbs * 2 ^ (i - k) = m := by
      refine Nat.eq_of_mul_eq_mul_right (Nat.two_pow_pos k) ?_
      rw [← h, Nat.mul_assoc, ← Nat.pow_add, Nat.sub_add_cancel hki]
    have hle : n.natAbs ≤ m := hn ▸ Nat.le_mul_of_pos_right _ (Nat.two_pow_pos _)
    exact ⟨n.natAbs, 0, Nat.lt_of_le_of_lt hle hm, by rw [Nat.pow_zero, Nat.mul_one]⟩

theorem has_mul_one_iff {f : Format} (hf : f.HoldsWords) {n : Int} (hn : n.natAbs ≤ 2 ^ 64) :
    f.Has (n.natAbs * one) ↔ SignificantBits f.precision n := by
  constructor
  · rintro ⟨m, k, hm, -, hu, -⟩
    rw [one_eq] at hu
    exact significantBits_of_mul hm hu
  · rintro ⟨m, k, hm, hk⟩
    refine ⟨m, k + 1074, hm, ?_, ?_, ?_⟩
    · exact Nat.le_trans hf.least_le (Nat.le_add_left 1074 k)
    · rw [hk, Nat.pow_add, ← Nat.mul_assoc, one_eq]
    · exact Nat.lt_of_le_of_lt (Nat.mul_le_mul_right one hn) hf.lt_infinite

/-- what the integers of 64 bits stay below is a number of the format -/
theorem Format.HoldsWords.has_bound {f : Format} (hf : f.HoldsWords) : f.Has (2 ^ 64 * one) := by
  have hbits : SignificantBits f.precision (2 ^ 64) :=
    ⟨1, 64, Nat.one_lt_two_pow (Nat.ne_of_gt hf.precision_pos), by decide⟩
  have hnat : (2 ^ 64 : Int).natAbs = 2 ^ 64 := by decide
  have hhas := (has_mul_one_iff hf (Nat.le_of_eq hnat)).mpr hbits
  rwa [hnat] at hhas

/-! ## rounding -/

/-- the logarithm of the step between the numbers around a count of units -/
def Format.step (f : Format) (u : Nat) : Nat :=
  max ((if u = 0 then 0 else u.log2 + 1) - f.precision) f.least

theorem roundUnits_one (f : Format) (u : Nat) :
    roundUnits f u 1 =
      if f.infinite ≤ nearest u (2 ^ f.step u) * 2 ^ f.step u then infiniteUnits
      else nearest u (2 ^ f.step u) * 2 ^ f.step u := by
  unfold roundUnits Format.step
  simp only [Nat.div_one, Nat.one_mul, Nat.pow_eq]

/-- a number of the format is a multiple of the step, or below a power of two that is one and that the
units have reached -/
theorem nearest_step_closest {f : Format} (hf : 0 < f.precision) (u : Nat) {c : Nat}
    (hc : f.Has c) :
    Nat.dist (nearest u (2 ^ f.step u) * 2 ^ f.step u) u ≤ Nat.dist c u := by
  obtain ⟨m, k, hm, hk, rfl, -⟩ := hc
  have hclosest := nearest_closest u (Nat.two_pow_pos (f.step u))
  rcases Nat.lt_or_ge k (f.step u) with hlt | hge
  · have hne : u ≠ 0 := by
      rintro rfl
      unfold Format.step at hlt
      rw [if_pos rfl] at hlt
      omega
    have hstep : f.precision + f.step u = u.log2 + 1 := by
      unfold Format.step at hlt ⊢
      rw [if_neg hne] at hlt ⊢
      omega
    have hreached : 2 ^ u.log2 ≤ u := Nat.log2_self_le hne
    have hbelow : m * 2 ^ k < 2 ^ u.log2 := mul_two_pow_lt hm (by omega)
    have hmultiple : 2 ^ u.log2 = 2 ^ (f.precision - 1) * 2 ^ f.step u := by
      rw [← Nat.pow_add]
      congr 1
      omega
    have hpower := hclosest (2 ^ (f.precision - 1))
    rw [← hmultiple] at hpower
    unfold Nat.dist at hpower ⊢
    omega
  · have hmultiple : m * 2 ^ k = m * 2 ^ (k - f.step u) * 2 ^ f.step u := by
      rw [Nat.mul_assoc, ← Nat.pow_add, Nat.sub_add_cancel hge]
    rw [hmultiple]
    exact hclosest _

/-- below a number that the format has, rounding gives the nearest one that it has -/
theorem roundUnits_closest {f : Format} (hf : f.HoldsWords) {u bound : Nat} (hbound : f.Has bound)
    (hu : u ≤ bound) :
    f.Has (roundUnits f u 1) ∧
      ∀ c, f.Has c → Nat.dist (roundUnits f u 1) u ≤ Nat.dist c u := by
  have hclosest : ∀ c, f.Has c →
      Nat.dist (nearest u (2 ^ f.step u) * 2 ^ f.step u) u ≤ Nat.dist c u :=
    fun c hc => nearest_step_closest hf.precision_pos u hc
  have hle : nearest u (2 ^ f.step u) * 2 ^ f.step u ≤ bound := by
    have hnear := hclosest bound hbound
    unfold Nat.dist at hnear
    omega
  have hfinite : bound < f.infinite := by
    obtain ⟨-, -, -, -, -, hlt⟩ := hbound
    exact hlt
  have hround : roundUnits f u 1 = nearest u (2 ^ f.step u) * 2 ^ f.step u := by
    rw [roundUnits_one, if_neg (by omega)]
  constructor
  · rcases roundUnits_cases f hf.precision_pos u 1 with h | ⟨m, k, hm, hk, h, hlt⟩
    · have hinfinite := hf.infinite_le
      omega
    · exact ⟨m, k, hm, hk, h, h ▸ hlt⟩
  · rw [hround]
    exact hclosest

/-! ## numbers from units -/

theorem isFinite_ofUnits (negative : Bool) {u : Nat} (hu : u < 2 ^ 2098) :
    (ofUnits negative u).isFinite = true := by
  have hencode := encode_lt hu
  have hexponent : (ofUnits negative u).exponent = encode u / 2 ^ 52 :=
    (fields_of_bits negative (by omega)).1
  unfold isFinite
  rw [hexponent, bne_iff_ne]
  omega

theorem negative_ofUnits (negative : Bool) {u : Nat} (hu : u < 2 ^ 2098) :
    (ofUnits negative u).negative = negative := by
  have hencode := encode_lt hu
  have hbits : (ofUnits negative u).bits.toNat = (if negative then 2 ^ 63 else 0) + encode u :=
    toNat_bits negative (by omega)
  unfold Binary64.negative
  rw [hbits, Nat.pow_eq]
  cases negative with
  | false =>
    rw [if_neg Bool.false_ne_true, Nat.zero_add]
    exact decide_eq_false (by omega)
  | true =>
    rw [if_pos rfl]
    exact decide_eq_true (Nat.le_add_right _ _)

theorem natAbs_value (x : Binary64) : x.value.natAbs = x.units := by
  unfold value
  split <;> simp

theorem Format.Has.lt {f : Format} (hf : f.HoldsWords) {u : Nat} (hu : f.Has u) : u < 2 ^ 2098 := by
  obtain ⟨-, -, -, -, -, hlt⟩ := hu
  rw [← infiniteUnits_eq]
  exact Nat.lt_of_lt_of_le hlt hf.infinite_le

theorem Format.Has.value_ofUnits {f : Format} (hf : f.HoldsWords) {u : Nat} (hu : f.Has u)
    (negative : Bool) : (ofUnits negative u).value = if negative then -(u : Int) else u := by
  have hlt := hu.lt hf
  obtain ⟨m, k, hm, -, rfl, -⟩ := hu
  have hm53 : m < 2 ^ 53 :=
    Nat.lt_of_lt_of_le hm (Nat.pow_le_pow_right (by omega) hf.precision_le)
  unfold value
  rw [negative_ofUnits negative hlt, units_ofUnits negative hlt (two_pow_dvd_units hm53 k)]

/-! ## integers -/

section
variable {f : Format} (hf : f.HoldsWords) {n : Int} (hn : n.natAbs ≤ 2 ^ 64)
include hf hn

/-- an integer of 64 bits is rounded to a number that the format has, and no other is nearer -/
theorem roundUnits_word :
    f.Has (roundUnits f (n.natAbs * one) 1) ∧
      ∀ c, f.Has c → Nat.dist (roundUnits f (n.natAbs * one) 1) (n.natAbs * one) ≤
        Nat.dist c (n.natAbs * one) :=
  roundUnits_closest hf hf.has_bound (Nat.mul_le_mul_right one hn)

theorem isFinite_ofInt : (ofInt f n).isFinite = true :=
  isFinite_ofUnits _ ((roundUnits_word hf hn).1.lt hf)

theorem value_ofInt : (ofInt f n).value =
    if n < 0 then -(roundUnits f (n.natAbs * one) 1 : Int) else roundUnits f (n.natAbs * one) 1 := by
  have hvalue := (roundUnits_word hf hn).1.value_ofUnits hf (decide (n < 0))
  simp only [decide_eq_true_eq] at hvalue
  exact hvalue

/-- numbers of the other sign are farther away than those of the integer's sign -/
theorem ofInt_closest {s : Int} (hs : f.Has s.natAbs) :
    ((ofInt f n).value - n * one).natAbs ≤ (s - n * one).natAbs := by
  have hclosest := (roundUnits_word hf hn).2 s.natAbs hs
  rw [value_ofInt hf hn]
  generalize roundUnits f (n.natAbs * one) 1 = rounded at hclosest ⊢
  unfold Nat.dist at hclosest
  by_cases hneg : n < 0
  · have hunits : n * one = -((n.natAbs * one : Nat) : Int) := by
      rw [Int.natCast_mul, Int.ofNat_natAbs_of_nonpos (by omega), Int.neg_mul, Int.neg_neg]
    rw [if_pos hneg, hunits]
    omega
  · have hunits : n * one = ((n.natAbs * one : Nat) : Int) := by
      rw [Int.natCast_mul, Int.natAbs_of_nonneg (by omega)]
    rw [if_neg hneg, hunits]
    omega

theorem value_ofInt_eq_iff : (ofInt f n).value = n * one ↔ SignificantBits f.precision n := by
  have hunits : (n * one).natAbs = n.natAbs * one := by rw [Int.natAbs_mul, Int.natAbs_natCast]
  rw [← has_mul_one_iff hf hn]
  constructor
  · intro hvalue
    rw [← hunits, ← hvalue, value_ofInt hf hn]
    have hrounded := (roundUnits_word hf hn).1
    split
    · rw [Int.natAbs_neg, Int.natAbs_natCast]
      exact hrounded
    · rw [Int.natAbs_natCast]
      exact hrounded
  · intro hhas
    rw [← hunits] at hhas
    have hclosest := ofInt_closest hf hn hhas
    omega

end

/-! ## the numbers of the two formats -/

theorem exponent_lt {x : Binary64} (h : x.isFinite = true) : x.exponent < 2047 := by
  have hlt : x.exponent < 2048 := Nat.mod_lt _ (by decide)
  unfold isFinite at h
  rw [bne_iff_ne] at h
  omega

theorem has_double {x : Binary64} (h : x.isFinite = true) : Format.double.Has x.units := by
  have hexponent := exponent_lt h
  have hfraction : x.fraction < 2 ^ 52 := Nat.mod_lt _ (by decide)
  have hinfinite : Format.double.infinite = 2 ^ 2098 := by rw [double_infinite, infiniteUnits_eq]
  unfold units
  by_cases hzero : x.exponent = 0
  · rw [if_pos hzero]
    have hm : x.fraction < 2 ^ 53 := by omega
    have hunits : x.fraction = x.fraction * 2 ^ 0 := by rw [Nat.pow_zero, Nat.mul_one]
    refine ⟨x.fraction, 0, hm, Nat.zero_le 0, hunits, ?_⟩
    rw [hunits, hinfinite]
    exact mul_two_pow_lt hm (by omega)
  · rw [if_neg hzero, Nat.pow_eq, Nat.pow_eq]
    have hm : 2 ^ 52 + x.fraction < 2 ^ 53 := by omega
    refine ⟨2 ^ 52 + x.fraction, x.exponent - 1, hm, Nat.zero_le _, rfl, ?_⟩
    rw [hinfinite]
    exact mul_two_pow_lt hm (by omega)

theorem has_single {x : Binary64} (h : x.isFinite = true) (hx : x.IsSingle) :
    Format.single.Has x.units := by
  have hexponent := exponent_lt h
  rcases hx with hnan | hinfinite | ⟨m, k, hm, hunits, hlt⟩
  · unfold isNaN at hnan
    rw [Bool.and_eq_true, beq_iff_eq] at hnan
    omega
  · unfold isInfinite at hinfinite
    rw [Bool.and_eq_true, beq_iff_eq] at hinfinite
    omega
  · obtain ⟨hone, hinfinite, -⟩ := single_units
    have hshift : x.units = m * 2 ^ (k + Format.single.least) := by
      refine Nat.eq_of_mul_eq_mul_right (Nat.two_pow_pos 149) ?_
      rw [hunits, ← hone, Nat.pow_add, ← Nat.mul_assoc, ← Nat.mul_assoc]
    exact ⟨m, _, hm, Nat.le_add_left _ k, hshift, hinfinite ▸ hlt⟩

end ObjectFilter.Number.Binary64
