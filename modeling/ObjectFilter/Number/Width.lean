/-!
# Integer widths

The four widths an integer type may have, with the least and greatest integers of each.
-/

namespace ObjectFilter.Number

inductive Width
  | w8
  | w16
  | w32
  | w64
deriving DecidableEq, Repr

namespace Width

def bits : Width → Nat
  | w8 => 8
  | w16 => 16
  | w32 => 32
  | w64 => 64

/-- how many integers the width tells apart -/
def size (w : Width) : Nat := Nat.pow 2 w.bits

def least (w : Width) : Int := -(Nat.pow 2 (w.bits - 1) : Nat)

def greatest (w : Width) : Int := (Nat.pow 2 (w.bits - 1) : Nat) - 1

def greatestUnsigned (w : Width) : Nat := Nat.pow 2 w.bits - 1

/-- the signed integer with the bit pattern of an unsigned one -/
def reinterpret (w : Width) (n : Nat) : Int := Int.bmod n w.size

/-! ## small facts -/

theorem size_eq (w : Width) : w.size = w.greatestUnsigned + 1 := by cases w <;> decide

theorem reinterpret_bounds (w : Width) (n : Nat) :
    w.least ≤ w.reinterpret n ∧ w.reinterpret n ≤ w.greatest := by
  have hpos : 0 < w.size := by cases w <;> decide
  have h1 := @Int.le_bmod n _ hpos
  have h2 := @Int.bmod_lt n _ hpos
  cases w <;> simp [reinterpret, size, least, greatest, bits] at h1 h2 ⊢ <;> omega

/-! ## words -/

theorem least_eq (w : Width) : w.least = -Int.pow 2 (w.bits - 1) := by cases w <;> decide

theorem greatest_eq (w : Width) : w.greatest = Int.pow 2 (w.bits - 1) - 1 := by cases w <;> decide

theorem toInt_mem (w : Width) (x : BitVec w.bits) : w.least ≤ x.toInt ∧ x.toInt ≤ w.greatest := by
  rw [least_eq, greatest_eq]
  exact ⟨x.le_toInt, Int.le_sub_one_of_lt x.toInt_lt⟩

theorem toInt_ofInt_of_mem (w : Width) {n : Int} (hl : w.least ≤ n) (hg : n ≤ w.greatest) :
    (BitVec.ofInt w.bits n).toInt = n := by
  have hpos : 0 < w.bits := by cases w <;> decide
  rw [least_eq] at hl
  rw [greatest_eq] at hg
  exact BitVec.toInt_ofInt_eq_self hpos hl (Int.lt_of_le_sub_one hg)

theorem toInt_ofNat_of_le {n : UInt64} (h : (n.toNat : Int) ≤ w64.greatest) :
    (Int64.ofNat n.toNat).toInt = n.toNat := by
  have hgreatest : w64.greatest = 2 ^ 63 - 1 := by decide
  have hlt : n.toNat < 2 ^ 63 := by omega
  exact Int64.toInt_ofNat_of_lt hlt

theorem ofNat_eq_of_toNat_eq {k : UInt64} {d : Int64} (h : (k.toNat : Int) = d.toInt) :
    Int64.ofNat k.toNat = d := by
  rw [← Int64.toInt_inj, ← h]
  exact toInt_ofNat_of_le (h ▸ (w64.toInt_mem d.toBitVec).2)

end Width
end ObjectFilter.Number
