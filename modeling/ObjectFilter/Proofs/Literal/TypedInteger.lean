import ObjectFilter.Proofs.Literal.Typing
import ObjectFilter.Proofs.Number.Nearest

/-!
# Typed integers

An integer that is supplied as such is kept by every type that has it among its values, and is refused by
the others, but for the two floating-point types: these take every integer and keep the nearest of
their numbers.  From 2^53 + 1 on, or 2^24 + 1 in single precision, there are integers that are changed in this
way, and then two of them may come to one constant.

* `denotes_of_coerce?`          a type that is not rounded to keeps the integer that it takes;
* `represents_iff_bits`         which integers a floating-point type has;
* `resolve_typedInteger`        what a typed integer is resolved to.
-/

namespace ObjectFilter

open Number (Width Binary64)

/-! ## integers as literals and as values -/

/-- the literal is the typed integer -/
inductive RawLiteral.IsInteger : RawLiteral → Int → Prop
  | int (d : Int64) : IsInteger (.int d) d.toInt
  | uint (k : UInt64) : IsInteger (.uint k) k.toNat

namespace RawLiteral.IsInteger

variable {raw : RawLiteral} {n : Int} (h : raw.IsInteger n)
include h

theorem isText : raw.isText = false := by
  cases h <;> rfl

theorem display : raw.display = toString n := by
  cases h with
  | int d => rfl
  | uint k => rfl

theorem denotes (t : IntegerType) : t.Denotes raw n := by
  cases h with
  | int d => exact .int t d
  | uint k => exact .uint t k

theorem natAbs_le : n.natAbs ≤ 2 ^ 64 := by
  cases h with
  | int d =>
    have hle := d.le_toInt
    have hlt := d.toInt_lt
    omega
  | uint k =>
    have hlt := k.toNat_lt
    omega

end RawLiteral.IsInteger

/-- the value is the integer, as an integer, as a discriminant or as a floating-point number -/
def Value.DenotesInteger {α : Type} : Value α → Int → Prop
  | .int d, n => d.toInt = n
  | .uint k, n => (k.toNat : Int) = n
  | .enum v, n => v.discriminant.toInt = n
  | .float x, n => x.isFinite = true ∧ x.value = n * Binary64.one
  | _, _ => False

theorem Value.DenotesInteger.unique {α : Type} {v : Value α} {m n : Int} (hm : v.DenotesInteger m)
    (hn : v.DenotesInteger n) : m = n := by
  cases v with
  | int d => exact Eq.trans (Eq.symm hm) hn
  | uint k => exact Eq.trans (Eq.symm hm) hn
  | enum v => exact Eq.trans (Eq.symm hm) hn
  | float x =>
    have hone : (Binary64.one : Int) ≠ 0 := by
      have hpos := Binary64.one_pos
      omega
    exact Int.eq_of_mul_eq_mul_right hone (hm.2.symm.trans hn.2)
  | _ => cases hm

theorem IntegerType.Holds.denotesInteger {α : Type} {t : IntegerType} {v : Value α} {n : Int}
    (h : t.Holds v n) : v.DenotesInteger n := by
  cases t with
  | signed w =>
    cases v with
    | int d => exact h
    | _ => cases h
  | unsigned w =>
    cases v with
    | uint k => exact h
    | _ => cases h

/-- the format of a type of floating-point numbers -/
def ValueType.format? : ValueType → Option Binary64.Format
  | .single => some .single
  | .double => some .double
  | _ => none

/-- some constant of the type is the integer -/
def ValueType.Represents (α : Type) [Schema α] (t : ValueType) (n : Int) : Prop :=
  ∃ v : Value α, (Literal.const v).HasType t ∧ v.DenotesInteger n

/-! ## types that keep the integers they take -/

section
variable {t : ValueType} {raw : RawLiteral} {n : Int} (hraw : raw.IsInteger n)
include hraw

theorem denotes_of_coerce? {α : Type} (ht : t.format? = none) {v : Value α}
    (h : coerce? t raw = some v) : v.DenotesInteger n := by
  have hinteger : ∀ t : IntegerType, coerce? t.type raw = some v → v.DenotesInteger n := by
    intro t hv
    obtain ⟨m, hm, hrange, rfl⟩ := (t.coerce?_eq_some_iff hraw.isText v).mp hv
    obtain rfl := hm.unique (hraw.denotes t)
    exact (t.holds_value hrange.1 hrange.2).denotesInteger
  cases t with
  | signed w => exact hinteger (.signed w) h
  | unsigned w => exact hinteger (.unsigned w) h
  | enum e =>
    cases hraw with
    | int d =>
      obtain ⟨-, hv⟩ := Option.ite_none_right_eq_some.mp h
      cases hv
      rfl
    | uint k =>
      have hmade : coerceUInt? (.enum e) k = some v := h
      rw [coerceUInt?_of_signed rfl, Option.ite_none_right_eq_some, coerceInt?_enum,
        Option.ite_none_right_eq_some] at hmade
      obtain ⟨hk, -, hv⟩ := hmade
      cases hv
      exact Width.toInt_ofNat_of_le hk
  | single => cases ht
  | double => cases ht
  | _ => cases hraw <;> cases h

theorem exists_coerce?_of_represents {α : Type} [Schema α] (h : t.Represents α n) :
    ∃ v : Value α, coerce? t raw = some v := by
  obtain ⟨v, htype, hdenotes⟩ := h
  have hinteger : ∀ t : IntegerType, t.least ≤ n ∧ n ≤ t.greatest →
      ∃ v : Value α, coerce? t.type raw = some v := fun t hrange =>
    ⟨t.value n, (t.coerce?_eq_some_iff hraw.isText _).mpr ⟨n, hraw.denotes t, hrange, rfl⟩⟩
  cases t with
  | signed w =>
    obtain ⟨d, hd, hrange⟩ := htype
    cases hd
    cases hdenotes
    exact hinteger (.signed w) hrange
  | unsigned w =>
    obtain ⟨k, hk, hle⟩ := htype
    cases hk
    cases hdenotes
    exact hinteger (.unsigned w) ⟨Int.natCast_nonneg _, Int.ofNat_le.mpr hle⟩
  | enum e =>
    obtain ⟨d, hd, hmem⟩ := htype
    cases hd
    have hd : d.toInt = n := hdenotes
    have hnames : e.names d = true := (e.names_iff d).mpr hmem
    cases hraw with
    | int c =>
      obtain rfl := Int64.toInt_inj.mp hd
      exact ⟨_, if_pos hnames⟩
    | uint k =>
      have hk : (k.toNat : Int) ≤ Width.w64.greatest := hd ▸ (Width.w64.toInt_mem d.toBitVec).2
      obtain rfl := Width.ofNat_eq_of_toNat_eq hd.symm
      refine ⟨.enum ⟨e, Int64.ofNat k.toNat⟩, ?_⟩
      show coerceUInt? (.enum e) k = _
      rw [coerceUInt?_of_signed rfl, if_pos hk, coerceInt?_enum, if_pos hnames]
  | single => cases hraw <;> exact ⟨_, rfl⟩
  | double => cases hraw <;> exact ⟨_, rfl⟩
  | bool =>
    obtain ⟨b, hb⟩ := htype
    cases hb
    cases hdenotes
  | char =>
    obtain ⟨c, hc⟩ := htype
    cases hc
    cases hdenotes
  | text =>
    rcases htype with hv | ⟨s, hv⟩ <;> cases hv <;> cases hdenotes
  | custom type =>
    obtain ⟨s, hs, -⟩ := htype
    cases hs
  | object key =>
    rcases htype with hv | ⟨s, hv, -⟩
    · cases hv
      cases hdenotes
    · cases hv

end

/-! ## types that are rounded to -/

section
variable {t : ValueType} {f : Binary64.Format} (hf : t.format? = some f)
include hf

theorem holdsWords_of_format? : f.HoldsWords := by
  cases t with
  | single =>
    cases hf
    exact Binary64.holdsWords_single
  | double =>
    cases hf
    exact Binary64.holdsWords_double
  | _ => cases hf

theorem coerce?_of_format? {α : Type} {raw : RawLiteral} {n : Int} (hraw : raw.IsInteger n) :
    (coerce? t raw : Option (Value α)) = some (.float (Binary64.ofInt f n)) := by
  cases t with
  | single =>
    cases hf
    cases hraw <;> rfl
  | double =>
    cases hf
    cases hraw <;> rfl
  | _ => cases hf

theorem denotes_ofInt_iff {α : Type} {raw : RawLiteral} {n : Int} (hraw : raw.IsInteger n) :
    (Value.float (Binary64.ofInt f n) : Value α).DenotesInteger n ↔
      Binary64.SignificantBits f.precision n := by
  have hwords := holdsWords_of_format? hf
  rw [← Binary64.value_ofInt_eq_iff hwords hraw.natAbs_le]
  exact and_iff_right (Binary64.isFinite_ofInt hwords hraw.natAbs_le)

variable {α : Type} [Schema α]

theorem has_of_hasType {v : Value α} (h : (Literal.const v).HasType t) :
    ∃ y, v = .float y ∧ (y.isFinite = true → f.Has y.units) := by
  cases t with
  | single =>
    cases hf
    obtain ⟨y, hy, hsingle⟩ := h
    cases hy
    exact ⟨y, rfl, fun hfinite => Binary64.has_single hfinite hsingle⟩
  | double =>
    cases hf
    obtain ⟨y, hy⟩ := h
    cases hy
    exact ⟨y, rfl, Binary64.has_double⟩
  | _ => cases hf

variable {raw : RawLiteral} {n : Int} (hraw : raw.IsInteger n)
include hraw

/-- a floating-point type has the integers whose significant bits fit -/
theorem represents_iff_bits :
    t.Represents α n ↔ Binary64.SignificantBits f.precision n := by
  constructor
  · rintro ⟨v, htype, hdenotes⟩
    obtain ⟨y, rfl, hhas⟩ := has_of_hasType hf htype
    obtain ⟨hfinite, hvalue⟩ := hdenotes
    have hunits : y.units = n.natAbs * Binary64.one := by
      rw [← Binary64.natAbs_value, hvalue, Int.natAbs_mul, Int.natAbs_natCast]
    rw [← Binary64.has_mul_one_iff (holdsWords_of_format? hf) hraw.natAbs_le, ← hunits]
    exact hhas hfinite
  · intro hbits
    exact ⟨_, hasType_of_coerce? (coerce?_of_format? hf hraw), (denotes_ofInt_iff hf hraw).mpr hbits⟩

/-- no finite number of the type is nearer to the integer than the one that it is converted to -/
theorem ofInt_nearest {y : Binary64} (hfinite : y.isFinite = true)
    (hy : (Literal.const (.float y) : Literal α).HasType t) :
    ((Binary64.ofInt f n).value - n * Binary64.one).natAbs ≤
      (y.value - n * Binary64.one).natAbs := by
  obtain ⟨z, hz, hhas⟩ := has_of_hasType hf hy
  cases hz
  refine Binary64.ofInt_closest (holdsWords_of_format? hf) hraw.natAbs_le ?_
  rw [Binary64.natAbs_value]
  exact hhas hfinite

end

/-! ## resolved literals -/

section
variable {α : Type} [Schema α] {t : ValueType} {raw : RawLiteral} {n : Int}
  (hraw : raw.IsInteger n) (r : Registry α)
include hraw

theorem resolve_of_coerce? {v : Value α} (h : coerce? t raw = some v) :
    r.resolve t raw = .ok (.const v) := by
  rw [Registry.resolve_of_not_isText r t raw hraw.isText, h]

theorem resolve_of_represents (h : t.Represents α n) :
    ∃ v, r.resolve t raw = .ok (.const v) ∧ v.DenotesInteger n := by
  obtain ⟨v, hv⟩ := exists_coerce?_of_represents hraw h
  refine ⟨v, resolve_of_coerce? hraw r hv, ?_⟩
  cases hf : t.format? with
  | none => exact denotes_of_coerce? hraw hf hv
  | some f =>
    rw [coerce?_of_format? hf hraw] at hv
    cases hv
    rw [denotes_ofInt_iff hf hraw]
    exact (represents_iff_bits hf hraw).mp h

theorem resolve_of_not_represents (h : ¬ t.Represents α n) (hf : t.format? = none) :
    r.resolve t raw = .error (.mismatch (toString n) (t.name α)) := by
  rw [Registry.resolve_of_not_isText r t raw hraw.isText, hraw.display]
  cases hv : (coerce? t raw : Option (Value α)) with
  | none => rfl
  | some v => exact absurd ⟨v, hasType_of_coerce? hv, denotes_of_coerce? hraw hf hv⟩ h

end

/-- every type keeps the integers that it has; of the others the floating-point types take the nearest
number, and all other types refuse them -/
theorem resolve_typedInteger {α : Type} [Schema α] (r : Registry α) (t : ValueType)
    {raw : RawLiteral} {n : Int} (hraw : raw.IsInteger n) :
    (t.Represents α n → ∃ v, r.resolve t raw = .ok (.const v) ∧ v.DenotesInteger n) ∧
    (¬ t.Represents α n → t.format? = none →
      r.resolve t raw = .error (.mismatch (toString n) (t.name α))) ∧
    (∀ f, t.format? = some f →
      (t.Represents α n ↔ Binary64.SignificantBits f.precision n) ∧
      ∃ x, r.resolve t raw = .ok (.const (.float x)) ∧ x.isFinite = true ∧
        (Literal.const (.float x) : Literal α).HasType t ∧
        ∀ y, y.isFinite = true → (Literal.const (.float y) : Literal α).HasType t →
          (x.value - n * Binary64.one).natAbs ≤ (y.value - n * Binary64.one).natAbs) ∧
    ∀ (other : RawLiteral) (m : Int) (l : Literal α), other.IsInteger m → m ≠ n →
      r.resolve t raw = .ok l → r.resolve t other = .ok l →
        t.format?.isSome = true ∧ (¬ t.Represents α m ∨ ¬ t.Represents α n) := by
  refine ⟨resolve_of_represents hraw r, resolve_of_not_represents hraw r, ?_, ?_⟩
  · intro f hf
    have hcoerce : (coerce? t raw : Option (Value α)) = some (.float (Binary64.ofInt f n)) :=
      coerce?_of_format? hf hraw
    refine ⟨represents_iff_bits hf hraw, _, resolve_of_coerce? hraw r hcoerce, ?_, ?_, ?_⟩
    · exact Binary64.isFinite_ofInt (holdsWords_of_format? hf) hraw.natAbs_le
    · exact hasType_of_coerce? hcoerce
    · exact fun y hfinite hy => ofInt_nearest hf hraw hfinite hy
  · intro other m l hother hne hn hm
    -- a constant that denotes both integers would make them one
    have hclash : ¬ (t.Represents α m ∧ t.Represents α n) := by
      rintro ⟨hmr, hnr⟩
      obtain ⟨v, hv, hvn⟩ := resolve_of_represents hraw r hnr
      obtain ⟨w, hw, hwm⟩ := resolve_of_represents hother r hmr
      cases hn.symm.trans hv
      cases hm.symm.trans hw
      exact hne (hwm.unique hvn)
    refine ⟨?_, not_and_or.mp hclash⟩
    cases hf : t.format? with
    | some f => rfl
    | none =>
      refine absurd ⟨?_, ?_⟩ hclash
      · by_contra h
        rw [resolve_of_not_represents hother r h hf] at hm
        cases hm
      · by_contra h
        rw [resolve_of_not_represents hraw r h hf] at hn
        cases hn

/-- an integer that single precision rounds, and one that is refused -/
theorem resolve_typedInteger_single :
    RawLiteral.IsInteger (.uint 16777217) 16777217 ∧ RawLiteral.IsInteger (.int 256) 256 ∧
    ¬ ValueType.Represents World.Entity .single 16777217 ∧
    (∃ x, (Registry.defaults : Registry World.Entity).resolve .single (.uint 16777217) =
        .ok (.const (.float x)) ∧ (x.value - 16777217 * Binary64.one).natAbs ≤ Binary64.one) ∧
    (Registry.defaults : Registry World.Entity).resolve (.unsigned .w8) (.int 256) =
      .error (.mismatch "256" "u8") := by
  have hbits : ¬ Binary64.SignificantBits 24 16777217 := by
    rintro ⟨m, k, hm, hk⟩
    cases k with
    | zero => omega
    | succ k =>
      rw [Nat.pow_succ, ← Nat.mul_assoc] at hk
      omega
  have hbyte : ¬ ValueType.Represents World.Entity (.unsigned .w8) 256 := by
    rintro ⟨v, ⟨k, hk, hle⟩, hdenotes⟩
    have hgreatest : Width.w8.greatestUnsigned = 255 := by decide
    cases hk
    have hvalue : (k.toNat : Int) = 256 := hdenotes
    omega
  have hsingle : RawLiteral.IsInteger (.uint 16777217) 16777217 := .uint 16777217
  have hint : RawLiteral.IsInteger (.int 256) 256 := .int 256
  obtain ⟨-, -, hfloat, -⟩ :=
    resolve_typedInteger (.defaults : Registry World.Entity) .single hsingle
  obtain ⟨hrepresents, x, hx, -, -, hnearest⟩ := hfloat .single rfl
  obtain ⟨-, hrefused, -⟩ :=
    resolve_typedInteger (.defaults : Registry World.Entity) (.unsigned .w8) hint
  have hneighbour : (Literal.const (.float (Binary64.ofInt .single 16777216)) :
      Literal World.Entity).HasType .single := ⟨_, rfl, Binary64.isSingle_ofInt _⟩
  have hdistance : ((Binary64.ofInt .single 16777216).value - 16777217 * Binary64.one).natAbs =
      Binary64.one := by decide +kernel
  have hfinite : (Binary64.ofInt .single 16777216).isFinite = true := by decide +kernel
  have hnear := hnearest _ hfinite hneighbour
  rw [hdistance] at hnear
  exact ⟨hsingle, hint, hrepresents.not.mpr hbits, ⟨x, hx, hnear⟩, hrefused hbyte rfl⟩

/-- two integers next to each other come to one number, which is not the greater of them -/
theorem integers_rounded_together :
    ∃ x, (Registry.defaults : Registry World.Entity).resolve .double (.int 9007199254740993) =
        .ok (.const (.float x)) ∧
      (Registry.defaults : Registry World.Entity).resolve .double (.int 9007199254740992) =
        .ok (.const (.float x)) ∧
      ¬ (Value.float x : Value World.Entity).DenotesInteger 9007199254740993 := by
  have hodd : RawLiteral.IsInteger (.int 9007199254740993) 9007199254740993 := .int _
  have heven : RawLiteral.IsInteger (.int 9007199254740992) 9007199254740992 := .int _
  have hround : Binary64.ofInt .double 9007199254740993 =
      Binary64.ofInt .double 9007199254740992 := by decide +kernel
  refine ⟨Binary64.ofInt .double 9007199254740993, ?_, ?_, ?_⟩
  · exact resolve_of_coerce? hodd _ (coerce?_of_format? rfl hodd)
  · rw [hround]
    exact resolve_of_coerce? heven _ (coerce?_of_format? rfl heven)
  · rintro ⟨-, hvalue⟩
    exact absurd hvalue (by decide +kernel)

end ObjectFilter
