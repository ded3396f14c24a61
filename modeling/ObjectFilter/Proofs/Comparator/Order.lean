import ObjectFilter.Comparator

/-!
# The order of values

A comparator compares the kinds of two values first, and within the kind that it is for it goes by a key of
the value.  So its order is a lexicographic one, whatever the kinds: the patchwork of null, a kind of its
own and everything else has no seams.

* `compareValues_eq_then`   kinds first, then the comparator's own kind;
* `transCmp_of_key`         a key within the kinds makes a total preorder;
* `transCmp_compareValues`  every comparator has one.
-/

namespace ObjectFilter

open Number (Binary64)

/-! ## numbers -/

namespace Number.Binary64

/-- the place of a number in the order, nothing for NaN, which is below every place -/
def place? (x : Binary64) : Option Int := if x.isNaN then none else some x.value

theorem compareNumbers_eq (x y : Binary64) : compareNumbers x y = compare x.place? y.place? := by
  unfold compareNumbers partialCompare place?
  cases x.isNaN <;> cases y.isNaN <;> rfl

theorem compareNumbers_nan {x y : Binary64} (hx : x.isNaN = true) (hy : y.isNaN = true) :
    compareNumbers x y = .eq := by
  rw [compareNumbers_eq, place?, place?, if_pos hx, if_pos hy]
  rfl

theorem compareNumbers_nan_left {x y : Binary64} (hx : x.isNaN = true) (hy : y.isNaN = false) :
    compareNumbers x y = .lt := by
  rw [compareNumbers_eq, place?, place?, if_pos hx, if_neg (Bool.eq_false_iff.mp hy)]
  rfl

/-- numbers are compared by what they stand for, so the two zeros are equal -/
theorem compareNumbers_of_value_eq {x y : Binary64} (hx : x.isNaN = false) (hy : y.isNaN = false)
    (h : x.value = y.value) : compareNumbers x y = .eq := by
  rw [compareNumbers_eq, place?, place?, if_neg (Bool.eq_false_iff.mp hx),
    if_neg (Bool.eq_false_iff.mp hy), h]
  exact Std.ReflOrd.compare_self

end Number.Binary64

variable {α : Type}

/-! ## kinds -/

/-- two values of one kind -/
inductive Value.SameKind : Value α → Value α → Prop
  | null : SameKind .null .null
  | bool (b b' : Bool) : SameKind (.bool b) (.bool b')
  | char (c c' : Char) : SameKind (.char c) (.char c')
  | int (n n' : Int64) : SameKind (.int n) (.int n')
  | uint (n n' : UInt64) : SameKind (.uint n) (.uint n')
  | float (x x' : Binary64) : SameKind (.float x) (.float x')
  | text (s s' : String) : SameKind (.text s) (.text s')
  | enum (v v' : EnumValue) : SameKind (.enum v) (.enum v')
  | custom (a a' : α) : SameKind (.custom a) (.custom a')
  | object (a a' : α) : SameKind (.object a) (.object a')

theorem Value.sameKind_iff (a b : Value α) : a.SameKind b ↔ a.rank = b.rank := by
  constructor
  · intro h
    cases h <;> rfl
  · intro h
    cases a <;> cases b <;> first | constructor | cases h

/-- nothing is looked at behind two kinds that differ -/
theorem Value.compare_rank_then {a b : Value α} (h : a.rank ≠ b.rank) (o : Ordering) :
    (compare a.rank b.rank).then o = compare a.rank b.rank := by
  have hne : compare a.rank b.rank ≠ .eq := fun heq => h (Nat.compare_eq_eq.mp heq)
  cases hrank : compare a.rank b.rank with
  | eq => exact absurd hrank hne
  | _ => rfl

def Value.signed? : Value α → Option Int
  | int n => some n.toInt
  | _ => none

def Value.unsigned? : Value α → Option Nat
  | uint n => some n.toNat
  | _ => none

variable [Schema α]

namespace Comparator

/-! ## kinds come first -/

theorem comparePresent?_null (c : Comparator) :
    c.comparePresent? (.null : Value α) .null = none := by
  cases c <;> rfl

theorem comparePresent?_of_rank_ne (c : Comparator) {a b : Value α} (h : a.rank ≠ b.rank) :
    c.comparePresent? a b = none := by
  unfold comparePresent?
  split
  case h_9 => rfl
  all_goals exact absurd rfl h

theorem compareValues_of_rank_ne (c : Comparator) {a b : Value α} (h : a.rank ≠ b.rank) :
    c.compareValues a b = compare a.rank b.rank := by
  have hnone := c.comparePresent?_of_rank_ne h
  unfold compareValues
  split
  · rfl
  · cases b with
    | null => exact absurd rfl h
    | _ => rfl
  · cases a with
    | null => exact absurd rfl h
    | _ => rfl
  · rw [hnone]
    rfl

theorem compareValues_of_sameKind (c : Comparator) {a b : Value α} (h : a.SameKind b) :
    c.compareValues a b = (c.comparePresent? a b).getD .eq := by
  cases h with
  | null =>
    rw [comparePresent?_null]
    rfl
  | _ => rfl

/-- kinds first, and then what the comparator makes of its own kind -/
theorem compareValues_eq_then (c : Comparator) (a b : Value α) :
    c.compareValues a b =
      (compare a.rank b.rank).then ((c.comparePresent? a b).getD .eq) := by
  by_cases h : a.rank = b.rank
  · rw [compareValues_of_sameKind c ((a.sameKind_iff b).mpr h), h, Std.ReflOrd.compare_self]
    rfl
  · rw [compareValues_of_rank_ne c h, Value.compare_rank_then h]

theorem compareValues_null_left (c : Comparator) {a : Value α} (h : a ≠ .null) :
    c.compareValues .null a = .lt := by
  cases a with
  | null => exact absurd rfl h
  | _ => rfl

/-! ## keys within the kinds -/

/-- the comparator is not for compound values, or the value is none of another type than its own -/
def Admits (c : Comparator) (v : Value α) : Prop :=
  ∀ t a, c = custom t → v = .custom a → Schema.typeOf a = t.key

/-- the order of the comparator's compound type is a total preorder -/
def Lawful (α : Type) [Schema α] (c : Comparator) : Prop :=
  ∀ t, c = custom t → t.ordered = true →
    Std.TransCmp fun x y : Instance α t.key => Schema.order x.1 y.1

/-- values that go by a key within each kind make a total preorder -/
theorem transCmp_of_key {κ : Type} [Ord κ] [Std.TransOrd κ] {c : Comparator} (key : Value α → κ)
    (h : ∀ a b : Value α, c.Admits a → c.Admits b → a.SameKind b →
      (c.comparePresent? a b).getD .eq = compare (key a) (key b)) :
    Std.TransCmp fun a b : { v : Value α // c.Admits v } => c.compareValues a.1 b.1 := by
  have hlex : (fun a b : { v : Value α // c.Admits v } => c.compareValues a.1 b.1) =
      compareLex (compareOn fun a => a.1.rank) (compareOn fun a => key a.1) := by
    funext a b
    show _ = (compare a.1.rank b.1.rank).then (compare (key a.1) (key b.1))
    rw [compareValues_eq_then]
    by_cases hrank : a.1.rank = b.1.rank
    · rw [h a.1 b.1 a.2 b.2 ((a.1.sameKind_iff b.1).mpr hrank)]
    · rw [Value.compare_rank_then hrank, Value.compare_rank_then hrank]
  rw [hlex]
  infer_instance

def instance? (t : CustomType) : Value α → Option (Instance α t.key)
  | .custom a => if h : Schema.typeOf a = t.key then some ⟨a, h⟩ else none
  | _ => none

theorem transCmp_custom {t : CustomType} (ht : t.ordered = true)
    (hlawful : Std.TransCmp fun x y : Instance α t.key => Schema.order x.1 y.1) :
    Std.TransCmp fun a b : { v : Value α // (custom t).Admits v } =>
      (custom t).compareValues a.1 b.1 := by
  let _ : Ord (Instance α t.key) := ⟨fun x y => Schema.order x.1 y.1⟩
  have _ : Std.TransOrd (Instance α t.key) := hlawful
  refine transCmp_of_key (instance? t) ?_
  intro a b ha hb hkind
  cases hkind with
  | custom a b =>
    have ha : Schema.typeOf a = t.key := ha t a rfl rfl
    have hb : Schema.typeOf b = t.key := hb t b rfl rfl
    have hcompare : t.compare? a b = some (Schema.order a b) := if_pos ⟨ht, ha, hb⟩
    show (t.compare? a b).getD .eq = _
    unfold instance?
    dsimp only
    rw [hcompare, dif_pos ha, dif_pos hb]
    rfl
  | _ => rfl

theorem transCmp_custom_of_not_ordered {t : CustomType} (ht : t.ordered = false) :
    Std.TransCmp fun a b : { v : Value α // (custom t).Admits v } =>
      (custom t).compareValues a.1 b.1 := by
  refine transCmp_of_key (fun _ => 0) ?_
  intro a b _ _ hkind
  cases hkind with
  | custom a b =>
    have hcompare : t.compare? a b = none := by
      unfold CustomType.compare?
      rw [ht]
      exact if_neg fun h => Bool.false_ne_true h.1
    show (t.compare? a b).getD .eq = _
    rw [hcompare]
    rfl
  | _ => rfl

theorem transCmp_compareValues {c : Comparator} (h : c.Lawful α) :
    Std.TransCmp fun a b : { v : Value α // c.Admits v } => c.compareValues a.1 b.1 := by
  cases c with
  | bool =>
    refine transCmp_of_key (fun v => v.asBool?.map Bool.toNat) ?_
    intro a b _ _ hkind
    cases hkind <;> rfl
  | char =>
    refine transCmp_of_key (fun v => v.asChar?.map Char.toNat) ?_
    intro a b _ _ hkind
    cases hkind <;> rfl
  | int =>
    refine transCmp_of_key Value.signed? ?_
    intro a b _ _ hkind
    cases hkind <;> rfl
  | uint =>
    refine transCmp_of_key Value.unsigned? ?_
    intro a b _ _ hkind
    cases hkind <;> rfl
  | float =>
    refine transCmp_of_key (fun v => v.asFloat?.bind Binary64.place?) ?_
    intro a b _ _ hkind
    cases hkind with
    | float x y => exact x.compareNumbers_eq y
    | _ => rfl
  | text =>
    refine transCmp_of_key (fun v => v.asText?.map fun s => s.toList.map Char.toNat) ?_
    intro a b _ _ hkind
    cases hkind <;> rfl
  | enum =>
    refine transCmp_of_key (fun v => v.asEnum?.map fun e => e.discriminant.toInt) ?_
    intro a b _ _ hkind
    cases hkind <;> rfl
  | custom t =>
    cases ht : t.ordered with
    | true => exact transCmp_custom ht (h t rfl ht)
    | false => exact transCmp_custom_of_not_ordered ht

section
variable {c : Comparator} (hlawful : c.Lawful α) {a b d : Value α} (ha : c.Admits a)
  (hb : c.Admits b)
include hlawful ha hb

theorem compareValues_swap : c.compareValues a b = (c.compareValues b a).swap :=
  (transCmp_compareValues hlawful).toOrientedCmp.eq_swap (a := ⟨a, ha⟩) (b := ⟨b, hb⟩)

variable (hd : c.Admits d)
include hd

theorem compareValues_isLE_trans (hab : (c.compareValues a b).isLE = true)
    (hbd : (c.compareValues b d).isLE = true) : (c.compareValues a d).isLE = true :=
  (transCmp_compareValues hlawful).isLE_trans (a := ⟨a, ha⟩) (b := ⟨b, hb⟩) (c := ⟨d, hd⟩) hab hbd

theorem compareValues_lt_of_lt_of_isLE (hab : c.compareValues a b = .lt)
    (hbd : (c.compareValues b d).isLE = true) : c.compareValues a d = .lt :=
  @Std.TransCmp.lt_of_lt_of_isLE _ _ (transCmp_compareValues hlawful) ⟨a, ha⟩ ⟨b, hb⟩ ⟨d, hd⟩
    hab hbd

theorem compareValues_congr (hab : c.compareValues a b = .eq) :
    c.compareValues a d = c.compareValues b d ∧ c.compareValues d a = c.compareValues d b := by
  have htrans := transCmp_compareValues hlawful
  have hleft := @Std.TransCmp.congr_left _ _ htrans ⟨a, ha⟩ ⟨b, hb⟩ ⟨d, hd⟩ hab
  have hright := @Std.TransCmp.congr_right _ _ htrans ⟨d, hd⟩ ⟨a, ha⟩ ⟨b, hb⟩ hab
  exact ⟨hleft, hright⟩

end

end Comparator
end ObjectFilter
