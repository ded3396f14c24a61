import Mathlib.Data.List.Forall2

/-!
# Outcomes that can fail

When a computation that can fail gives a result: laws to take such a computation apart without
opening the functions in it.  Where a list is worked through up to its first failure, `FirstRefused`
says which element that is.
-/

namespace ObjectFilter

variable {ε δ β γ : Type}

theorem map_eq_ok_iff (f : β → γ) (x : Except ε β) (c : γ) :
    x.map f = .ok c ↔ ∃ b, x = .ok b ∧ f b = c := by
  cases x <;> simp [Except.map]

theorem map_eq_error_iff (f : β → γ) (x : Except ε β) (e : ε) :
    x.map f = .error e ↔ x = .error e := by
  cases x <;> simp [Except.map]

theorem bind_eq_ok_iff (x : Except ε β) (f : β → Except ε γ) (c : γ) :
    x >>= f = .ok c ↔ ∃ b, x = .ok b ∧ f b = .ok c := by
  cases x with
  | error e => simp [bind, Except.bind]
  | ok b => simp [bind, Except.bind]

theorem bind_eq_error_iff (x : Except ε β) (f : β → Except ε γ) (e : ε) :
    x >>= f = .error e ↔ x = .error e ∨ ∃ b, x = .ok b ∧ f b = .error e := by
  cases x with
  | error e' => simp [bind, Except.bind]
  | ok b => simp [bind, Except.bind]

theorem mapError_eq_ok_iff (f : ε → δ) (x : Except ε β) (b : β) :
    x.mapError f = .ok b ↔ x = .ok b := by
  cases x with
  | error e =>
    constructor
    · intro h
      cases h
    · intro h
      cases h
  | ok c =>
    constructor
    · intro h
      cases h
      rfl
    · intro h
      cases h
      rfl

theorem mapError_eq_error_iff (f : ε → δ) (x : Except ε β) (d : δ) :
    x.mapError f = .error d ↔ ∃ e, x = .error e ∧ f e = d := by
  cases x <;> simp [Except.mapError]

/-- a list is worked through up to the first element that fails behind those in front of it -/
theorem foldlM_eq_error_iff (f : γ → β → Except ε γ) (xs : List β) (e : ε) :
    ∀ c, xs.foldlM f c = .error e ↔
      ∃ i x c', xs[i]? = some x ∧ (xs.take i).foldlM f c = .ok c' ∧ f c' x = .error e := by
  induction xs with
  | nil =>
    intro c
    refine iff_of_false nofun ?_
    rintro ⟨i, x, c', hx, -⟩
    cases hx
  | cons x xs ih =>
    intro c
    rw [List.foldlM_cons, bind_eq_error_iff]
    simp only [ih]
    constructor
    · rintro (h | ⟨d, hd, i, y, c', hy, hfront, h⟩)
      · exact ⟨0, x, c, rfl, rfl, h⟩
      · refine ⟨i + 1, y, c', hy, ?_, h⟩
        rw [List.take_succ_cons, List.foldlM_cons, hd]
        exact hfront
    · rintro ⟨i, y, c', hy, hfront, h⟩
      cases i with
      | zero =>
        cases hy
        cases hfront
        exact .inl h
      | succ i =>
        rw [List.take_succ_cons, List.foldlM_cons, bind_eq_ok_iff] at hfront
        obtain ⟨d, hd, hfront⟩ := hfront
        exact .inr ⟨d, hd, i, y, c', hy, hfront, h⟩

/-! ## lists that are related element by element -/

theorem mapM_eq_some_iff (f : β → Option γ) {xs : List β} {ys : List γ} :
    xs.mapM f = some ys ↔ List.Forall₂ (fun x y => f x = some y) xs ys := by
  induction xs generalizing ys with
  | nil => simp [eq_comm]
  | cons x xs ih =>
    rw [List.mapM_cons, List.forall₂_cons_left_iff]
    simp only [Option.bind_eq_bind, Option.bind_eq_some_iff, Option.pure_def, Option.some.injEq, ih]
    constructor
    · rintro ⟨y, hy, ys', hys', rfl⟩
      exact ⟨y, ys', hy, hys', rfl⟩
    · rintro ⟨y, ys', hy, hys', rfl⟩
      exact ⟨y, hy, ys', hys', rfl⟩

section
variable {R : β → γ → Prop} {xs : List β} {ys : List γ}

theorem exists_of_forall₂_left (h : List.Forall₂ R xs ys) {x : β} (hx : x ∈ xs) :
    ∃ y ∈ ys, R x y := by
  obtain ⟨i, hi, rfl⟩ := List.getElem_of_mem hx
  have hi' : i < ys.length := h.length_eq ▸ hi
  exact ⟨ys[i], List.getElem_mem hi', h.get hi hi'⟩

theorem exists_of_forall₂_right (h : List.Forall₂ R xs ys) {y : γ} (hy : y ∈ ys) :
    ∃ x ∈ xs, R x y :=
  exists_of_forall₂_left h.flip hy

end

/-! ## the first failure in a list -/

/-- the element at the position is refused for the reason, and none in front of it is refused -/
def FirstRefused (refused : β → ε → Prop) (xs : List β) (i : Nat) (e : ε) : Prop :=
  (∃ x, xs[i]? = some x ∧ refused x e) ∧
    ∀ j < i, ∀ x, xs[j]? = some x → ∀ e', ¬ refused x e'

namespace FirstRefused

variable {refused refused' : β → ε → Prop} {x : β} {xs : List β} {i j : Nat} {e e' : ε}

theorem head (h : refused x e) : FirstRefused refused (x :: xs) 0 e := by
  refine ⟨⟨x, rfl, h⟩, ?_⟩
  intro j hj
  omega

theorem cons (hhead : ∀ e, ¬ refused x e) (h : FirstRefused refused xs i e) :
    FirstRefused refused (x :: xs) (i + 1) e := by
  refine ⟨h.1, ?_⟩
  intro j hj y hy
  cases j with
  | zero =>
    cases hy
    exact hhead
  | succ j => exact h.2 j (by omega) y hy

theorem le_of_refused (h : FirstRefused refused xs i e) (hx : xs[j]? = some x)
    (hrefused : refused x e') : i ≤ j := by
  by_contra hlt
  exact h.2 j (Nat.not_le.mp hlt) x hx e' hrefused

theorem unique (hreason : ∀ x e e', refused x e → refused x e' → e = e')
    (h : FirstRefused refused xs i e) (h' : FirstRefused refused xs j e') : i = j ∧ e = e' := by
  obtain ⟨x, hx, hrefused⟩ := h.1
  obtain ⟨y, hy, hrefused'⟩ := h'.1
  obtain rfl : i = j := Nat.le_antisymm (h.le_of_refused hy hrefused') (h'.le_of_refused hx hrefused)
  cases hx.symm.trans hy
  exact ⟨rfl, hreason x e e' hrefused hrefused'⟩

theorem exists_mem (h : FirstRefused refused xs i e) : ∃ x ∈ xs, refused x e := by
  obtain ⟨x, hx, hrefused⟩ := h.1
  exact ⟨x, List.mem_of_getElem? hx, hrefused⟩

/-- where an element fails, one of them is the first -/
theorem exists_of_mem (hx : x ∈ xs) (hrefused : refused x e) :
    ∃ i e, FirstRefused refused xs i e := by
  induction xs with
  | nil => cases hx
  | cons y ys ih =>
    by_cases hhead : ∃ e, refused y e
    · obtain ⟨e, he⟩ := hhead
      exact ⟨0, e, head he⟩
    · rcases List.mem_cons.mp hx with rfl | hx
      · exact absurd ⟨e, hrefused⟩ hhead
      · obtain ⟨i, e', hfirst⟩ := ih hx
        exact ⟨i + 1, e', hfirst.cons (not_exists.mp hhead)⟩

/-- what fails first depends on what is refused in the list only -/
theorem congr (hsame : ∀ x ∈ xs, ∀ e, refused x e ↔ refused' x e)
    (h : FirstRefused refused xs i e) : FirstRefused refused' xs i e := by
  obtain ⟨⟨x, hx, hrefused⟩, hbefore⟩ := h
  refine ⟨⟨x, hx, (hsame x (List.mem_of_getElem? hx) e).mp hrefused⟩, ?_⟩
  intro j hj y hy e' hrefused'
  exact hbefore j hj y hy e' ((hsame y (List.mem_of_getElem? hy) e').mpr hrefused')

end FirstRefused
end ObjectFilter
