import ObjectFilter.Text.Case.Table

/-!
# Case maps

The lowercase form of a character, which may be several characters, and two lowercase forms of a
text.  `folded` maps each character on its own.  `lowerText` knows that a capital sigma at the end
of a word becomes a final sigma, which depends on the characters around it; without a capital
sigma the two agree (`lowerText_eq_folded`).
-/

namespace ObjectFilter.Text

/-- a character with a lowercase or an uppercase form -/
def isCased (c : Char) : Bool := inSpans casedSpans c

/-- a character that case passes over, such as an accent or an apostrophe inside a word -/
def isCaseIgnorable (c : Char) : Bool := inSpans caseIgnorableSpans c

/-! ## one character -/

def lower (c : Char) : List Char :=
  if c = '\u0130' then ['i', '\u0307'] else [Char.ofNat (shifted lowerShifts c.toNat)]

def upper (c : Char) : List Char :=
  match upperExpansions.find? (·.1 == c.toNat) with
  | some (_, form) => form.map Char.ofNat
  | none => [Char.ofNat (shifted upperShifts c.toNat)]

/-! ## texts -/

/-- the lowercase forms of the characters, one after the other -/
def folded (cs : List Char) : List Char := cs.flatMap lower

/-- whether the first character that case does not pass over is cased -/
def meetsCased (cs : List Char) : Bool :=
  match cs.dropWhile isCaseIgnorable with
  | c :: _ => isCased c
  | [] => false

/-- a sigma ends a word: cased characters stand before it and none behind it.
`before` is read backwards. -/
def endsWord (before after : List Char) : Bool := meetsCased before && !meetsCased after

/-- the lowercase form of a text, given what stands before it, read backwards -/
def lowerAfter (before : List Char) : List Char → List Char
  | [] => []
  | c :: rest =>
    (if c = 'Σ' then [if endsWord before rest then 'ς' else 'σ'] else lower c)
      ++ lowerAfter (c :: before) rest

def lowerText (cs : List Char) : List Char := lowerAfter [] cs

/-- the text with its first character in uppercase -/
def capitalized : List Char → List Char
  | [] => []
  | c :: rest => upper c ++ rest

/-! ## small facts -/

theorem folded_nil : folded [] = [] := rfl

theorem folded_cons (c : Char) (cs : List Char) : folded (c :: cs) = lower c ++ folded cs := rfl

theorem folded_append (as bs : List Char) : folded (as ++ bs) = folded as ++ folded bs := by
  simp [folded]

theorem lower_ne_nil (c : Char) : lower c ≠ [] := by
  unfold lower
  split <;> simp

theorem lowerAfter_eq_folded (cs : List Char) (h : 'Σ' ∉ cs) :
    ∀ before, lowerAfter before cs = folded cs := by
  induction cs with
  | nil => intro before; rfl
  | cons c cs ih =>
    intro before
    have hc : c ≠ 'Σ' := fun e => h (e ▸ List.mem_cons_self)
    have hcs : 'Σ' ∉ cs := fun e => h (List.mem_cons_of_mem c e)
    rw [lowerAfter, if_neg hc, ih hcs, folded_cons]

/-- the two lowercase forms differ on capital sigmas only -/
theorem lowerText_eq_folded (cs : List Char) (h : 'Σ' ∉ cs) : lowerText cs = folded cs :=
  lowerAfter_eq_folded cs h []

end ObjectFilter.Text
