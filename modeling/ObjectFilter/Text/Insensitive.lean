import ObjectFilter.Text.Case

/-!
# Texts compared without regard to case

Four tests on two texts.  Where both texts are ASCII, parts of the same length are compared letter by
letter (`Ascii`).  Elsewhere (`General`) `equals` and `startsWith` compare the folded characters, and
`endsWith` and `contains` compare the lowercase forms of the whole texts, so that a sigma at the end
of a word counts as final.
-/

namespace ObjectFilter.Text

def isAscii (cs : List Char) : Bool := cs.all (·.toNat < 128)

def asciiLower (cs : List Char) : List Char := cs.map Char.toLower

def hasInfix (cs needle : List Char) : Bool :=
  match cs with
  | [] => needle.isEmpty
  | _ :: rest => needle.isPrefixOf cs || hasInfix rest needle

/-- whether folding the text can change it -/
def needsFold (cs : List Char) : Bool := cs.any fun c => c.isUpper || 128 ≤ c.toNat

/-- the lowercase form of the text; the text itself where folding cannot change it -/
def fold (cs : List Char) : List Char := if needsFold cs then lowerText cs else cs

/-- the parts of the text with a given length, from left to right -/
def windows (length : Nat) (cs : List Char) : List (List Char) :=
  (List.range (cs.length + 1 - length)).map fun i => (cs.drop i).take length

namespace Insensitive

/-! ## the tests on ASCII texts -/

namespace Ascii

def equals (a b : List Char) : Bool := asciiLower a == asciiLower b

def startsWith (s t : List Char) : Bool :=
  t.length ≤ s.length && equals (s.take t.length) t

def endsWith (s t : List Char) : Bool :=
  t.length ≤ s.length && equals (s.drop (s.length - t.length)) t

def contains (s t : List Char) : Bool := t.isEmpty || (windows t.length s).any (equals · t)

end Ascii

/-! ## the tests on all texts -/

namespace General

def equals (a b : List Char) : Bool := folded a == folded b

def startsWith (s t : List Char) : Bool := (folded t).isPrefixOf (folded s)

def endsWith (s t : List Char) : Bool := (fold t).isSuffixOf (fold s)

def contains (s t : List Char) : Bool := hasInfix (fold s) (fold t)

end General

/-- a test on all texts, with a shortcut for two ASCII texts -/
def withShortcut (ascii general : List Char → List Char → Bool) (s t : List Char) : Bool :=
  if isAscii s && isAscii t then ascii s t else general s t

def equals : List Char → List Char → Bool := withShortcut Ascii.equals General.equals

def startsWith : List Char → List Char → Bool := withShortcut Ascii.startsWith General.startsWith

def endsWith : List Char → List Char → Bool := withShortcut Ascii.endsWith General.endsWith

def contains : List Char → List Char → Bool := withShortcut Ascii.contains General.contains

/-- two absent texts are equal, and an absent text equals no text that is there -/
def equalsNullable (a b : Option String) : Bool :=
  match a, b with
  | none, none => true
  | some a, some b => equals a.toList b.toList
  | _, _ => false

end Insensitive

def sameName (a b : String) : Bool := Insensitive.equals a.toList b.toList

/-! ## small facts -/

theorem hasInfix_iff (cs needle : List Char) :
    hasInfix cs needle = true ↔ needle <:+: cs := by
  induction cs with
  | nil => simp [hasInfix]
  | cons c rest ih => simp [hasInfix, ih, List.infix_cons_iff]

theorem length_asciiLower (cs : List Char) : (asciiLower cs).length = cs.length := by
  simp [asciiLower]

theorem Insensitive.equals_self (a : List Char) : Insensitive.equals a a = true := by
  unfold Insensitive.equals withShortcut Ascii.equals General.equals
  split <;> simp

theorem sameName_self (a : String) : sameName a a = true := Insensitive.equals_self a.toList

end ObjectFilter.Text
