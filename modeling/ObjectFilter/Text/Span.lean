/-!
# Ranges of code points

A class of characters is a list of closed ranges of code points, in ascending order.  The tables of
the other modules are written in this form; `inSpans` asks whether a character is in the class.
-/

namespace ObjectFilter.Text

/-- a closed range of code points -/
structure Span where
  first : Nat
  last : Nat
deriving DecidableEq, Repr

namespace Span

def covers (s : Span) (n : Nat) : Bool := s.first ≤ n && n ≤ s.last

theorem covers_iff (s : Span) (n : Nat) : s.covers n = true ↔ s.first ≤ n ∧ n ≤ s.last := by
  simp [covers]

end Span

def inSpans (spans : List Span) (c : Char) : Bool := spans.any (·.covers c.toNat)

theorem inSpans_iff (spans : List Span) (c : Char) :
    inSpans spans c = true ↔ ∃ s ∈ spans, s.first ≤ c.toNat ∧ c.toNat ≤ s.last := by
  simp [inSpans, Span.covers_iff]

end ObjectFilter.Text
