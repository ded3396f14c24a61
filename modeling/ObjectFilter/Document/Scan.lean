/-!
# Scanning

Reading a text from its front.  A scan takes some characters away and gives what it made of them, or
fails.  The cursor knows how far it is, and the line and the column it is at, for notations in which
they matter.  A line ends with a line feed or with one of the two separators of lines and paragraphs.
-/

namespace ObjectFilter.Document

def isLineBreak (c : Char) : Bool := c = '\n' || c = '\u2028' || c = '\u2029'

/-- the characters that are left, and the place of the first of them -/
structure Cursor where
  rest : List Char
  index : Nat
  line : Nat
  column : Nat
deriving DecidableEq, Repr

namespace Cursor

def start (cs : List Char) : Cursor := ⟨cs, 0, 0, 0⟩

def next (c : Cursor) : Cursor :=
  match c.rest with
  | [] => c
  | first :: rest =>
    if isLineBreak first then ⟨rest, c.index + 1, c.line + 1, 0⟩
    else ⟨rest, c.index + 1, c.line, c.column + 1⟩

def skip (c : Cursor) : Nat → Cursor
  | 0 => c
  | n + 1 => c.next.skip n

end Cursor

/-- reads from the front of a text, or fails -/
abbrev Scan := StateT Cursor Option

namespace Scan

def rest : Scan (List Char) := do return (← get).rest

def column : Scan Nat := do return (← get).column

def line : Scan Nat := do return (← get).line

/-- the next character, which stays -/
def peek? : Scan (Option Char) := do return (← rest).head?

def sees (p : Char → Bool) : Scan Bool := do return (← peek?).any p

/-- whether the text goes on with the given one -/
def looksAt (s : String) : Scan Bool := do return s.toList.isPrefixOf (← rest)

def next : Scan Char := do
  let c ← get
  match c.rest with
  | [] => failure
  | first :: _ =>
    set c.next
    return first

def takeOneIf (p : Char → Bool) : Scan (Option Char) := do
  if ← sees p then return some (← next) else return none

def take (n : Nat) : Scan (List Char) := do
  let c ← get
  guard (n ≤ c.rest.length)
  set (c.skip n)
  return c.rest.take n

def takeWhile (p : Char → Bool) : Scan (List Char) := do
  let taken := (← rest).takeWhile p
  take taken.length

def skipWhile (p : Char → Bool) : Scan Unit := do discard (takeWhile p)

/-- takes the given text if it comes next -/
def eat (s : String) : Scan Bool := do
  if ← looksAt s then
    discard (take s.length)
    return true
  else return false

/-- takes the given text, which has to come next -/
def demand (s : String) : Scan Unit := do guard (← eat s)

def eatChar (c : Char) : Scan Bool := do
  if ← sees (· = c) then
    discard next
    return true
  else return false

/-- takes the given character, which has to come next -/
def demandChar (c : Char) : Scan Unit := do guard (← eatChar c)

def finish : Scan Unit := do guard (← rest).isEmpty

def run {β : Type} (scan : Scan β) (cs : List Char) : Option β :=
  (StateT.run (do let b ← scan; finish; return b) (Cursor.start cs)).map (·.1)

end Scan
end ObjectFilter.Document
