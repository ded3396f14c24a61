import ObjectFilter.Document.Scan
import ObjectFilter.Number.Numeral

/-!
# Lines of a YAML document

Blanks, line breaks, comments, and the marks between documents.  What matters of a line break inside a
scalar is the character that it is; `folded` says what several of them in a row stand for.
-/

namespace ObjectFilter.Document.Yaml

/-! ## characters -/

def isSpace (c : Char) : Bool := c = ' ' || c = '\t'

def isBlank (c : Char) : Bool := isSpace c || isLineBreak c

/-- a character that a document may hold -/
def isAllowed (c : Char) : Bool :=
  c = '\t' || c = '\n' || (0x20 ≤ c.toNat && c.toNat ≤ 0x7E)
    || (0xA0 ≤ c.toNat && c.toNat ≠ 0xFFFE && c.toNat ≠ 0xFFFF)

/-- the characters with one line feed for every line end of one or two control characters -/
def normalized : List Char → List Char
  | '\r' :: '\n' :: rest => '\n' :: normalized rest
  | '\r' :: rest => '\n' :: normalized rest
  | '\u0085' :: rest => '\n' :: normalized rest
  | c :: rest => c :: normalized rest
  | [] => []

/-! ## marks -/

/-- whether nothing but a blank, a line break or the end comes next -/
def startsBlank : List Char → Bool
  | [] => true
  | c :: _ => isBlank c

/-- whether the mark comes next, as a word of its own -/
def startsMark (mark : String) (cs : List Char) : Bool :=
  mark.toList.isPrefixOf cs && startsBlank (cs.drop mark.length)

def atDocumentMark : Scan Bool := do
  let cs ← Scan.rest
  return (← Scan.column) = 0 && (startsMark "---" cs || startsMark "..." cs)

/-! ## the end of a line -/

def comment : Scan Unit := do
  if ← Scan.sees (· = '#') then Scan.skipWhile (!isLineBreak ·)

def lineBreak : Scan Unit := do
  if ← Scan.sees isLineBreak then discard Scan.next

/-- only blanks and a comment may be left of the line, which is left out -/
def lineEnd : Scan Unit := do
  Scan.skipWhile isSpace
  comment
  let cs ← Scan.rest
  guard (cs.isEmpty || cs.head?.any isLineBreak)
  lineBreak

/-! ## line breaks inside scalars -/

/-- what line breaks in a row inside a scalar stand for: a line feed alone for a blank, and a line
feed in front of others for nothing -/
def folded : List Char → List Char
  | ['\n'] => [' ']
  | '\n' :: rest => rest
  | breaks => breaks

/-- leaves out blanks and line breaks, and gives the breaks; no tab counts as indentation up to a
column -/
def breaks (indent : Nat) : Nat → Scan (List Char)
  | 0 => return []
  | fuel + 1 => do
    if ← Scan.sees isLineBreak then
      let c ← Scan.next
      Scan.skipWhile (· = ' ')
      return c :: (← breaks indent fuel)
    else if ← Scan.sees isSpace then
      guard (!(← Scan.sees (· = '\t')) || indent ≤ (← Scan.column))
      discard Scan.next
      breaks indent fuel
    else return []

/-- blanks inside a scalar, or the line breaks among them -/
inductive Gap
  | blanks (cs : List Char)
  | breaks (cs : List Char)
deriving DecidableEq, Repr

namespace Gap

def chars : Gap → List Char
  | blanks cs => cs
  | breaks cs => folded cs

def isBroken : Gap → Bool
  | blanks _ => false
  | breaks _ => true

end Gap

/-- leaves out the blanks and line breaks that come next -/
def gap (indent : Nat) : Scan Gap := do
  let cs ← Scan.takeWhile isSpace
  if ← Scan.sees isLineBreak then return .breaks (← breaks indent ((← Scan.rest).length + 1))
  else return .blanks cs

end ObjectFilter.Document.Yaml
