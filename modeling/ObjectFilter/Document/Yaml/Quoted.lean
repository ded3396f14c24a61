import ObjectFilter.Document.Yaml.Line

/-!
# Quoted scalars

Scalars in single or double quotes.  Blanks that touch a line break go away, and line breaks are folded;
in double quotes a backslash at the end of a line takes the line break away as well.  No mark between
documents may stand inside.
-/

namespace ObjectFilter.Document.Yaml

def codedChar (count : Nat) : Scan Char := do
  match (← Scan.take count).mapM (Number.digit? 16) with
  | none => failure
  | some digits =>
    let n := digits.foldl (16 * · + ·) 0
    guard n.isValidChar
    return Char.ofNat n

/-- the characters that a letter behind a backslash stands for -/
def escapes : List (Char × Char) :=
  [('0', '\x00'), ('a', '\x07'), ('b', '\x08'), ('t', '\t'), ('\t', '\t'), ('n', '\n'),
   ('v', '\x0b'), ('f', '\x0c'), ('r', '\r'), ('e', '\x1b'), (' ', ' '), ('"', '"'), ('/', '/'),
   ('\\', '\\'), ('N', '\u0085'), ('_', '\u00a0'), ('L', '\u2028'), ('P', '\u2029')]

def escaped : Scan Char := do
  match ← Scan.next with
  | 'x' => codedChar 2
  | 'u' => codedChar 4
  | 'U' => codedChar 8
  | c =>
    match escapes.lookup c with
    | some e => return e
    | none => failure

def quotedGap : Scan (List Char) := do
  let g ← gap 0
  guard !(← atDocumentMark)
  return g.chars

/-- the line breaks behind a backslash, of which the first goes away -/
def escapedBreaks : Scan (List Char) := do
  let cs ← breaks 0 ((← Scan.rest).length + 1)
  guard !(← atDocumentMark)
  return cs.drop 1

/-- a quoted scalar up to its closing quote -/
def quotedBody (quote : Char) : Nat → Scan (List Char)
  | 0 => failure
  | fuel + 1 => do
    if ← Scan.sees isBlank then
      let cs ← quotedGap
      return cs ++ (← quotedBody quote fuel)
    else
      let c ← Scan.next
      if c = quote then
        if quote = '\'' && (← Scan.eatChar '\'') then return '\'' :: (← quotedBody quote fuel)
        return []
      else if c = '\\' && quote = '"' then
        if ← Scan.sees isLineBreak then
          let cs ← escapedBreaks
          return cs ++ (← quotedBody quote fuel)
        else
          let e ← escaped
          return e :: (← quotedBody quote fuel)
      else return c :: (← quotedBody quote fuel)

def quoted (quote : Char) : Scan String := do
  Scan.demandChar quote
  return String.ofList (← quotedBody quote ((← Scan.rest).length + 1))

/-! ## small facts -/

example : escapes.lookup '\'' = none := by decide

end ObjectFilter.Document.Yaml
