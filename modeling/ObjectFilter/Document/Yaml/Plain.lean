import ObjectFilter.Document.Yaml.Line

/-!
# Plain scalars as they are written

Scalars without quotes.  They go on over several lines as long as these are indented; inside brackets
they end at commas and brackets, and columns do not matter.
-/

namespace ObjectFilter.Document.Yaml

def isFlowMark (c : Char) : Bool := [',', '[', ']', '{', '}'].contains c

/-- whether a plain scalar can start here -/
def startsPlain (flow : Bool) : List Char → Bool
  | [] => false
  | c :: rest =>
    if c = '-' then !startsBlank rest
    else if c = '?' || c = ':' then !flow && !startsBlank rest
    else !(isBlank c || isFlowMark c || "#&*!|>'\"%@\x60".toList.contains c)

/-- whether a plain scalar ends here, or is interrupted -/
def endsWord (flow : Bool) : List Char → Bool
  | [] => true
  | ':' :: rest => startsBlank rest
  | c :: _ => isBlank c || (flow && isFlowMark c)

/-- the characters up to the next blank or the end of the scalar -/
def wordChars (flow : Bool) : List Char → List Char
  | [] => []
  | c :: rest => if endsWord flow (c :: rest) then [] else c :: wordChars flow rest

/-- whether a colon is followed by a bracket, a comma or a question mark -/
def colonTouches : List Char → Bool
  | ':' :: c :: rest => isFlowMark c || c = '?' || colonTouches (c :: rest)
  | _ :: rest => colonTouches rest
  | [] => false

/-- a part of a plain scalar without blanks; inside brackets no colon touches a bracket -/
def word (flow : Bool) : Scan (List Char) := do
  let cs ← Scan.take (wordChars flow (← Scan.rest)).length
  guard !(flow && colonTouches (cs ++ (← Scan.rest).take 1))
  return cs

/-- a plain scalar whose lines are indented to a column, from a gap inside it on, and whether it ends
behind a line break -/
def plainBody (flow : Bool) (indent : Nat) : Nat → Gap → Scan (List Char × Bool)
  | 0, _ => failure
  | fuel + 1, before => do
    if (← atDocumentMark) || (← Scan.sees (· = '#')) then return ([], before.isBroken)
    let cs ← word flow
    if cs.isEmpty then return ([], before.isBroken)
    let after ← gap indent
    if !flow && (← Scan.column) < indent then return (before.chars ++ cs, after.isBroken)
    let (rest, broken) ← plainBody flow indent fuel after
    return (before.chars ++ cs ++ rest, broken)

def plain (flow : Bool) (indent : Nat) : Scan (String × Bool) := do
  guard (startsPlain flow (← Scan.rest))
  let (cs, broken) ← plainBody flow indent ((← Scan.rest).length + 1) (.blanks [])
  return (String.ofList cs, broken)

example : startsPlain true ":a".toList = false := by decide +kernel

end ObjectFilter.Document.Yaml
