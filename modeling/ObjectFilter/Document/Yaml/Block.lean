import ObjectFilter.Document.Yaml.Line

/-!
# Literal and folded blocks

Scalars of whole lines behind a bar or an angle bracket.  The header may fix the indentation, which is
found from the first line with something in it otherwise, and says what becomes of the line breaks at
the end.
-/

namespace ObjectFilter.Document.Yaml

/-- what becomes of the line breaks at the end of a block -/
inductive Chomping
  | strip
  | clip
  | keep
deriving DecidableEq, Repr

def chomping? : Scan (Option Chomping) := do
  if ← Scan.eatChar '+' then return some .keep
  if ← Scan.eatChar '-' then return some .strip
  return none

/-- how far the lines of the block are indented, if the header says so -/
def increment? : Scan (Option Nat) := do
  if ← Scan.sees fun c => c.isDigit && c ≠ '0' then
    return some ((← Scan.next).toNat - '0'.toNat)
  return none

def header : Scan (Chomping × Option Nat) := do
  discard Scan.next
  let first ← chomping?
  let increment ← increment?
  let second ← if first.isNone then chomping? else pure none
  lineEnd
  return ((first.or second).getD .clip, increment)

/-- leaves out indentation up to a column and empty lines; gives the line breaks, and the greatest
column that was reached -/
def emptyLines (indent : Option Nat) : Nat → Scan (List Char × Nat)
  | 0 => return ([], 0)
  | fuel + 1 => do
    let spaces := ((← Scan.rest).takeWhile (· = ' ')).length
    let start ← Scan.column
    discard (Scan.take ((indent.map fun n => min spaces (n - start)).getD spaces))
    let reached ← Scan.column
    guard !((← Scan.sees (· = '\t')) && (indent.all (reached < ·)))
    if ← Scan.sees isLineBreak then
      let c ← Scan.next
      let (cs, greatest) ← emptyLines indent fuel
      return (c :: cs, max reached greatest)
    return ([], reached)

/-- the line before a line of a block: its line break, if it has one, and whether it started with a
blank -/
structure LineBefore where
  lineBreak : Option Char
  loose : Bool
deriving DecidableEq, Repr

/-- what stands for the line break in front of a line: nothing or a blank if the lines are folded, which
are no lines that start with a blank -/
def joint (literal : Bool) (before : LineBefore) (breaks : List Char) (loose : Bool) : List Char :=
  if !literal && before.lineBreak = some '\n' && !before.loose && !loose then
    if breaks.isEmpty then [' '] else []
  else before.lineBreak.toList

/-- the lines of a block with so much indentation, from the first on; `breaks` are the line breaks of
the empty lines in front of it -/
def blockLines (literal : Bool) (chomping : Chomping) (indent : Nat) :
    Nat → LineBefore → (breaks : List Char) → Scan (List Char)
  | 0, _, _ => failure
  | fuel + 1, before, breaks => do
    if (← Scan.column) ≠ indent || (← Scan.rest).isEmpty then
      let last := if chomping = .strip then [] else before.lineBreak.toList
      return last ++ (if chomping = .keep then breaks else [])
    let loose ← Scan.sees isSpace
    let cs ← Scan.takeWhile (!isLineBreak ·)
    let ended ← Scan.takeOneIf isLineBreak
    let (others, _) ← emptyLines (some indent) ((← Scan.rest).length + 1)
    return joint literal before breaks loose ++ breaks ++ cs
      ++ (← blockLines literal chomping indent fuel ⟨ended, loose⟩ others)

/-- a literal or a folded block, inside of what starts left of column `least` -/
def block (literal : Bool) (least : Nat) : Scan String := do
  let (chomping, increment) ← header
  let fixed := increment.map fun n => (least - 1) + n
  let (breaks, greatest) ← emptyLines fixed ((← Scan.rest).length + 1)
  let indent := fixed.getD (max greatest (max least 1))
  let fuel := (← Scan.rest).length + 1
  return String.ofList (← blockLines literal chomping indent fuel ⟨none, false⟩ breaks)

end ObjectFilter.Document.Yaml
