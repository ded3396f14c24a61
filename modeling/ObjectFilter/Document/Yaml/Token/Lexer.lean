import ObjectFilter.Document.Yaml.Block
import ObjectFilter.Document.Yaml.Plain
import ObjectFilter.Document.Yaml.Quoted
import ObjectFilter.Document.Yaml.Token

/-!
# The tokens of a text

Most tokens are written down.  Where lists and maps of lines start and end follows from columns, and that
a part of a line was a key is known only when its colon comes: the tokens in front of a key are put in
afterwards.  A key is on one line with its colon and has at most 1024 characters.

`least` is the least column that belongs to the innermost open list or map of lines.
-/

namespace ObjectFilter.Document.Yaml

/-- a place where a key may have started -/
structure KeyStart where
  /-- the number of tokens in front of it -/
  position : Nat
  index : Nat
  line : Nat
  column : Nat
  /-- nothing but a key can stand there -/
  required : Bool
deriving DecidableEq, Repr

namespace KeyStart

/-- whether a colon at the cursor would come too late -/
def isStale (k : KeyStart) (c : Cursor) : Bool := k.line < c.line || k.index + 1024 < c.index

/-- the start, if a colon at the cursor would not come too late; a key that is required may not be
missing -/
def fresh? (k : Option KeyStart) (c : Cursor) : Option (Option KeyStart) :=
  match k with
  | none => some none
  | some k => if !k.isStale c then some (some k) else if k.required then none else some none

end KeyStart

/-- the tokens so far, and what is open -/
structure Lexer where
  /-- the last one first -/
  tokens : List Token
  count : Nat
  least : Nat
  /-- the least columns of the lists and maps around the innermost one -/
  outer : List Nat
  key : Option KeyStart
  /-- the starts of keys outside of the brackets that are open -/
  outerKeys : List (Option KeyStart)
  /-- a key may start here -/
  keyAllowed : Bool
deriving DecidableEq, Repr

namespace Lexer

def start : Lexer := ⟨[], 0, 0, [], none, [], true⟩

def isFlow (s : Lexer) : Bool := !s.outerKeys.isEmpty

/-! ## tokens -/

def insert (s : Lexer) (position : Nat) (t : Token) : Lexer :=
  let behind := s.count - position
  { s with
    tokens := s.tokens.take behind ++ t :: s.tokens.drop behind
    count := s.count + 1 }

def push (s : Lexer) (t : Token) : Lexer := { s with tokens := t :: s.tokens, count := s.count + 1 }

/-! ## lists and maps of lines -/

/-- opens a list or a map at a column, if that is right of the innermost one -/
def enter (s : Lexer) (column position : Nat) (t : Token) : Lexer :=
  if s.isFlow || column < s.least then s
  else insert { s with least := column + 1, outer := s.least :: s.outer } position t

/-- closes the lists and maps to which a line does not belong that starts left of a column -/
def leaveFrom (bound : Nat) : List Nat → Lexer → Lexer
  | [], s => s
  | around :: rest, s =>
    if bound < s.least then leaveFrom bound rest (push { s with least := around, outer := rest } .blockEnd)
    else s

def leave (s : Lexer) (bound : Nat) : Lexer := if s.isFlow then s else leaveFrom bound s.outer s

/-! ## keys -/

/-- forgets the start of a key that comes too late -/
def freshen (s : Lexer) (c : Cursor) : Option Lexer := do
  return { s with
    key := ← KeyStart.fresh? s.key c
    outerKeys := ← s.outerKeys.mapM (KeyStart.fresh? · c) }

def dropKey (s : Lexer) : Option Lexer :=
  if s.key.any (·.required) then none else some { s with key := none }

/-- remembers that a key may start at the cursor -/
def startKey (s : Lexer) (c : Cursor) : Option Lexer :=
  if s.keyAllowed then do
    let required := !s.isFlow && s.least = c.column + 1
    let s ← s.dropKey
    return { s with key := some ⟨s.count, c.index, c.line, c.column, required⟩ }
  else some s

/-! ## one token -/

def mark (s : Lexer) (t : Token) : Scan Lexer := do
  discard Scan.next
  return s.push t

/-- a token in which no key can start and behind which none may -/
def standalone (s : Lexer) (read : Scan Token) : Scan Lexer := do
  let s ← (s.leave 0).dropKey
  return push { s with keyAllowed := false } (← read)

/-- a token that may be the start of a key -/
def starting (s : Lexer) (read : Scan Token) : Scan Lexer := do
  let s ← s.startKey (← get)
  return push { s with keyAllowed := false } (← read)

def openBracket (s : Lexer) (t : Token) : Scan Lexer := do
  let s ← s.startKey (← get)
  mark { s with key := none, outerKeys := s.key :: s.outerKeys, keyAllowed := true } t

def closeBracket (s : Lexer) (t : Token) : Scan Lexer := do
  let s ← s.dropKey
  match s.outerKeys with
  | key :: rest => mark { s with key := key, outerKeys := rest, keyAllowed := false } t
  | [] => failure

def comma (s : Lexer) : Scan Lexer := do
  let s ← s.dropKey
  mark { s with keyAllowed := true } .comma

def item (s : Lexer) : Scan Lexer := do
  guard (s.isFlow || s.keyAllowed)
  let s := s.enter (← Scan.column) s.count .blockSeq
  let s ← s.dropKey
  mark { s with keyAllowed := true } .item

def keyMark (s : Lexer) : Scan Lexer := do
  guard (s.isFlow || s.keyAllowed)
  let s := s.enter (← Scan.column) s.count .blockMap
  let s ← s.dropKey
  mark { s with keyAllowed := !s.isFlow } .key

def valueMark (s : Lexer) : Scan Lexer := do
  match s.key with
  | some k =>
    let s := (s.insert k.position .key).enter k.column k.position .blockMap
    mark { s with key := none, keyAllowed := false } .value
  | none =>
    guard (s.isFlow || s.keyAllowed)
    let s := s.enter (← Scan.column) s.count .blockMap
    mark { s with keyAllowed := !s.isFlow } .value

def blockScalar (s : Lexer) (literal : Bool) : Scan Lexer := do
  let s ← s.dropKey
  let text ← block literal s.least
  return push { s with keyAllowed := true } (.scalar text (if literal then .literal else .folded))

/-- a plain scalar; a key may start behind a line break -/
def plainScalar (s : Lexer) : Scan Lexer := do
  let s ← s.startKey (← get)
  let (text, broken) ← plain s.isFlow s.least
  return push { s with keyAllowed := broken } (.scalar text .plain)

def quotedScalar (s : Lexer) (quote : Char) : Scan Lexer :=
  s.starting do return .scalar (← quoted quote) .quoted

def documentMark (s : Lexer) (t : Token) : Scan Lexer :=
  s.standalone do
    discard (Scan.take 3)
    return t

/-- the token at the cursor, which starts with the given character -/
def token (s : Lexer) (c : Char) : Scan Lexer := do
  let rest := (← Scan.rest).drop 1
  if c = '%' && (← Scan.column) = 0 then s.standalone Token.directive
  else if ← atDocumentMark then s.documentMark (if c = '-' then .documentStart else .documentEnd)
  else if c = '[' then s.openBracket .flowSeq
  else if c = '{' then s.openBracket .flowMap
  else if c = ']' then s.closeBracket .flowSeqEnd
  else if c = '}' then s.closeBracket .flowMapEnd
  else if c = ',' then s.comma
  else if c = '-' && startsBlank rest then s.item
  else if c = '?' && (s.isFlow || startsBlank rest) then s.keyMark
  else if c = ':' && (s.isFlow || startsBlank rest) then s.valueMark
  else if c = '*' then s.starting do return .aliasOf (← Token.name)
  else if c = '&' then s.starting do return .anchor (← Token.name)
  else if c = '!' then s.starting (Token.tagToken s.isFlow)
  else if c = '|' && !s.isFlow then s.blockScalar true
  else if c = '>' && !s.isFlow then s.blockScalar false
  else if c = '\'' || c = '"' then s.quotedScalar c
  else s.plainScalar

/-! ## all tokens -/

/-- goes on to the next token; no tab may stand where a key may start, and a mark of the byte order
may start a line -/
def skip (s : Lexer) : Nat → Scan Lexer
  | 0 => failure
  | fuel + 1 => do
    if (← Scan.column) = 0 then discard (Scan.eatChar '\ufeff')
    Scan.skipWhile fun c => c = ' ' || (c = '\t' && (s.isFlow || !s.keyAllowed))
    comment
    if ← Scan.sees isLineBreak then
      discard Scan.next
      skip { s with keyAllowed := s.keyAllowed || !s.isFlow } fuel
    else return s

def run (s : Lexer) : Nat → Scan (List Token)
  | 0 => failure
  | fuel + 1 => do
    let s ← s.skip (fuel + 1)
    let s ← s.freshen (← get)
    match ← Scan.peek? with
    | none => return (← (s.leave 0).dropKey).tokens.reverse
    | some c => run (← (s.leave ((← Scan.column) + 1)).token c) fuel

end Lexer

def tokens (cs : List Char) : Option (List Token) :=
  Scan.run (Lexer.start.run (cs.length + 1)) cs

end ObjectFilter.Document.Yaml
