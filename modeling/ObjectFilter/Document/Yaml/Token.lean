import ObjectFilter.Document.Yaml.Line
import ObjectFilter.Number.FloatNumeral

/-!
# Tokens of a YAML document

The parts that a document is made of: marks, brackets, names, tags and scalars, and where lists and maps
of lines start and end.  Names, tags and directives are read here.

A tag is a handle and a text behind it.  The handle is empty where the tag is written out.
-/

namespace ObjectFilter.Document.Yaml

inductive ScalarStyle
  | plain
  | quoted
  | literal
  | folded
deriving DecidableEq, Repr

inductive Token
  | versionDirective (major minor : Nat)
  | tagDirective (handle start : List Char)
  | documentStart
  | documentEnd
  /-- a list or a map of lines -/
  | blockSeq
  | blockMap
  | blockEnd
  /-- brackets and braces -/
  | flowSeq
  | flowSeqEnd
  | flowMap
  | flowMapEnd
  | item
  | comma
  | key
  | value
  | aliasOf (name : String)
  | anchor (name : String)
  | tag (handle text : List Char)
  | scalar (text : String) (style : ScalarStyle)
deriving DecidableEq, Repr

namespace Token

/-! ## names -/

def isNameChar (c : Char) : Bool := c.isAlphanum || c = '_' || c = '-'

def name : Scan String := do
  discard Scan.next
  let cs ← Scan.takeWhile isNameChar
  guard !cs.isEmpty
  guard (startsBlank (← Scan.rest) || (← Scan.sees ("?:,]\x7d%@\x60".toList.contains ·)))
  return String.ofList cs

/-! ## tags -/

/-- a character of a tag; between angle brackets and in directives there are some more -/
def isTagChar (wide : Bool) (c : Char) : Bool :=
  isNameChar c || ";/?:@&=+$.!~*'()".toList.contains c || (wide && [',', '[', ']'].contains c)

/-- an octet that is written as two hexadecimal digits -/
def octet : Scan Nat := do
  Scan.demandChar '%'
  match (← Scan.take 2).mapM (Number.digit? 16) with
  | some [high, low] => return 16 * high + low
  | _ => failure

/-- the number of octets that follow the first one of a character -/
def octetsBehind? (first : Nat) : Option Nat :=
  if first < 0x80 then some 0
  else if first / 0x20 = 6 then some 1
  else if first / 0x10 = 0xE then some 2
  else if first / 8 = 0x1E then some 3
  else none

def moreOctets : Nat → Scan (List Char)
  | 0 => return []
  | n + 1 => do
    let o ← octet
    guard (o / 0x40 = 2)
    return Char.ofNat o :: (← moreOctets n)

/-- the octets of a character, each as a character of its own -/
def octets : Scan (List Char) := do
  let first ← octet
  match octetsBehind? first with
  | some n => return Char.ofNat first :: (← moreOctets n)
  | none => failure

def tagChars (wide : Bool) : Nat → Scan (List Char)
  | 0 => failure
  | fuel + 1 => do
    if ← Scan.sees (· = '%') then
      let cs ← octets
      return cs ++ (← tagChars wide fuel)
    else
      match ← Scan.takeOneIf (isTagChar wide) with
      | some c => return c :: (← tagChars wide fuel)
      | none => return []

/-- the text of a tag; it ends before a null character -/
def tagText (wide : Bool) : Scan (List Char) := do
  return (← tagChars wide ((← Scan.rest).length + 1)).takeWhile (· ≠ '\x00')

/-- the text of a tag, for which something has to be written -/
def someTagText (wide : Bool) : Scan (List Char) := do
  guard (← Scan.sees fun c => c = '%' || isTagChar wide c)
  tagText wide

/-- an exclamation mark and a name, and the exclamation mark behind it, if there is one -/
def tagHandle : Scan (List Char) := do
  Scan.demandChar '!'
  let cs ← Scan.takeWhile isNameChar
  let closing ← Scan.takeOneIf (· = '!')
  return '!' :: cs ++ closing.toList

def isClosed (handle : List Char) : Bool := 2 ≤ handle.length && handle.getLast? = some '!'

/-- a tag without angle brackets -/
def shortTag : Scan Token := do
  let handle ← tagHandle
  if isClosed handle then return .tag handle (← someTagText false)
  let cs ← tagText false
  let text := (handle.drop 1 ++ cs)
  return if text.isEmpty then .tag [] ['!'] else .tag ['!'] text

def tagToken (flow : Bool) : Scan Token := do
  let token ←
    if ← Scan.eat "!<" then do
      let text ← someTagText true
      Scan.demandChar '>'
      pure (Token.tag [] text)
    else shortTag
  guard (startsBlank (← Scan.rest) || (flow && (← Scan.sees (· = ','))))
  return token

/-! ## directives -/

/-- a part of a version, of at most nine digits -/
def versionPart : Scan Nat := do
  let digits ← Scan.takeWhile Char.isDigit
  guard (!digits.isEmpty && digits.length ≤ 9)
  return Number.decimalValue 0 digits

def version : Scan Token := do
  Scan.skipWhile isSpace
  let major ← versionPart
  Scan.demandChar '.'
  return .versionDirective major (← versionPart)

/-- the directive that gives a handle a meaning -/
def tagDirectiveToken : Scan Token := do
  Scan.skipWhile isSpace
  let handle ← tagHandle
  guard (isClosed handle || handle = ['!'])
  guard (← Scan.sees isSpace)
  Scan.skipWhile isSpace
  let start ← someTagText true
  guard (startsBlank (← Scan.rest))
  return .tagDirective handle start

def directive : Scan Token := do
  Scan.demandChar '%'
  let cs ← Scan.takeWhile isNameChar
  guard (startsBlank (← Scan.rest))
  let token ←
    if cs = "YAML".toList then version
    else if cs = "TAG".toList then tagDirectiveToken
    else failure
  lineEnd
  return token

end Token
end ObjectFilter.Document.Yaml
