import ObjectFilter.Document.Scan
import ObjectFilter.Document.Toml.Scalar
import ObjectFilter.Document.Toml.Table

/-!
# TOML

Documents in TOML 1.0, line by line: an entry of the open table, the header of a table, or the header of
one more table of an array.  Arrays and inline tables are no deeper than 79, and no key has more
parts.
-/

namespace ObjectFilter.Document.Toml

/-- the greatest depth of a value, and the greatest number of parts of a key -/
def greatestDepth : Nat := 79

/-! ## blanks -/

def isSpace (c : Char) : Bool := c = ' ' || c = '\t'

def spaces : Scan Unit := Scan.skipWhile isSpace

/-- a character that may stand in comments and in texts in single quotes -/
def isPlain (c : Char) : Bool := c = '\t' || (0x20 ≤ c.toNat && c.toNat ≠ 0x7F)

def comment : Scan Unit := do
  if ← Scan.eatChar '#' then Scan.skipWhile isPlain

def lineEnd : Scan Unit := do
  spaces
  comment
  if !(← Scan.rest).isEmpty then Scan.demandChar '\n'

/-- blanks, comments and line ends -/
def gap : Nat → Scan Unit
  | 0 => pure ()
  | fuel + 1 => do
    spaces
    comment
    if ← Scan.eatChar '\n' then gap fuel

def anyGap : Scan Unit := do gap ((← Scan.rest).length + 1)

/-! ## texts -/

def codedChar (count : Nat) : Scan Char := do
  match (← Scan.take count).mapM (Number.digit? 16) with
  | none => failure
  | some digits =>
    let n := digits.foldl (16 * · + ·) 0
    guard n.isValidChar
    return Char.ofNat n

def escaped : Scan Char := do
  match ← Scan.next with
  | 'b' => return '\x08'
  | 't' => return '\t'
  | 'n' => return '\n'
  | 'f' => return '\x0c'
  | 'r' => return '\r'
  | '"' => return '"'
  | '\\' => return '\\'
  | 'u' => codedChar 4
  | 'U' => codedChar 8
  | _ => failure

/-- a text in double quotes, up to the closing quote -/
def basicBody : Nat → Scan (List Char)
  | 0 => failure
  | fuel + 1 => do
    match ← Scan.next with
    | '"' => return []
    | '\\' =>
      let c ← escaped
      return c :: (← basicBody fuel)
    | c =>
      guard (isPlain c)
      return c :: (← basicBody fuel)

/-- a text in single quotes, up to the closing quote -/
def literalBody : Scan (List Char) := do
  let cs ← Scan.takeWhile fun c => isPlain c && c ≠ '\''
  Scan.demandChar '\''
  return cs

/-- the quotes at the end of a long text, of which the last three close it -/
def closingQuotes (quote : Char) : Scan (Option (List Char)) := do
  let quotes := ((← Scan.rest).takeWhile (· = quote)).length
  if quotes < 3 then return none
  guard (quotes ≤ 5)
  discard (Scan.take quotes)
  return some (List.replicate (quotes - 3) quote)

/-- whether only blanks are left of the line -/
def atLineEnd : Scan Bool := do return ((← Scan.rest).dropWhile isSpace).head? = some '\n'

/-- a text in three quotes, up to the closing ones; in double quotes backslashes count, and one at the
end of a line takes the line end and the blanks behind it away -/
def longBody (quote : Char) : Nat → Scan (List Char)
  | 0 => failure
  | fuel + 1 => do
    match ← closingQuotes quote with
    | some cs => return cs
    | none =>
      let c ← Scan.next
      if c = '\\' && quote = '"' then
        if ← atLineEnd then
          Scan.skipWhile fun c => isSpace c || c = '\n'
          longBody quote fuel
        else
          let e ← escaped
          return e :: (← longBody quote fuel)
      else
        guard (isPlain c || c = '\n')
        return c :: (← longBody quote fuel)

/-- a text in single or double quotes on one line -/
def shortText : Scan String := do
  if ← Scan.eatChar '"' then return String.ofList (← basicBody ((← Scan.rest).length))
  Scan.demandChar '\''
  return String.ofList (← literalBody)

/-- a text in three quotes; a line end right behind the opening ones does not count -/
def longText (quote : Char) : Scan String := do
  discard (Scan.take 3)
  discard (Scan.eatChar '\n')
  return String.ofList (← longBody quote ((← Scan.rest).length + 1))

/-! ## keys -/

def isKeyChar (c : Char) : Bool := c.isAlphanum || c = '_' || c = '-'

def simpleKey : Scan String := do
  if ← Scan.sees fun c => c = '"' || c = '\'' then shortText
  else
    let cs ← Scan.takeWhile isKeyChar
    guard !cs.isEmpty
    return String.ofList cs

/-- a key with dots: all but its last part, and the last part -/
def dottedKey : Nat → Scan (List String × String)
  | 0 => failure
  | fuel + 1 => do
    spaces
    let key ← simpleKey
    spaces
    if ← Scan.eatChar '.' then
      let (path, last) ← dottedKey fuel
      return (key :: path, last)
    else return ([], key)

def key : Scan (List String × String) := do
  let (path, last) ← dottedKey ((← Scan.rest).length + 1)
  guard (path.length < greatestDepth)
  return (path, last)

/-! ## values -/

def isBareChar (c : Char) : Bool :=
  c.isAlphanum || c = '_' || c = '+' || c = '-' || c = '.' || c = ':'

/-- whether a date is followed by a blank and a time -/
def timeFollows (cs rest : List Char) : Bool :=
  isDate cs && rest.head? = some ' ' && (rest.drop 1).head?.any Char.isDigit

/-- a value without brackets and quotes -/
def bare : Scan Node := do
  let cs ← Scan.takeWhile isBareChar
  let cs ←
    if timeFollows cs (← Scan.rest) then do
      discard Scan.next
      pure (cs ++ ' ' :: (← Scan.takeWhile isBareChar))
    else pure cs
  match bare? cs with
  | some n => return n
  | none => failure

mutual

/-- a value with no more than `depth` arrays and inline tables inside each other -/
def value : Nat → Nat → Scan Node
  | 0, _ => failure
  | fuel + 1, depth => do
    match ← Scan.peek? with
    | some '"' => return .text (← if ← Scan.looksAt "\"\"\"" then longText '"' else shortText)
    | some '\'' => return .text (← if ← Scan.looksAt "'''" then longText '\'' else shortText)
    | some '[' =>
      discard Scan.next
      guard (0 < depth)
      return .seq (← items fuel (depth - 1))
    | some '{' =>
      discard Scan.next
      guard (0 < depth)
      spaces
      if ← Scan.eatChar '}' then return .map []
      return (← entries fuel (depth - 1) []).node
    | _ => bare

def items : Nat → Nat → Scan (List Node)
  | 0, _ => failure
  | fuel + 1, depth => do
    anyGap
    if ← Scan.eatChar ']' then return []
    let item ← value fuel depth
    anyGap
    if ← Scan.eatChar ',' then return item :: (← items fuel depth)
    Scan.demandChar ']'
    return [item]

/-- the entries of an inline table, added to the ones before -/
def entries : Nat → Nat → Table → Scan Table
  | 0, _, _ => failure
  | fuel + 1, depth, t => do
    let (path, last) ← key
    Scan.demandChar '='
    spaces
    let n ← value fuel depth
    spaces
    match t.add path last n with
    | none => failure
    | some t =>
      if ← Scan.eatChar ',' then entries fuel depth t
      else
        Scan.demandChar '}'
        return t

end

/-! ## documents -/

/-- the document so far, and the header of the open table -/
structure State where
  root : Table
  header : List String

namespace State

def entryLine (s : State) : Scan State := do
  let (path, last) ← key
  Scan.demandChar '='
  spaces
  let n ← value (2 * (← Scan.rest).length + 2) greatestDepth
  match s.root.within (·.add path last n) s.header with
  | some root => return { s with root := root }
  | none => failure

def headerLine (s : State) : Scan State := do
  Scan.demandChar '['
  let more ← Scan.eatChar '['
  let (path, last) ← key
  Scan.demand (if more then "]]" else "]")
  match if more then s.root.append path last else s.root.define path last with
  | some root => return ⟨root, path ++ [last]⟩
  | none => failure

/-- reads the lines that are left -/
def lines (s : State) : Nat → Scan Table
  | 0 => failure
  | fuel + 1 => do
    anyGap
    if (← Scan.rest).isEmpty then return s.root
    let s ← if ← Scan.sees (· = '[') then s.headerLine else s.entryLine
    lineEnd
    lines s fuel

end State

/-- the characters with line ends of one character; a mark at the start goes away -/
def normalized : List Char → List Char
  | '\r' :: '\n' :: rest => '\n' :: normalized rest
  | c :: rest => c :: normalized rest
  | [] => []

def read (s : String) : Option Node :=
  let cs := if s.toList.head? = some '\ufeff' then s.toList.drop 1 else s.toList
  (Scan.run (State.lines ⟨[], []⟩ (s.length + 1)) (normalized cs)).map Table.node

end ObjectFilter.Document.Toml
