import ObjectFilter.Document.Json.Tree
import ObjectFilter.Document.Scan

/-!
# JSON

Documents in JSON, strictly: no comments, and no comma behind a last item.  `read` takes a text apart,
`Tree.record?` and `Tree.node?` say what its parts mean.
-/

namespace ObjectFilter.Document.Json

def isSpace (c : Char) : Bool := c = ' ' || c = '\t' || c = '\n' || c = '\r'

def spaces : Scan Unit := Scan.skipWhile isSpace

/-! ## texts -/

/-- a number of four hexadecimal digits -/
def code : Scan Nat := do
  match (← Scan.take 4).mapM (Number.digit? 16) with
  | some digits => return digits.foldl (16 * · + ·) 0
  | none => failure

/-- what stands behind a backslash -/
def escaped : Scan Piece := do
  match ← Scan.next with
  | '"' => return .char '"'
  | '\\' => return .char '\\'
  | '/' => return .char '/'
  | 'b' => return .char '\x08'
  | 'f' => return .char '\x0c'
  | 'n' => return .char '\n'
  | 'r' => return .char '\r'
  | 't' => return .char '\t'
  | 'u' => return .code (← code)
  | _ => failure

/-- a text up to its closing quote, of at most the given length -/
def textBody : Nat → Scan (List Piece)
  | 0 => failure
  | n + 1 => do
    match ← Scan.next with
    | '"' => return []
    | '\\' =>
      let c ← escaped
      return c :: (← textBody n)
    | c =>
      guard (0x20 ≤ c.toNat)
      return .char c :: (← textBody n)

def text : Scan (List Piece) := do
  Scan.demandChar '"'
  textBody (← Scan.rest).length

/-! ## numerals -/

def power : Scan Int := do
  let negative := (← Scan.peek?) = some '-'
  if ← Scan.sees fun c => c = '-' || c = '+' then discard Scan.next
  let digits ← Scan.takeWhile Char.isDigit
  guard !digits.isEmpty
  let n : Int := Number.decimalValue 0 digits
  return if negative then -n else n

def numeral : Scan Numeral := do
  let negative ← Scan.eatChar '-'
  let whole ← Scan.takeWhile Char.isDigit
  guard (!whole.isEmpty && (whole.head? ≠ some '0' || whole.length = 1))
  let point ← Scan.eatChar '.'
  let decimals ← if point then Scan.takeWhile Char.isDigit else pure []
  guard (!point || !decimals.isEmpty)
  let mark ← Scan.sees fun c => c = 'e' || c = 'E'
  let power ← if mark then do discard Scan.next; some <$> power else pure none
  return ⟨negative, whole, decimals, power⟩

/-! ## values -/

mutual

def value : Nat → Scan Tree
  | 0 => failure
  | fuel + 1 => do
    spaces
    match ← Scan.peek? with
    | some '"' => return .text (← text)
    | some '[' =>
      discard Scan.next
      spaces
      if ← Scan.eatChar ']' then return .seq []
      return .seq (← items fuel)
    | some '{' =>
      discard Scan.next
      spaces
      if ← Scan.eatChar '}' then return .map []
      return .map (← entries fuel)
    | some 'n' => Scan.demand "null"; return .null
    | some 't' => Scan.demand "true"; return .bool true
    | some 'f' => Scan.demand "false"; return .bool false
    | _ => return .number (← numeral)

def items : Nat → Scan (List Tree)
  | 0 => failure
  | fuel + 1 => do
    let item ← value fuel
    spaces
    if ← Scan.eatChar ',' then return item :: (← items fuel)
    Scan.demandChar ']'
    return [item]

def entries : Nat → Scan (List (List Piece × Tree))
  | 0 => failure
  | fuel + 1 => do
    spaces
    let key ← text
    spaces
    Scan.demandChar ':'
    let item ← value fuel
    spaces
    if ← Scan.eatChar ',' then return (key, item) :: (← entries fuel)
    Scan.demandChar '}'
    return [(key, item)]

end

def read (s : String) : Option Tree :=
  Scan.run (do let v ← value (2 * s.length + 2); spaces; return v) s.toList

/-! ## what JSON can carry -/

mutual

/-- the document as JSON can carry it: numbers that are not finite become null -/
def carried : Node → Node
  | .float x => if x.isFinite then .float x else .null
  | .seq items => .seq (carriedItems items)
  | .map entries => .map (carriedEntries entries)
  | n => n

def carriedItems : List Node → List Node
  | [] => []
  | n :: rest => carried n :: carriedItems rest

def carriedEntries : List (Node × Node) → List (Node × Node)
  | [] => []
  | (key, n) :: rest => (carried key, carried n) :: carriedEntries rest

end

end ObjectFilter.Document.Json
