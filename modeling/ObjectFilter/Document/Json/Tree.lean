import ObjectFilter.Document.Json.Numeral

/-!
# JSON before its scalars are read

A JSON document whose texts and numerals have not been given a meaning yet.  A part that nobody asks for
may hold numerals that are too large, halves of surrogate pairs, and lists and maps of any depth;
`Tree.node?` refuses all of them.
-/

namespace ObjectFilter.Document.Json

/-! ## texts -/

/-- a part of a text: a character, or a code of four digits, which may be half of a pair -/
inductive Piece
  | char (c : Char)
  | code (n : Nat)
deriving DecidableEq, Repr

def isLeading (n : Nat) : Bool := 0xD800 ≤ n && n < 0xDC00

def isTrailing (n : Nat) : Bool := 0xDC00 ≤ n && n < 0xE000

def paired (leading trailing : Nat) : Char :=
  Char.ofNat (0x10000 + (leading - 0xD800) * 0x400 + (trailing - 0xDC00))

/-- the characters of a text; none if half of a pair stands alone -/
def chars? : List Piece → Option (List Char)
  | [] => some []
  | .char c :: rest => (chars? rest).map (c :: ·)
  | .code n :: .code m :: rest =>
    if isLeading n then
      if isTrailing m then (chars? rest).map (paired n m :: ·) else none
    else if isTrailing n then none
    else (chars? (.code m :: rest)).map (Char.ofNat n :: ·)
  | .code n :: rest =>
    if isLeading n || isTrailing n then none else (chars? rest).map (Char.ofNat n :: ·)

def text? (pieces : List Piece) : Option String := (chars? pieces).map String.ofList

/-! ## documents -/

inductive Tree
  | null
  | bool (b : Bool)
  | number (x : Numeral)
  | text (pieces : List Piece)
  | seq (items : List Tree)
  | map (entries : List (List Piece × Tree))

/-- lists and maps are no deeper than this -/
def greatestDepth : Nat := 127

namespace Tree

mutual

/-- the part with a meaning for every scalar, with no more than `depth` lists and maps inside each
other -/
def node? (depth : Nat) : Tree → Option Node
  | null => some .null
  | bool b => some (.bool b)
  | number x => x.node?
  | text pieces => (text? pieces).map .text
  | seq items => if depth = 0 then none else (nodes? (depth - 1) items).map .seq
  | map entries => if depth = 0 then none else (nodesOfEntries? (depth - 1) entries).map .map

def nodes? (depth : Nat) : List Tree → Option (List Node)
  | [] => some []
  | item :: rest => do return (← item.node? depth) :: (← nodes? depth rest)

def nodesOfEntries? (depth : Nat) : List (List Piece × Tree) → Option (List (Node × Node))
  | [] => some []
  | (key, item) :: rest => do
    return (.text (← text? key), ← item.node? depth) :: (← nodesOfEntries? depth rest)

end

/-- the entry of a record, whose value is left aside if no field has its name -/
def field? (names : List String) (entry : List Piece × Tree) : Option (Node × Node) := do
  let name ← text? entry.1
  if names.contains name then return (.text name, ← entry.2.node? (greatestDepth - 1))
  else return (.text name, .null)

/-- a document that is a record with the given fields; the values of other fields do not matter -/
def record? (names : List String) : Tree → Option Node
  | map entries => (entries.mapM (field? names)).map .map
  | t => t.node? greatestDepth

end Tree
end ObjectFilter.Document.Json
