import ObjectFilter.Document.Yaml.Tree

/-!
# Documents from their tokens

A text holds one document.  Directives may stand in front of it, and then a mark has to follow them.
Anchors get numbers as they come: the number of names that there were before, so that an anchor which
takes an old name shares its number with the next new one.
-/

namespace ObjectFilter.Document.Yaml

/-- the tokens that are left, the names of anchors, and the meaning of handles -/
structure Parser where
  tokens : List Token
  anchors : List (String × Nat)
  handles : List (List Char × List Char)

/-- takes tokens from the front, or fails -/
abbrev Parse := StateT Parser Option

namespace Parse

/-! ## tokens -/

def peek? : Parse (Option Token) := do return (← get).tokens.head?

def sees (ts : List Token) : Parse Bool := do return (← peek?).any ts.contains

def skip : Parse Unit := modify fun s => { s with tokens := s.tokens.drop 1 }

def eat (t : Token) : Parse Bool := do
  if ← sees [t] then
    skip
    return true
  else return false

def demand (t : Token) : Parse Unit := do guard (← eat t)

/-! ## properties of a node -/

def number (name : String) : Parse Nat := do
  let s ← get
  let n := s.anchors.length
  set { s with anchors := (name, n) :: s.anchors.filter (·.1 ≠ name) }
  return n

def anchor? : Parse (Option String) := do
  match ← peek? with
  | some (.anchor name) =>
    skip
    return some name
  | _ => return none

/-- a tag, if one comes next, with the meaning of its handle in place of the handle -/
def tag? : Parse (Option (List Char)) := do
  match ← peek? with
  | some (.tag handle text) =>
    skip
    if handle.isEmpty then return some text
    match (← get).handles.lookup handle with
    | some start => return some (start ++ text)
    | none => failure
  | _ => return none

def nameAndTag : Parse (Option String × Option (List Char)) := do
  match ← anchor? with
  | some name => return (some name, ← tag?)
  | none =>
    match ← tag? with
    | some tag => return (← anchor?, some tag)
    | none => return (none, none)

def properties (name : Option String) (tag : Option (List Char)) : Parse Properties := do
  match name with
  | some name => return ⟨some (← number name), tag⟩
  | none => return ⟨none, tag⟩

/-! ## nodes -/

/-- where a list or a map may be -/
inductive Place
  /-- on lines of its own -/
  | block
  /-- behind a key, where the items of a list need no indentation -/
  | entry
  /-- inside brackets -/
  | flow
deriving DecidableEq, Repr

def target (name : String) : Parse Tree := do
  match (← get).anchors.lookup name with
  | some n => return .aliasOf n
  | none => failure

mutual

def node (place : Place) : Nat → Parse Tree
  | 0 => failure
  | fuel + 1 => do
    if let some (.aliasOf name) ← peek? then
      skip
      return ← target name
    let (name, tag) ← nameAndTag
    let t ← peek?
    match t with
    | some (.scalar text style) =>
      skip
      return .scalar (← properties name (if tag = some ['!'] then none else tag)) text style
    | some .flowSeq =>
      skip
      let p ← properties name tag
      if ← eat .flowSeqEnd then return .seq p []
      return .seq p (← flowItems fuel)
    | some .flowMap =>
      skip
      let p ← properties name tag
      if ← eat .flowMapEnd then return .map p []
      return .map p (← flowEntries fuel)
    | t =>
      if t = some .item && place = .entry then
        return .seq (← properties name tag) (← looseItems fuel)
      else if t = some .blockSeq && place ≠ .flow then
        skip
        return .seq (← properties name tag) (← blockItems fuel)
      else if t = some .blockMap && place ≠ .flow then
        skip
        return .map (← properties name tag) (← blockEntries fuel)
      else if name.isSome || tag.isSome then
        return .scalar (← properties name tag) "" .plain
      else failure

/-- a node, or nothing before one of the given tokens -/
def nodeBefore (ends : List Token) (place : Place) : Nat → Parse Tree
  | 0 => failure
  | fuel + 1 => do
    if ← sees ends then return .empty
    node place fuel

def blockItems : Nat → Parse (List Tree)
  | 0 => failure
  | fuel + 1 => do
    if ← eat .blockEnd then return []
    demand .item
    let item ← nodeBefore [.item, .blockEnd] .block fuel
    return item :: (← blockItems fuel)

/-- the items of a list without indentation -/
def looseItems : Nat → Parse (List Tree)
  | 0 => failure
  | fuel + 1 => do
    if ← eat .item then
      let item ← nodeBefore [.item, .key, .value, .blockEnd] .block fuel
      return item :: (← looseItems fuel)
    else return []

def blockEntries : Nat → Parse (List (Tree × Tree))
  | 0 => failure
  | fuel + 1 => do
    if ← eat .blockEnd then return []
    demand .key
    let key ← nodeBefore [.key, .value, .blockEnd] .entry fuel
    let item ←
      if ← eat .value then nodeBefore [.key, .value, .blockEnd] .entry fuel else pure .empty
    return (key, item) :: (← blockEntries fuel)

/-- the value of a key inside brackets -/
def flowValue (ends : List Token) : Nat → Parse Tree
  | 0 => failure
  | fuel + 1 => do
    if ← eat .value then nodeBefore ends .flow fuel else return .empty

/-- an entry that is an item, behind the mark of its key; a key that is left out takes the next token
with it -/
def flowPair : Nat → Parse Tree
  | 0 => failure
  | fuel + 1 => do
    let isEmpty ← sees [.value, .comma, .flowSeqEnd]
    let key ← nodeBefore [.value, .comma, .flowSeqEnd] .flow fuel
    if isEmpty then skip
    let item ← flowValue [.comma, .flowSeqEnd] fuel
    return .map .none [(key, item)]

def flowItems : Nat → Parse (List Tree)
  | 0 => failure
  | fuel + 1 => do
    let item ← if ← eat .key then flowPair fuel else node .flow fuel
    if ← eat .flowSeqEnd then return [item]
    demand .comma
    if ← eat .flowSeqEnd then return [item]
    return item :: (← flowItems fuel)

/-- the entries of a map from one on, and its closing brace -/
def flowEntries : Nat → Parse (List (Tree × Tree))
  | 0 => failure
  | fuel + 1 => do
    let marked ← eat .key
    let key ← nodeBefore (if marked then [.value, .comma, .flowMapEnd] else []) .flow fuel
    let item ← if marked then flowValue [.comma, .flowMapEnd] fuel else pure .empty
    if ← eat .flowMapEnd then return [(key, item)]
    demand .comma
    if ← eat .flowMapEnd then return [(key, item)]
    return (key, item) :: (← flowEntries fuel)

end

/-! ## documents -/

/-- the handles that need no directive -/
def knownHandles : List (List Char × List Char) :=
  [("!".toList, "!".toList), ("!!".toList, "tag:yaml.org,2002:".toList)]

/-- the directives in front of a document; `versioned` if one of them was the version -/
def directives (versioned : Bool) : Nat → Parse Unit
  | 0 => failure
  | fuel + 1 => do
    match ← peek? with
    | some (.versionDirective major minor) =>
      guard (!versioned && major = 1 && (minor = 1 || minor = 2))
      skip
      directives true fuel
    | some (.tagDirective handle start) =>
      let s ← get
      guard (s.handles.lookup handle).isNone
      set { s with tokens := s.tokens.drop 1, handles := s.handles ++ [(handle, start)] }
      directives versioned fuel
    | _ => modify fun s => { s with handles := s.handles ++ knownHandles }

def atStart : Parse Bool := do
  match ← peek? with
  | some (.versionDirective _ _) => return true
  | some (.tagDirective _ _) => return true
  | some .documentStart => return true
  | _ => return false

def document (fuel : Nat) : Parse Tree := do
  let marked ← atStart
  directives false fuel
  if marked then
    demand .documentStart
    if (← peek?).isNone || (← atStart) || (← sees [.documentEnd]) then return .empty
  node .block fuel

def ends : Nat → Parse Unit
  | 0 => failure
  | fuel + 1 => do
    if ← eat .documentEnd then ends fuel

end Parse

def Tree.ofTokens? (ts : List Token) : Option Tree := do
  let fuel := 3 * ts.length + 3
  let read := do
    let t ← Parse.document fuel
    Parse.ends fuel
    guard (← Parse.peek?).isNone
    return t
  return (← read.run ⟨ts, [], []⟩).1

end ObjectFilter.Document.Yaml
