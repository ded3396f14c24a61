import ObjectFilter.Document.Node

/-!
# Tables that are written in parts

A table of a TOML document comes about in several places: under a header of its own, as the parent of
another header, or by a key with dots.  What may be added later depends on how it came about, so a
table remembers its origin while the document is read.

* a header defines a table once, also one that so far is only a parent;
* a key with dots reaches tables that such keys made, and no table that a header defined;
* a key is given once.
-/

namespace ObjectFilter.Document.Toml

inductive Origin
  /-- as a parent of a header -/
  | parent
  /-- by a key with dots -/
  | dotted
  /-- by a header of its own -/
  | header
deriving DecidableEq, Repr

inductive Entry
  /-- a value, which nothing is added to -/
  | value (n : Node)
  | table (origin : Origin) (entries : List (String × Entry))
  /-- an array of tables, the last of which is open -/
  | tables (items : List (List (String × Entry)))

abbrev Table := List (String × Entry)

namespace Table

def get? (t : Table) (key : String) : Option Entry := t.lookup key

def put (t : Table) (key : String) (e : Entry) : Table :=
  if (t.get? key).isSome then t.map fun old => if old.1 = key then (key, e) else old
  else t ++ [(key, e)]

def changeLast (change : Table → Option Table) (items : List Table) : Option (List Table) := do
  let last ← items.getLast?
  return items.dropLast ++ [← change last]

/-- changes the table that keys lead to, making the tables on the way -/
def change (dotted : Bool) (f : Origin → Table → Option Table) (origin : Origin) (t : Table) :
    List String → Option Table
  | [] => f origin t
  | key :: path =>
    match t.get? key with
    | none => do
      let made := if dotted then Origin.dotted else .parent
      return t.put key (.table made (← change dotted f made [] path))
    | some (.table origin inner) =>
      if dotted && origin = .header then none
      else do return t.put key (.table origin (← change dotted f origin inner path))
    | some (.tables items) => do
      return t.put key (.tables (← changeLast (change dotted f .header · path) items))
    | some (.value _) => none

/-- adds a value under a key with dots: `path` and then `key` -/
def add (path : List String) (key : String) (n : Node) (t : Table) : Option Table :=
  change true (fun origin inner =>
    if (!path.isEmpty && origin ≠ .dotted) || (inner.get? key).isSome then none
    else some (inner.put key (.value n))) .header t path

def define (path : List String) (key : String) (t : Table) : Option Table :=
  change false (fun _ inner =>
    match inner.get? key with
    | none => some (inner.put key (.table .header []))
    | some (.table .parent entries) => some (inner.put key (.table .header entries))
    | some _ => none) .header t path

def append (path : List String) (key : String) (t : Table) : Option Table :=
  change false (fun _ inner =>
    match inner.get? key with
    | none => some (inner.put key (.tables [[]]))
    | some (.tables items) => some (inner.put key (.tables (items ++ [[]])))
    | some _ => none) .header t path

/-- changes the table that the last header opened -/
def within (f : Table → Option Table) (header : List String) (t : Table) : Option Table :=
  change false (fun _ inner => f inner) .header t header

end Table

/-! ## the finished document -/

mutual

def Entry.node : Entry → Node
  | .value n => n
  | .table _ entries => .map (nodesOfEntries entries)
  | .tables items => .seq (nodesOfTables items)

def nodesOfEntries : List (String × Entry) → List (Node × Node)
  | [] => []
  | (key, e) :: rest => (.text key, e.node) :: nodesOfEntries rest

def nodesOfTables : List (List (String × Entry)) → List Node
  | [] => []
  | t :: rest => .map (nodesOfEntries t) :: nodesOfTables rest

end

def Table.node (t : Table) : Node := .map (nodesOfEntries t)

end ObjectFilter.Document.Toml
