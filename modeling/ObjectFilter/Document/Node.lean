import ObjectFilter.Number.Binary64

/-!
# Documents

What a document holds, whatever notation it is written in: null, truth values, numbers, texts, lists,
and maps whose entries keep their order.  Integers are apart from floating-point numbers.

A record is a map that names its fields, or a list that gives them in order.  `Node.fields?` reads
either form; a map may hold more than the fields, but no field twice.
-/

namespace ObjectFilter.Document

open Number (Binary64)

inductive Node
  | null
  | bool (b : Bool)
  | int (n : Int)
  | float (x : Binary64)
  | text (s : String)
  /-- a date or a time, as it is written -/
  | moment (s : String)
  | seq (items : List Node)
  | map (entries : List (Node × Node))
deriving Repr

namespace Node

def bool? : Node → Option Bool
  | bool b => some b
  | _ => none

def text? : Node → Option String
  | text s => some s
  | _ => none

def seq? : Node → Option (List Node)
  | seq items => some items
  | _ => none

/-! ## records -/

def record (fields : List (String × Node)) : Node := map (fields.map fun f => (text f.1, f.2))

/-- the position that a key of a map stands for: that of the field with its name, or the number
itself.  Names without a field get the position behind the last one. -/
def position? (names : List String) : Node → Option Nat
  | text s => some (names.idxOf s)
  | int n => if 0 ≤ n then some n.toNat else none
  | _ => none

/-- the field at a position, if it is there; twice is a fault -/
def fieldAt? (placed : List (Nat × Node)) (position : Nat) : Option (Option Node) :=
  match placed.filter (·.1 = position) with
  | [] => some none
  | [entry] => some (some entry.2)
  | _ => none

/-- the fields of a record, in the order of their names -/
def fields? (names : List String) : Node → Option (List (Option Node))
  | map entries => do
    let placed ← entries.mapM fun e => (position? names e.1).map (·, e.2)
    (List.range names.length).mapM (fieldAt? placed)
  | seq items =>
    if items.length ≤ names.length then
      some (items.map some ++ List.replicate (names.length - items.length) none)
    else none
  | _ => none

def isText (s : String) (n : Node) : Bool := n.text? == some s

/-- takes the field that tells the kind of a record out of it; in a list it comes first -/
def takeKind? (name : String) : Node → Option (String × Node)
  | map entries =>
    match entries.filter (·.1.isText name) with
    | [entry] => entry.2.text?.map (·, map (entries.filter (!·.1.isText name)))
    | _ => none
  | seq (first :: rest) => first.text?.map (·, seq rest)
  | _ => none

/-! ## small facts -/

theorem isText_iff (s : String) (n : Node) : n.isText s = true ↔ n = text s := by
  cases n <;> simp [isText, text?]

end Node
end ObjectFilter.Document
