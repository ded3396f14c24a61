import ObjectFilter.RawLiteral
import ObjectFilter.Text.Blank
import ObjectFilter.Text.Quoted

/-!
# Definitions

A predicate as it is written down: the target and the properties by name, the operators by tag.  Whether
the names mean something is found out when the definition is compiled; `validate` only asks that the
target is not blank and that no condition has a blank property or operator.
-/

namespace ObjectFilter

open Number (Binary64)

inductive LiteralDefinition
  | null
  | bool (b : Bool)
  | int (n : Int64)
  | uint (n : UInt64)
  | float (x : Binary64)
  | text (s : String)
deriving DecidableEq, Repr

namespace LiteralDefinition

def raw : LiteralDefinition → RawLiteral
  | null => .null
  | bool b => .bool b
  | int n => .int n
  | uint n => .uint n
  | float x => .float x
  | text s => .text s

/-- the text of the literal, texts in quotes -/
def display : LiteralDefinition → String
  | text s => Text.quoted s
  | other => other.raw.display

end LiteralDefinition

inductive ConditionDefinition
  | type (negated : Bool)
  | string (property operator : String) (value : LiteralDefinition) (ignoreCase negated : Bool)
  | comparison (property operator : String) (value : LiteralDefinition) (negated : Bool)
deriving DecidableEq, Repr

/-- a predicate by its names -/
structure Definition where
  /-- the name of the target type -/
  target : String
  /-- put a type condition in front of conditions that do not start with one -/
  typeGuard : Bool
  conditions : List ConditionDefinition
deriving DecidableEq, Repr

/-! ## validation -/

/-- why a definition cannot mean anything -/
inductive DefinitionError
  | blankTarget
  | blankProperty (index : Nat)
  | blankOperator (index : Nat)
deriving DecidableEq, Repr

def DefinitionError.message (e : DefinitionError) : String :=
  "Invalid configuration: " ++
    match e with
    | blankTarget => "target type is empty"
    | blankProperty index => s!"condition {index}: property is empty"
    | blankOperator index => s!"condition {index}: operator is empty"

namespace ConditionDefinition

def names? : ConditionDefinition → Option (String × String)
  | type _ => none
  | string property operator .. | comparison property operator .. => some (property, operator)

/-- the first blank name of the condition at a position -/
def fault? (index : Nat) (c : ConditionDefinition) : Option DefinitionError :=
  match c.names? with
  | none => none
  | some (property, operator) =>
    if Text.blank property then some (.blankProperty index)
    else if Text.blank operator then some (.blankOperator index)
    else none

/-- the first blank name of conditions, the first of them at position `index` -/
def firstFault? (index : Nat) : List ConditionDefinition → Option DefinitionError
  | [] => none
  | c :: rest => (c.fault? index).or (firstFault? (index + 1) rest)

end ConditionDefinition

namespace Definition

/-- the first blank name of the definition -/
def fault? (d : Definition) : Option DefinitionError :=
  if Text.blank d.target then some .blankTarget
  else ConditionDefinition.firstFault? 0 d.conditions

/-- asks that no name is blank -/
def validate (d : Definition) : Except DefinitionError Unit :=
  match d.fault? with
  | some e => .error e
  | none => .ok ()

end Definition
end ObjectFilter
