import ObjectFilter.Operator

/-!
# Errors

Everything that can go wrong before a predicate exists: binding a property, reading a literal,
preparing a condition, looking up a type.  Evaluating a predicate never fails.  Types and properties
appear by the names that a message shows.
-/

namespace ObjectFilter

/-- why there is no predicate -/
inductive FilterError
  /-- the parser of the type rejects the literal -/
  | conversion (literal type reason : String)
  /-- the type has no parser -/
  | noParser (literal type : String)
  /-- the literal names no member of the enumeration -/
  | unknownMember (literal type : String)
  /-- the type has no value that the literal could stand for -/
  | mismatch (literal type : String)
  /-- a relational operator on a type without an order -/
  | notOrdered (property type : String) (operator : ComparisonOperator)
  /-- a condition on text over a property that is no text -/
  | notText (property type : String) (operator : StringOperator)
  /-- a search for null inside a text -/
  | nullSubstring (property : String) (operator : StringOperator)
  | unknownOperator (tag : String)
  /-- the type has no property of that name -/
  | unknownProperty (owner name : String)
  /-- a path that goes on behind a property that is no object -/
  | notAnObject (property type name : String)
  /-- a property of another type than the target -/
  | foreignProperty (property owner target : String)
  /-- a path with a blank segment -/
  | invalidPath (path : String)
  | unknownType (name : String)
  /-- an error of the condition at a position -/
  | inCondition (index : Nat) (source : FilterError)
deriving DecidableEq, Repr

namespace FilterError

/-- the error without the positions around it -/
def root : FilterError → FilterError
  | inCondition _ source => source.root
  | e => e

/-- the position of the outermost condition around the error -/
def index? : FilterError → Option Nat
  | inCondition index _ => some index
  | _ => none

def message : FilterError → String
  | conversion literal type reason =>
    s!"cannot convert literal \"{literal}\" to type '{type}': {reason}"
  | noParser literal type =>
    s!"cannot convert literal \"{literal}\" to type '{type}': no parser registered"
  | unknownMember literal type => s!"\"{literal}\" is not a member of enumeration '{type}'"
  | mismatch literal type => s!"literal {literal} does not match property type '{type}'"
  | notOrdered property type operator =>
    s!"property '{property}' of type '{type}' does not support relational comparison "
      ++ s!"({operator.display})"
  | notText property type operator =>
    s!"string operator {operator.display} requires a text property, but '{property}' is of type "
      ++ s!"'{type}'"
  | nullSubstring property operator =>
    s!"string operator {operator.display} on '{property}' cannot take a null literal"
  | unknownOperator tag => s!"unrecognized operator \"{tag}\""
  | unknownProperty owner name => s!"type '{owner}' has no property named '{name}'"
  | notAnObject property type name =>
    s!"cannot access '{name}' through '{property}' of non-object type '{type}'"
  | foreignProperty property owner target =>
    s!"property '{property}' belongs to type '{owner}', not to target type '{target}'"
  | invalidPath path => s!"invalid property path \"{path}\""
  | unknownType name => s!"unknown candidate type '{name}'"
  | inCondition index source => s!"condition {index}: {source.message}"

theorem root_inCondition (index : Nat) (e : FilterError) : (inCondition index e).root = e.root :=
  rfl

end FilterError

def StringOperator.ofTag (tag : String) : Except FilterError StringOperator :=
  match ofTag? tag with
  | some operator => .ok operator
  | none => .error (.unknownOperator tag)

def ComparisonOperator.ofTag (tag : String) : Except FilterError ComparisonOperator :=
  match ofTag? tag with
  | some operator => .ok operator
  | none => .error (.unknownOperator tag)

end ObjectFilter
