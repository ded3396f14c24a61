import ObjectFilter.Comparator
import ObjectFilter.Condition
import ObjectFilter.Literal

/-!
# Prepared conditions

A condition with its literal resolved and its test chosen.  Preparing is where a condition can fail;
a prepared condition answers for every candidate.  On something that is not of the target type, a test
of a property is false, negated or not.
-/

namespace ObjectFilter

variable {α : Type} [Schema α]

/-- the equality of types without an order -/
inductive Equality
  /-- the same object; one read from a literal is never an object that a candidate refers to -/
  | identity
  | custom (type : CustomType)
deriving DecidableEq, Repr

namespace Equality

def ofType : ValueType → Equality
  | .custom type => custom type
  | _ => identity

/-- whether two values that are there are equal; none if they are not compound -/
def testPresent? (e : Equality) (a b : Value α) : Option Bool :=
  match a.asAny?, b.asAny? with
  | some x, some y =>
    match e with
    | identity => some false
    | custom type => some (type.equal x y)
  | _, _ => none

/-- whether two values are equal; null equals null only -/
def test (e : Equality) (a b : Value α) : Bool :=
  match a, b with
  | .null, .null => true
  | .null, _ | _, .null => false
  | a, b => (e.testPresent? a b).getD false

end Equality

/-- whether two texts are the same, absent ones among them -/
def sameText (ignoreCase : Bool) (a b : Option String) : Bool :=
  if ignoreCase then Text.Insensitive.equalsNullable a b else a == b

/-- whether a text answers to a search; operators that search for nothing answer like `contains` -/
def searchText (operator : StringOperator) (ignoreCase : Bool) (s t : List Char) : Bool :=
  match operator, ignoreCase with
  | .startsWith, true => Text.Insensitive.startsWith s t
  | .endsWith, true => Text.Insensitive.endsWith s t
  | _, true => Text.Insensitive.contains s t
  | .startsWith, false => t.isPrefixOf s
  | .endsWith, false => t.isSuffixOf s
  | _, false => Text.hasInfix s t

/-- what a prepared condition asks of a candidate -/
inductive Test (α : Type) [Schema α]
  /-- it is of the target type -/
  | target
  /-- the text, or the null, of a property is a given one -/
  | sameText (property : Property α) (ignoreCase : Bool) (text : Option String)
  /-- the text of a property answers to a search -/
  | search (property : Property α) (operator : StringOperator) (ignoreCase : Bool) (text : String)
  /-- the value of a property has an order to a literal -/
  | ordered (property : Property α) (comparator : Comparator) (order : Ordering)
      (literal : Literal α)
  /-- the value of a property equals a literal -/
  | equal (property : Property α) (equality : Equality) (literal : Literal α)

namespace Test

def property? : Test α → Option (Property α)
  | target => none
  | sameText p _ _ | search p _ _ _ | ordered p _ _ _ | equal p _ _ => some p

/-- the literal of the test, if it was parsed into a compound value -/
def slot? : Test α → Option (Slot α)
  | ordered _ _ _ literal | equal _ _ literal => literal.slot?
  | _ => none

/-- whether a candidate of the target type passes -/
def holds (candidate : α) : Test α → Bool
  | target => true
  | sameText p ignoreCase text => ObjectFilter.sameText ignoreCase (p.read candidate).asText? text
  | search p operator ignoreCase text =>
    match p.read candidate with
    | .text s => searchText operator ignoreCase s.toList text.toList
    | _ => false
  | ordered p comparator order literal =>
    comparator.compareValues (p.read candidate) literal.value == order
  | equal p equality literal => equality.test (p.read candidate) literal.value

end Test

structure PreparedCondition (α : Type) [Schema α] where
  label : String
  test : Test α
  /-- the answer of the test is turned round -/
  flipped : Bool

namespace PreparedCondition

/-- the answer for a candidate narrowed to the target type, none if it is not of that type -/
def evaluate (c : PreparedCondition α) : Option α → Bool
  | some candidate => c.flipped ^^ c.test.holds candidate
  | none =>
    match c.test with
    | .target => c.flipped
    | _ => false

end PreparedCondition

/-! ## preparing -/

namespace TypeCondition

def prepare (c : TypeCondition) : PreparedCondition α := ⟨c.label, .target, c.negated⟩

end TypeCondition

namespace StringCondition

/-- the text that the property is compared with, none for null -/
def needle (c : StringCondition α) : Literal α → Except FilterError (Option String)
  | .const .null => .ok none
  | .const (.text s) => .ok (some s)
  | _ => .error (.mismatch c.value.display (c.property.type.name α))

/-- the test for a text or null; only equality takes null -/
def test (c : StringCondition α) : Option String → Except FilterError (Test α)
  | text =>
    match c.operator, text with
    | .equal, text | .notEqual, text => .ok (.sameText c.property c.ignoreCase text)
    | operator, some text => .ok (.search c.property operator c.ignoreCase text)
    | operator, none => .error (.nullSubstring c.property.path operator)

def prepared (c : StringCondition α) (l : Literal α) :
    Except FilterError (PreparedCondition α) := do
  let test ← c.test (← c.needle l)
  return ⟨c.label, test, c.negated ^^ (c.operator == .notEqual)⟩

def prepareLogged (c : StringCondition α) (registry : Registry α) :
    Logged (PreparedCondition α) := do
  if c.property.type ≠ .text then
    .fail (.notText c.property.path (c.property.type.name α) c.operator)
  else
    c.prepared (← registry.resolveLogged c.property.type c.value)

end StringCondition

namespace ComparisonCondition

def prepared (c : ComparisonCondition α) (l : Literal α) : PreparedCondition α :=
  match Comparator.ofType? c.property.type with
  | some k =>
    ⟨c.label, .ordered c.property k c.operator.ordering.1 l, c.negated ^^ c.operator.ordering.2⟩
  | none =>
    ⟨c.label, .equal c.property (Equality.ofType c.property.type) l,
      c.negated ^^ (c.operator == .notEqual)⟩

def prepareLogged (c : ComparisonCondition α) (registry : Registry α) :
    Logged (PreparedCondition α) := do
  let type := c.property.type
  if c.operator.isRelational && !type.isOrdered then
    .fail (.notOrdered c.property.path (type.name α) c.operator)
  else
    return c.prepared (← registry.resolveLogged type c.value)

end ComparisonCondition

def Condition.prepareLogged (c : Condition α) (registry : Registry α) :
    Logged (PreparedCondition α) :=
  match c with
  | .type c => return c.prepare
  | .string c => c.prepareLogged registry
  | .comparison c => c.prepareLogged registry

/-! ## without the events -/

def StringCondition.prepare (c : StringCondition α) (registry : Registry α) :
    Except FilterError (PreparedCondition α) :=
  (c.prepareLogged registry).result

def ComparisonCondition.prepare (c : ComparisonCondition α) (registry : Registry α) :
    Except FilterError (PreparedCondition α) :=
  (c.prepareLogged registry).result

def Condition.prepare (c : Condition α) (registry : Registry α) :
    Except FilterError (PreparedCondition α) :=
  (c.prepareLogged registry).result

/-! ## small facts -/

namespace PreparedCondition

theorem evaluate_some (c : PreparedCondition α) (a : α) :
    c.evaluate (some a) = (c.flipped ^^ c.test.holds a) := rfl

theorem evaluate_none (c : PreparedCondition α) (h : c.test.property?.isSome) :
    c.evaluate none = false := by
  obtain ⟨label, test, flipped⟩ := c
  cases test <;> simp_all [evaluate, Test.property?]

end PreparedCondition

end ObjectFilter
