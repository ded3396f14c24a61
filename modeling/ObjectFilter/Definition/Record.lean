import ObjectFilter.Definition
import ObjectFilter.Document.Node
import ObjectFilter.Number.Width

/-!
# Definitions as records

A definition is a record in a document, its conditions are records that tell their kind, and a literal is
any scalar.  `toNode` writes all fields; `ofNode?` takes false for a truth value that is left out and
no conditions where there are none, and lets unknown fields be.

An integer is read as a signed one if it fits, so that an unsigned literal that would fit comes back
signed.
-/

namespace ObjectFilter

open Document (Node)
open Number (Width)

namespace LiteralDefinition

def toNode : LiteralDefinition → Node
  | null => .null
  | bool b => .bool b
  | int n => .int n.toInt
  | uint n => .int n.toNat
  | float x => .float x
  | text s => .text s

def ofNode? : Node → Option LiteralDefinition
  | .null => some null
  | .bool b => some (bool b)
  | .int n =>
    if Width.w64.least ≤ n ∧ n ≤ Width.w64.greatest then some (int (Int64.ofInt n))
    else if 0 ≤ n ∧ n ≤ Width.w64.greatestUnsigned then some (uint (UInt64.ofNat n.toNat))
    else none
  | .float x => some (float x)
  | .text s => some (text s)
  | _ => none

end LiteralDefinition

def flagOfNode? : Option Node → Option Bool
  | some n => n.bool?
  | none => some false

namespace ConditionDefinition

def kindField : String := "kind"

def toNode : ConditionDefinition → Node
  | type negated => .record [(kindField, .text "type"), ("negate", .bool negated)]
  | string property operator value ignoreCase negated =>
    .record [(kindField, .text "string"), ("property", .text property),
      ("operator", .text operator), ("value", value.toNode), ("ignore_case", .bool ignoreCase),
      ("negate", .bool negated)]
  | comparison property operator value negated =>
    .record [(kindField, .text "comparison"), ("property", .text property),
      ("operator", .text operator), ("value", value.toNode), ("negate", .bool negated)]

def typeOfNode? (n : Node) : Option ConditionDefinition := do
  match ← n.fields? ["negate"] with
  | [negate] => return type (← flagOfNode? negate)
  | _ => none

def stringOfNode? (n : Node) : Option ConditionDefinition := do
  match ← n.fields? ["property", "operator", "value", "ignore_case", "negate"] with
  | [some property, some operator, some value, ignoreCase, negate] =>
    return string (← property.text?) (← operator.text?) (← LiteralDefinition.ofNode? value)
      (← flagOfNode? ignoreCase) (← flagOfNode? negate)
  | _ => none

def comparisonOfNode? (n : Node) : Option ConditionDefinition := do
  match ← n.fields? ["property", "operator", "value", "negate"] with
  | [some property, some operator, some value, negate] =>
    return comparison (← property.text?) (← operator.text?) (← LiteralDefinition.ofNode? value)
      (← flagOfNode? negate)
  | _ => none

def ofNode? (n : Node) : Option ConditionDefinition := do
  let (kind, fields) ← n.takeKind? kindField
  match kind with
  | "type" => typeOfNode? fields
  | "string" => stringOfNode? fields
  | "comparison" => comparisonOfNode? fields
  | _ => none

end ConditionDefinition

namespace Definition

def fieldNames : List String := ["target", "type_guard", "conditions"]

def toNode (d : Definition) : Node :=
  .record [("target", .text d.target), ("type_guard", .bool d.typeGuard),
    ("conditions", .seq (d.conditions.map (·.toNode)))]

def conditionsOfNode? : Option Node → Option (List ConditionDefinition)
  | some n => do (← n.seq?).mapM ConditionDefinition.ofNode?
  | none => some []

def ofNode? (n : Node) : Option Definition := do
  match ← n.fields? fieldNames with
  | [some target, typeGuard, conditions] =>
    return ⟨← target.text?, ← flagOfNode? typeGuard, ← conditionsOfNode? conditions⟩
  | _ => none

end Definition

/-! ## small facts -/

theorem LiteralDefinition.ofNode?_toNode_int (n : Int64) :
    ofNode? (LiteralDefinition.int n).toNode = some (.int n) := by
  have h1 : Width.w64.least ≤ n.toInt := n.minValue_le_toInt
  have h2 : n.toInt ≤ Width.w64.greatest := Int.le_sub_one_of_lt n.toInt_lt
  simp only [toNode, ofNode?]
  rw [if_pos ⟨h1, h2⟩, Int64.ofInt_toInt]

end ObjectFilter
