import ObjectFilter.Cache
import ObjectFilter.Text.Quoted

/-!
# Reports

The structure of values, types, conditions and predicates, written out for a developer: a record is its
name with its fields in braces, a wrapped value stands in parentheses behind its name, and texts are
quoted.
-/

namespace ObjectFilter

namespace Report

def record (name : String) (fields : List (String × String)) : String :=
  name ++ " \x7b " ++ Text.join ", " (fields.map fun f => f.1 ++ ": " ++ f.2) ++ " \x7d"

def wrapped (name : String) (content : String) : String := name ++ "(" ++ content ++ ")"

def list (items : List String) : String := "[" ++ Text.join ", " items ++ "]"

end Report

open Report

/-! ## types -/

def Enumeration.report (e : Enumeration) : String :=
  let members := e.members.map fun m => s!"({Text.quoted m.1}, {m.2.toInt})"
  record "EnumDescriptor" [("name", Text.quoted e.name), ("members", list members)]

def CustomType.report (t : CustomType) : String :=
  record "CustomType" [("name", Text.quoted t.name), ("ordered", toString t.ordered)]

def ValueType.report (α : Type) [Schema α] : ValueType → String
  | .bool => "Bool"
  | .char => "Char"
  | .signed w => s!"I{w.bits}"
  | .unsigned w => s!"U{w.bits}"
  | .single => "F32"
  | .double => "F64"
  | .text => "Text"
  | .enum e => wrapped "Enum" e.report
  | .custom t => wrapped "Custom" t.report
  | .object key => wrapped "Object" (wrapped "ObjectType" (Text.quoted (typeName α key)))

variable {α : Type} [Schema α]

def PropertyDescriptor.report (p : PropertyDescriptor α) : String :=
  record "PropertyDescriptor" [("name", Text.quoted p.name), ("value_type", p.type.report α)]

def TypeDescriptor.report (t : TypeDescriptor α) : String :=
  record "TypeDescriptor"
    [("name", Text.quoted t.name), ("properties", list (t.properties.map (·.report)))]

def Property.report (p : Property α) : String :=
  wrapped "Property" (typeName α p.owner ++ "." ++ p.path)

/-! ## values and parsers -/

section
omit [Schema α]

def EnumValue.report (v : EnumValue) : String :=
  record "EnumValue"
    [("descriptor", v.enumeration.report), ("discriminant", toString v.discriminant.toInt)]

def Value.report : Value α → String
  | .null => "Null"
  | .bool b => wrapped "Bool" (toString b)
  | .char c => wrapped "Char" (Text.quotedChar c)
  | .int n => wrapped "Int" (toString n.toInt)
  | .uint n => wrapped "UInt" (toString n.toNat)
  | .float x => wrapped "Float" x.report
  | .text s => wrapped "Text" (Text.quoted s)
  | .enum v => wrapped "Enum" v.report
  | .custom _ => "Custom(Any \x7b .. \x7d)"
  | .object _ => "Object(Any \x7b .. \x7d)"

def Parsed.report : Parsed α → String
  | .scalar v => wrapped "Scalar" v.report
  | .compound _ => "Compound(..)"

/-- what a parser gave, or its reason to reject the text -/
def Parsed.reportResult : Except String (Parsed α) → String
  | .ok p => wrapped "Ok" p.report
  | .error reason => wrapped "Err" (Text.quoted reason)

def Parser.report : Parser α → String
  | .styled _ => "Styled(..)"
  | .plain _ => "Plain(..)"

def Registry.report (r : Registry α) : String :=
  record "ParserRegistry" [("parsers", toString r.size)]

def Slot.report (s : Slot α) : String := "Slot<" ++ s.type ++ ">"

def Compiler.report (c : Compiler α) : String :=
  record "PredicateCompiler"
    [("resolver", record "LiteralResolver" [("registry", c.registry.report)]),
     ("type_guard", toString c.typeGuard)]

end

/-! ## conditions and predicates -/

def StringOperator.report : StringOperator → String
  | equal => "Equal"
  | notEqual => "NotEqual"
  | contains => "Contains"
  | startsWith => "StartsWith"
  | endsWith => "EndsWith"

def ComparisonOperator.report : ComparisonOperator → String
  | equal => "Equal"
  | notEqual => "NotEqual"
  | greater => "Greater"
  | greaterEqual => "GreaterEqual"
  | lesser => "Lesser"
  | lesserEqual => "LesserEqual"

def RawLiteral.report : RawLiteral → String
  | text s => wrapped "Text" (Text.quoted s)
  | null => "Null"
  | bool b => wrapped "Bool" (toString b)
  | char c => wrapped "Char" (Text.quotedChar c)
  | int n => wrapped "Int" (toString n.toInt)
  | uint n => wrapped "UInt" (toString n.toNat)
  | float x => wrapped "Float" x.report

def Condition.report : Condition α → String
  | .type c => wrapped "Type" (record "TypeCondition" [("not", toString c.negated)])
  | .string c =>
    wrapped "String" (record "StringCondition"
      [("property", c.property.report), ("operator", c.operator.report),
       ("value", c.value.report), ("ignore_case", toString c.ignoreCase),
       ("not", toString c.negated)])
  | .comparison c =>
    wrapped "Comparison" (record "ComparisonCondition"
      [("property", c.property.report), ("operator", c.operator.report),
       ("value", c.value.report), ("not", toString c.negated)])

def PreparedCondition.report (c : PreparedCondition α) : String :=
  wrapped "PreparedCondition" (Text.quoted c.label)

def Predicate.report (p : Predicate α) : String :=
  record "CompiledPredicate"
    [("target", Text.quoted (typeName α p.target)),
     ("conditions", list (p.conditions.map (·.report)))]

end ObjectFilter
