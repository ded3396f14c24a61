import ObjectFilter.Text.Blank
import ObjectFilter.Text.Insensitive

/-!
# Operators

The operators of the two families of property conditions, and the tags that name them.  A tag is read
without regard to case and to white space around it.
-/

namespace ObjectFilter

/-- a tag as it is looked up: trimmed, its letters small -/
def operatorTag (tag : String) : String := String.ofList (Text.asciiLower (Text.trim tag.toList))

inductive StringOperator
  | equal
  | notEqual
  | contains
  | startsWith
  | endsWith
deriving DecidableEq, Repr

namespace StringOperator

def all : List StringOperator := [equal, notEqual, contains, startsWith, endsWith]

def tags : StringOperator → List String
  | equal => ["==", "=", "eq", "equal", "equals"]
  | notEqual => ["!=", "ne", "not_equal", "not_equals"]
  | contains => ["~", "contains"]
  | startsWith => ["starts_with", "startswith"]
  | endsWith => ["ends_with", "endswith"]

def ofTag? (tag : String) : Option StringOperator :=
  all.find? fun op => op.tags.contains (operatorTag tag)

/-- operators that look for the literal inside the text -/
def isSubstring : StringOperator → Bool
  | contains | startsWith | endsWith => true
  | equal | notEqual => false

def display : StringOperator → String
  | equal => "=="
  | notEqual => "!="
  | contains => "contains"
  | startsWith => "starts_with"
  | endsWith => "ends_with"

theorem mem_all (op : StringOperator) : op ∈ all := by cases op <;> decide

end StringOperator

inductive ComparisonOperator
  | equal
  | notEqual
  | greater
  | greaterEqual
  | lesser
  | lesserEqual
deriving DecidableEq, Repr

namespace ComparisonOperator

def all : List ComparisonOperator :=
  [equal, notEqual, greater, greaterEqual, lesser, lesserEqual]

def tags : ComparisonOperator → List String
  | equal => ["==", "=", "eq", "equal", "equals"]
  | notEqual => ["!=", "ne", "not_equal", "not_equals"]
  | greater => [">", "gt", "greater"]
  | greaterEqual => [">=", "gte", "greater_equal"]
  | lesser => ["<", "lt", "lesser", "less"]
  | lesserEqual => ["<=", "lte", "lesser_equal", "less_equal"]

def ofTag? (tag : String) : Option ComparisonOperator :=
  all.find? fun op => op.tags.contains (operatorTag tag)

/-- operators that need an order -/
def isRelational : ComparisonOperator → Bool
  | equal | notEqual => false
  | greater | greaterEqual | lesser | lesserEqual => true

def display : ComparisonOperator → String
  | equal => "=="
  | notEqual => "!="
  | greater => ">"
  | greaterEqual => ">="
  | lesser => "<"
  | lesserEqual => "<="

/-- the order that the operator tests for, and whether the test is turned round -/
def ordering : ComparisonOperator → Ordering × Bool
  | equal => (.eq, false)
  | notEqual => (.eq, true)
  | greater => (.gt, false)
  | lesser => (.lt, false)
  | greaterEqual => (.lt, true)
  | lesserEqual => (.gt, true)

/-- whether the operator holds between two values in the given order -/
def accepts (op : ComparisonOperator) (o : Ordering) : Bool :=
  op.ordering.2 ^^ (o == op.ordering.1)

theorem mem_all (op : ComparisonOperator) : op ∈ all := by cases op <;> decide

theorem accepts_equal (o : Ordering) : equal.accepts o = o.isEq := by cases o <;> rfl

theorem accepts_notEqual (o : Ordering) : notEqual.accepts o = o.isNe := by cases o <;> rfl

theorem accepts_greater (o : Ordering) : greater.accepts o = o.isGT := by cases o <;> rfl

theorem accepts_greaterEqual (o : Ordering) : greaterEqual.accepts o = o.isGE := by cases o <;> rfl

theorem accepts_lesser (o : Ordering) : lesser.accepts o = o.isLT := by cases o <;> rfl

theorem accepts_lesserEqual (o : Ordering) : lesserEqual.accepts o = o.isLE := by cases o <;> rfl

end ComparisonOperator
end ObjectFilter
