import ObjectFilter.Text.Insensitive

/-!
# Enumerations

An enumeration type with its members, each a name and a discriminant.  Names are looked up without
regard to case; of two members that answer, the first declared one does.
-/

namespace ObjectFilter

/-- an enumeration type, its members in the order of their declaration -/
structure Enumeration where
  name : String
  members : List (String × Int64)
deriving DecidableEq, Repr

namespace Enumeration

/-- the discriminant of the member with a name -/
def byName? (e : Enumeration) (name : String) : Option Int64 :=
  (e.members.find? fun m => Text.sameName m.1 name).map (·.2)

/-- the name of the member with a discriminant -/
def memberName? (e : Enumeration) (discriminant : Int64) : Option String :=
  (e.members.find? fun m => m.2 = discriminant).map (·.1)

def names (e : Enumeration) (discriminant : Int64) : Bool := (e.memberName? discriminant).isSome

/-! ## small facts -/

theorem names_iff (e : Enumeration) (d : Int64) : e.names d = true ↔ ∃ m ∈ e.members, m.2 = d := by
  simp [names, memberName?, List.find?_isSome]

theorem mem_of_byName? {e : Enumeration} {name : String} {d : Int64}
    (h : e.byName? name = some d) :
    ∃ m ∈ e.members, m.2 = d ∧ Text.sameName m.1 name = true := by
  obtain ⟨m, hm, rfl⟩ := Option.map_eq_some_iff.1 h
  exact ⟨m, List.mem_of_find?_eq_some hm, rfl, by simpa using List.find?_some hm⟩

end Enumeration

/-- a value of an enumeration type; its discriminant need not name a member -/
structure EnumValue where
  enumeration : Enumeration
  discriminant : Int64
deriving DecidableEq, Repr

namespace EnumValue

def name? (v : EnumValue) : Option String := v.enumeration.memberName? v.discriminant

def display (v : EnumValue) : String :=
  match v.name? with
  | some name => s!"{v.enumeration.name}.{name}"
  | none => s!"{v.enumeration.name}({v.discriminant.toInt})"

end EnumValue
end ObjectFilter
