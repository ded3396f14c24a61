import ObjectFilter.FilterError
import ObjectFilter.Schema

/-!
# Catalogs

The types that a predicate may name as its target, by their descriptors and in the order they were added.
A type is added once: a second descriptor of it is dropped, under whatever name.  Of two types that answer
to a name, without regard to case, the earlier one does.

Any descriptor can be added.  Predicates are compiled over catalogs that describe their types as the schema
does.
-/

namespace ObjectFilter

variable {α : Type}

/-- types that can be named -/
structure TypeCatalog (α : Type) where
  entries : List (TypeDescriptor α)

namespace TypeCatalog

def empty : TypeCatalog α := ⟨[]⟩

def contains (c : TypeCatalog α) (key : TypeKey) : Bool := c.entries.any (·.key = key)

/-- the catalog with one more type; a type that is in it already stays as it is -/
def register (c : TypeCatalog α) (d : TypeDescriptor α) : TypeCatalog α :=
  if c.contains d.key then c else ⟨c.entries ++ [d]⟩

def ofList (ds : List (TypeDescriptor α)) : TypeCatalog α := ds.foldl register empty

def get? (c : TypeCatalog α) (name : String) : Option (TypeDescriptor α) :=
  c.entries.find? fun d => Text.sameName d.name name

def resolve (c : TypeCatalog α) (name : String) : Except FilterError (TypeDescriptor α) :=
  match c.get? name with
  | some d => .ok d
  | none => .error (.unknownType name)

def size (c : TypeCatalog α) : Nat := c.entries.length

def isEmpty (c : TypeCatalog α) : Bool := c.entries.isEmpty

/-! ## small facts -/

theorem contains_iff (c : TypeCatalog α) (key : TypeKey) :
    c.contains key = true ↔ ∃ d ∈ c.entries, d.key = key := by
  simp [contains]

theorem register_of_contains {c : TypeCatalog α} {d : TypeDescriptor α}
    (h : c.contains d.key = true) : c.register d = c := by
  unfold register
  rw [if_pos h]

theorem entries_register_of_new {c : TypeCatalog α} {d : TypeDescriptor α}
    (h : ¬ c.contains d.key = true) : (c.register d).entries = c.entries ++ [d] := by
  unfold register
  rw [if_neg h]

theorem mem_entries_of_mem_register {c : TypeCatalog α} {d e : TypeDescriptor α}
    (h : e ∈ (c.register d).entries) : e ∈ c.entries ∨ e = d := by
  by_cases hd : c.contains d.key = true
  · rw [register_of_contains hd] at h
    exact .inl h
  · rw [entries_register_of_new hd] at h
    simpa using h

theorem resolve_eq_ok_iff (c : TypeCatalog α) (name : String) (d : TypeDescriptor α) :
    c.resolve name = .ok d ↔ c.get? name = some d := by
  unfold resolve
  cases c.get? name <;> simp

theorem resolve_eq_error_iff (c : TypeCatalog α) (name : String) (e : FilterError) :
    c.resolve name = .error e ↔ c.get? name = none ∧ e = .unknownType name := by
  unfold resolve
  cases c.get? name <;> simp [eq_comm]

end TypeCatalog

/-! ## catalogs of a schema -/

variable [Schema α]

/-- types that can be named as the schema names them -/
structure Catalog (α : Type) [Schema α] extends TypeCatalog α where
  described : ∀ d ∈ entries, d = Schema.descriptor d.key

namespace Catalog

def empty : Catalog α := ⟨.empty, nofun⟩

def register (c : Catalog α) (key : TypeKey) : Catalog α where
  toTypeCatalog := c.toTypeCatalog.register (Schema.descriptor key)
  described := by
    intro d hd
    rcases TypeCatalog.mem_entries_of_mem_register hd with hmem | rfl
    · exact c.described d hmem
    · rw [Schema.key_descriptor]

def ofList (keys : List TypeKey) : Catalog α := keys.foldl register empty

end Catalog
end ObjectFilter
