import ObjectFilter.Definition.Record
import ObjectFilter.Document.Json
import ObjectFilter.Document.Toml
import ObjectFilter.Document.Yaml
import ObjectFilter.Document.Yaml.Graph

/-!
# Reading definitions

A definition can be written in JSON, TOML or YAML.  What is read is validated; a text that is no document,
or whose document is no definition, is malformed.

In YAML the target may be any scalar, which is taken as it is written, and the definition itself has to
be a map.
-/

namespace ObjectFilter

open Document (Node)

inductive DocumentFormat
  | json
  | toml
  | yaml
deriving DecidableEq, Repr

/-- why a text gives no definition -/
inductive ReadError
  | malformed (format : DocumentFormat)
  | invalid (error : DefinitionError)
deriving DecidableEq, Repr

namespace Definition

open Document.Yaml (Graph Tree Walk)

/-- a field of a map in YAML, if it is there; twice is a fault -/
def treeField? (name : String) (entries : List (String × Tree)) : Option (Option Tree) :=
  match entries.filter (·.1 = name) with
  | [] => some none
  | [entry] => some (some entry.2)
  | _ => none

def conditionsOfTree (g : Graph) (t : Tree) : Walk (List ConditionDefinition) := do
  (← g.seq t).mapM fun item => do
    let n ← g.kindRecord ConditionDefinition.kindField (Graph.greatestDepth - 3) item
    ConditionDefinition.ofNode? n

def ofGraph (g : Graph) : Walk Definition := do
  match g.root with
  | .map _ entries =>
    let named ← entries.mapM fun e => do return (← g.text e.1, e.2)
    let some target ← treeField? "target" named | failure
    let target ← g.text target
    let typeGuard ← treeField? "type_guard" named
    let typeGuard ← typeGuard.mapM g.bool
    let conditions ← treeField? "conditions" named
    let conditions ← conditions.mapM (conditionsOfTree g)
    return ⟨target, typeGuard.getD false, conditions.getD []⟩
  | _ => failure

def ofTree? (t : Tree) : Option Definition := (Graph.ofTree t).run (ofGraph (Graph.ofTree t))

/-- the definition of a text, which may have blank names -/
def parse? : DocumentFormat → String → Option Definition
  | .json, text => (Document.Json.read text).bind fun t => (t.record? fieldNames).bind ofNode?
  | .toml, text => (Document.Toml.read text).bind ofNode?
  | .yaml, text => (Document.Yaml.read text).bind ofTree?

def read (format : DocumentFormat) (text : String) : Except ReadError Definition :=
  match parse? format text with
  | none => .error (.malformed format)
  | some d =>
    match d.validate with
    | .error e => .error (.invalid e)
    | .ok () => .ok d

/-! ## small facts -/

theorem read_eq_ok_iff (format : DocumentFormat) (text : String) (d : Definition) :
    read format text = .ok d ↔ parse? format text = some d ∧ d.validate = .ok () := by
  unfold read
  constructor
  · intro h
    split at h
    · cases h
    · split at h
      · cases h
      · next hv =>
        cases h
        exact ⟨by assumption, hv⟩
  · rintro ⟨hp, hv⟩
    rw [hp]
    simp only [hv]

end Definition
end ObjectFilter
