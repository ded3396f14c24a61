import ObjectFilter.Proofs.Definition.Refusal
import ObjectFilter.Proofs.Text.Name

/-!
# Validation

Validation asks of a definition that no name in it is blank, without a catalog and without binding
anything.  It is a necessary condition of compiling: a blank path has no first name, a blank tag is
no operator's, and no type that has a name answers to a blank one.  So a definition that compiles
is valid, and one whose names are found blank does not compile, whatever it is compiled with.

* `validate_cases`           the first condition with a blank name is blamed, for its property before
                             its operator;
* `Blank.exists_unbound`     a condition with a blank name is bound to no target;
* `valid_of_compiles`        validation and compilation of the same definition.
-/

namespace ObjectFilter

variable {α : Type} [Schema α]

/-! ## blank names -/

theorem Property.bind_of_blank {path : String} (h : Text.blank path = true) (owner : TypeKey) :
    (Property.bind owner path : Except FilterError (Property α)) = .error (.invalidPath path) := by
  have hblank := (Text.blank_iff path).mp h
  have hdot : '.' ∉ path.toList := by
    intro hmem
    exact absurd (hblank _ hmem) (by decide)
  unfold bind
  rw [Text.cut_of_notMem hdot]
  dsimp only
  rw [if_pos (isEmpty_ofList_trim_iff.mpr (Text.trim_of_blank hblank))]
  rfl

theorem operatorTag_of_blank {tag : String} (h : Text.blank tag = true) : operatorTag tag = "" := by
  unfold operatorTag
  rw [Text.trim_of_blank ((Text.blank_iff tag).mp h)]
  rfl

theorem StringOperator.empty_notMem_tags (operator : StringOperator) : "" ∉ operator.tags := by
  cases operator <;> decide

theorem ComparisonOperator.empty_notMem_tags (operator : ComparisonOperator) :
    "" ∉ operator.tags := by
  cases operator <;> decide

theorem TypeCatalog.get?_of_blank {α : Type} {catalog : TypeCatalog α}
    (hnames : ∀ d ∈ catalog.entries, Text.blank d.name = false) {name : String}
    (h : Text.blank name = true) : catalog.get? name = none := by
  refine List.find?_eq_none.mpr ?_
  intro d hd hsame
  have hblank := Text.blank_congr hsame
  rw [hnames d hd, h] at hblank
  cases hblank

namespace ConditionDefinition

/-- the blank name of a condition, as the error that it is at a position; a blank operator is one only
behind a property that is not blank -/
inductive Blank : ConditionDefinition → (Nat → DefinitionError) → Prop
  | property {d : ConditionDefinition} {path tag : String} (hnames : d.names? = some (path, tag))
      (hpath : Text.blank path = true) : Blank d .blankProperty
  | operator {d : ConditionDefinition} {path tag : String} (hnames : d.names? = some (path, tag))
      (hpath : Text.blank path = false) (htag : Text.blank tag = true) : Blank d .blankOperator

variable {d : ConditionDefinition} {name : Nat → DefinitionError}

theorem fault?_of_blank (h : d.Blank name) (index : Nat) : d.fault? index = some (name index) := by
  unfold fault?
  cases h with
  | property hnames hpath =>
    rw [hnames]
    dsimp only
    rw [if_pos hpath]
  | operator hnames hpath htag =>
    rw [hnames]
    dsimp only
    rw [if_neg (Bool.eq_false_iff.mp hpath), if_pos htag]

theorem fault?_of_not_blank (h : ∀ name, ¬ d.Blank name) (index : Nat) : d.fault? index = none := by
  unfold fault?
  cases hnames : d.names? with
  | none => rfl
  | some names =>
    have hpath : ¬ Text.blank names.1 = true := fun hpath => h _ (.property hnames hpath)
    have htag : ¬ Text.blank names.2 = true := fun htag =>
      h _ (.operator hnames (Bool.eq_false_iff.mpr hpath) htag)
    dsimp only
    rw [if_neg hpath, if_neg htag]

theorem firstFault?_cases (definitions : List ConditionDefinition) :
    ∀ index,
      (∃ i name, FirstRefused Blank definitions i name ∧
        firstFault? index definitions = some (name (index + i))) ∨
      (∀ d ∈ definitions, ∀ name, ¬ d.Blank name) ∧ firstFault? index definitions = none := by
  -- the position of the head is free: the tail starts one further
  induction definitions with
  | nil =>
    intro index
    exact .inr ⟨by simp, rfl⟩
  | cons d rest ih =>
    intro index
    by_cases hblank : ∃ name, d.Blank name
    · obtain ⟨name, hname⟩ := hblank
      left
      refine ⟨0, name, .head hname, ?_⟩
      rw [firstFault?, fault?_of_blank hname]
      rfl
    · have hnone := not_exists.mp hblank
      rw [firstFault?, fault?_of_not_blank hnone, Option.none_or]
      rcases ih (index + 1) with ⟨i, name, hfirst, hrest⟩ | ⟨hall, hrest⟩
      · left
        refine ⟨i + 1, name, hfirst.cons hnone, ?_⟩
        rw [hrest, Nat.add_right_comm, Nat.add_assoc]
      · exact .inr ⟨List.forall_mem_cons.mpr ⟨hnone, hall⟩, hrest⟩

/-- the names of a condition that is bound: a path of the target and the tag of an operator -/
theorem Binds.names_bound {target : TypeKey} {condition : Condition α}
    (h : d.Binds target condition) {path tag : String} (hnames : d.names? = some (path, tag)) :
    (∃ p : Property α, Property.bind target path = .ok p) ∧ operatorTag tag ≠ "" := by
  cases h with
  | type negated => cases hnames
  | string hpath htag =>
    cases hnames
    refine ⟨⟨_, hpath⟩, ?_⟩
    intro hempty
    rw [hempty] at htag
    exact StringOperator.empty_notMem_tags _ htag
  | comparison hpath htag =>
    cases hnames
    refine ⟨⟨_, hpath⟩, ?_⟩
    intro hempty
    rw [hempty] at htag
    exact ComparisonOperator.empty_notMem_tags _ htag

theorem Binds.not_blank {target : TypeKey} {condition : Condition α}
    (h : d.Binds target condition) (name : Nat → DefinitionError) : ¬ d.Blank name := by
  intro hblank
  cases hblank with
  | property hnames hpath =>
    obtain ⟨⟨p, hbind⟩, -⟩ := h.names_bound hnames
    cases hbind.symm.trans (Property.bind_of_blank hpath target)
  | operator hnames _ htag =>
    obtain ⟨-, hne⟩ := h.names_bound hnames
    exact hne (operatorTag_of_blank htag)

theorem Blank.exists_unbound (h : d.Blank name) (α : Type) [Schema α] (target : TypeKey) :
    ∃ e, d.Unbound α target e := by
  rcases unbound_or_binds α target d with hunbound | ⟨condition, hbinds⟩
  · exact hunbound
  · exact absurd h (hbinds.not_blank name)

end ConditionDefinition

/-! ## definitions -/

namespace Definition

variable {d : Definition}

theorem validate_cases (htarget : Text.blank d.target = false) :
    (∃ i name, FirstRefused ConditionDefinition.Blank d.conditions i name ∧
      d.validate = .error (name i)) ∨
    (∀ condition ∈ d.conditions, ∀ name, ¬ condition.Blank name) ∧ d.validate = .ok () := by
  unfold validate fault?
  rw [if_neg (Bool.eq_false_iff.mp htarget)]
  rcases ConditionDefinition.firstFault?_cases d.conditions 0 with
    ⟨i, name, hfirst, hfault⟩ | ⟨hnone, hfault⟩
  · left
    refine ⟨i, name, hfirst, ?_⟩
    rw [hfault, Nat.zero_add]
  · right
    refine ⟨hnone, ?_⟩
    rw [hfault]

/-- a definition with a blank name in a condition does not compile: its target is unknown, or a
condition up to that one is blamed -/
theorem result_of_blank (c : Compiler α) (catalog : Catalog α) {i : Nat}
    {definition : ConditionDefinition} (hdefinition : d.conditions[i]? = some definition)
    {name : Nat → DefinitionError} (hblank : definition.Blank name) :
    (c.compileDefinition catalog d).result = .error (.unknownType d.target) ∨
      ∃ j e, j ≤ i ∧ (c.compileDefinition catalog d).result = .error (.inCondition j e) := by
  rcases c.compileDefinition_cases catalog d with
    ⟨-, hresult⟩ | ⟨target, -, ⟨j, e, hfirst, hresult⟩ | ⟨conditions, hall, -⟩⟩
  · exact .inl hresult
  · obtain ⟨e', hunbound⟩ := hblank.exists_unbound α target.key
    exact .inr ⟨j, e, hfirst.le_of_refused hdefinition hunbound, hresult⟩
  · obtain ⟨_, -, hbinds⟩ := exists_of_forall₂_left hall (List.mem_of_getElem? hdefinition)
    exact absurd hblank (hbinds.not_blank name)

theorem result_of_invalid (c : Compiler α) (catalog : Catalog α)
    (htarget : Text.blank d.target = false) {error : DefinitionError}
    (h : d.validate = .error error) :
    ∃ i name, FirstRefused ConditionDefinition.Blank d.conditions i name ∧ error = name i ∧
      ((c.compileDefinition catalog d).result = .error (.unknownType d.target) ∨
        ∃ j e, j ≤ i ∧ (c.compileDefinition catalog d).result = .error (.inCondition j e)) := by
  rcases validate_cases htarget with ⟨i, name, hfirst, hinvalid⟩ | ⟨-, hvalid⟩
  · cases h.symm.trans hinvalid
    obtain ⟨definition, hdefinition, hblank⟩ := hfirst.1
    exact ⟨i, name, hfirst, rfl, result_of_blank c catalog hdefinition hblank⟩
  · cases h.symm.trans hvalid

/-- a definition that compiles is valid; one that is not valid is blamed for its first blank name, and is
not compiled past it -/
theorem valid_of_compiles (c : Compiler α) (catalog : Catalog α)
    (hnames : ∀ t ∈ catalog.entries, Text.blank t.name = false) (d : Definition) :
    ((∃ predicate, (c.compileDefinition catalog d).result = .ok predicate) →
      d.validate = .ok ()) ∧
    (Text.blank d.target = false → ∀ error, d.validate = .error error →
      ∃ i name, FirstRefused ConditionDefinition.Blank d.conditions i name ∧ error = name i ∧
        ((c.compileDefinition catalog d).result = .error (.unknownType d.target) ∨
          ∃ j e, j ≤ i ∧
            (c.compileDefinition catalog d).result = .error (.inCondition j e))) := by
  refine ⟨?_, fun htarget _ => result_of_invalid c catalog htarget⟩
  rintro ⟨predicate, hok⟩
  cases htarget : Text.blank d.target with
  | true =>
    -- no type of the catalog answers to a blank name
    have hnone : catalog.get? d.target = none := TypeCatalog.get?_of_blank hnames htarget
    have hunknown := Compiler.result_compileDefinition_of_unknown (c := c) hnone
    cases hok.symm.trans hunknown
  | false =>
    cases hvalid : d.validate with
    | ok => rfl
    | error error =>
      obtain ⟨i, name, -, -, hunknown | ⟨j, e, -, hcondition⟩⟩ :=
        result_of_invalid c catalog htarget hvalid
      · cases hok.symm.trans hunknown
      · cases hok.symm.trans hcondition

/-- containers of one hue, by an operator between blanks -/
def oneHue : Definition := ⟨"CONTAINER", true, [.comparison "hue" " EQ\t" (.int 5) false]⟩

/-- a blank operator, and behind it a blank property -/
def twoBlanks : Definition :=
  ⟨"Container", false,
    [.type true, .comparison "Hue" "\t" (.int 5) false, .string " " "" .null false false]⟩

/-- one definition that compiles, and one that is blamed for the operator of its second condition -/
theorem valid_of_compiles_world :
    oneHue.validate = .ok () ∧ twoBlanks.validate = .error (.blankOperator 1) ∧
      FirstRefused ConditionDefinition.Blank twoBlanks.conditions 1 .blankOperator ∧
      ∃ error, ((⟨World.registry, false⟩ : Compiler World.Entity).compileDefinition
        World.catalog twoBlanks).result = .error error := by
  have hnames : ∀ t ∈ World.catalog.entries, Text.blank t.name = false := by decide +kernel
  have hworld := valid_of_compiles (⟨World.registry, false⟩ : Compiler World.Entity) World.catalog
    hnames
  have hisOk : ((⟨World.registry, false⟩ : Compiler World.Entity).compileDefinition World.catalog
      oneHue).result.isOk = true := by
    decide +kernel
  have hinvalid : twoBlanks.validate = .error (.blankOperator 1) := by decide +kernel
  refine ⟨?_, hinvalid, ?_⟩
  · cases hresult : ((⟨World.registry, false⟩ : Compiler World.Entity).compileDefinition
        World.catalog oneHue).result with
    | ok predicate => exact (hworld oneHue).1 ⟨predicate, hresult⟩
    | error e =>
      rw [hresult] at hisOk
      cases hisOk
  · obtain ⟨i, name, hfirst, herror, hresult⟩ :=
      (hworld twoBlanks).2 (by decide +kernel) _ hinvalid
    obtain ⟨definition, -, hblank⟩ := hfirst.1
    cases hblank with
    | property => cases herror
    | operator =>
      cases herror
      refine ⟨hfirst, ?_⟩
      rcases hresult with hunknown | ⟨j, e, -, hcondition⟩
      · exact ⟨_, hunknown⟩
      · exact ⟨_, hcondition⟩

end Definition
end ObjectFilter
