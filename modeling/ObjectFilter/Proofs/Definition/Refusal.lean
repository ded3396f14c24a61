import ObjectFilter.Definition.Compile
import ObjectFilter.Proofs.Compiler.Faults
import ObjectFilter.Proofs.Property.Binding

/-!
# Why a definition is refused

A definition is refused for its target, else for the first condition whose names mean nothing, else
for the first condition that cannot be prepared.  All names come before all literals, so a condition
may be blamed although an earlier one has a literal that nothing can read.

* `bindFrom_cases`              conditions are bound as a whole, or up to the first whose names mean
                                nothing;
* `compileDefinition_outcome`   what a definition is refused for.
-/

namespace ObjectFilter

variable {α : Type} [Schema α]

/-! ## tags -/

section
variable {β : Type} {operators : List β} {tags : β → List String}

theorem find?_tags_eq_none_iff (hall : ∀ operator, operator ∈ operators) (tag : String) :
    operators.find? (fun operator => (tags operator).contains tag) = none ↔
      ∀ operator, tag ∉ tags operator := by
  simp [List.find?_eq_none, hall]

/-- of operators that share no tag, the one with a given tag is found -/
theorem find?_tags_eq_some_iff (hall : ∀ operator, operator ∈ operators)
    (hone : ∀ operator operator' tag, tag ∈ tags operator → tag ∈ tags operator' →
      operator = operator') (tag : String) (operator : β) :
    operators.find? (fun operator => (tags operator).contains tag) = some operator ↔
      tag ∈ tags operator := by
  constructor
  · intro h
    simpa using List.find?_some h
  · intro h
    cases hfind : operators.find? (fun operator => (tags operator).contains tag) with
    | none => exact absurd h ((find?_tags_eq_none_iff hall tag).mp hfind operator)
    | some other =>
      have hother : tag ∈ tags other := by simpa using List.find?_some hfind
      rw [hone other operator tag hother h]

end

namespace StringOperator

theorem eq_of_mem_tags (operator operator' : StringOperator) (tag : String)
    (h : tag ∈ operator.tags) (h' : tag ∈ operator'.tags) : operator = operator' := by
  have hshared : ∀ tag ∈ operator.tags, tag ∈ operator'.tags → operator = operator' := by
    cases operator <;> cases operator' <;> decide
  exact hshared tag h h'

theorem ofTag_of_mem_tags {tag : String} {operator : StringOperator}
    (h : operatorTag tag ∈ operator.tags) : ofTag tag = .ok operator := by
  have hfind := (find?_tags_eq_some_iff mem_all eq_of_mem_tags _ operator).mpr h
  unfold ofTag ofTag?
  rw [hfind]

theorem ofTag_of_unknown {tag : String}
    (h : ∀ operator : StringOperator, operatorTag tag ∉ operator.tags) :
    ofTag tag = .error (.unknownOperator tag) := by
  have hfind := (find?_tags_eq_none_iff mem_all (operatorTag tag)).mpr h
  unfold ofTag ofTag?
  rw [hfind]

end StringOperator

namespace ComparisonOperator

theorem eq_of_mem_tags (operator operator' : ComparisonOperator) (tag : String)
    (h : tag ∈ operator.tags) (h' : tag ∈ operator'.tags) : operator = operator' := by
  have hshared : ∀ tag ∈ operator.tags, tag ∈ operator'.tags → operator = operator' := by
    cases operator <;> cases operator' <;> decide
  exact hshared tag h h'

theorem ofTag_of_mem_tags {tag : String} {operator : ComparisonOperator}
    (h : operatorTag tag ∈ operator.tags) : ofTag tag = .ok operator := by
  have hfind := (find?_tags_eq_some_iff mem_all eq_of_mem_tags _ operator).mpr h
  unfold ofTag ofTag?
  rw [hfind]

theorem ofTag_of_unknown {tag : String}
    (h : ∀ operator : ComparisonOperator, operatorTag tag ∉ operator.tags) :
    ofTag tag = .error (.unknownOperator tag) := by
  have hfind := (find?_tags_eq_none_iff mem_all (operatorTag tag)).mpr h
  unfold ofTag ofTag?
  rw [hfind]

end ComparisonOperator

/-! ## the errors of paths -/

theorem Property.isOwn_of_bind_error {owner : TypeKey} {path : String} {e : FilterError}
    (h : (Property.bind owner path : Except FilterError (Property α)) = .error e) :
    e.isOwn = true := by
  obtain ⟨i, ⟨segment, -, hfault⟩, -⟩ := bind_eq_error_iff_blamed.mp h
  rcases hfault with ⟨-, rfl⟩ | ⟨links, -, hrefused⟩
  · rfl
  · cases hrefused with
    | blank => rfl
    | notAnObject => rfl
    | unknownProperty => rfl

theorem Property.owner_of_bind {owner : TypeKey} {path : String} {p : Property α}
    (h : Property.bind owner path = .ok p) : p.owner = owner :=
  ((bind_eq_ok_iff_follows ..).mp h).1

/-! ## the names of a condition -/

namespace ConditionDefinition

/-- why the names of a condition mean nothing -/
inductive Unbound (α : Type) [Schema α] (target : TypeKey) :
    ConditionDefinition → FilterError → Prop
  | property {c : ConditionDefinition} {path tag : String} {e : FilterError}
      (hnames : c.names? = some (path, tag))
      (hpath : (Property.bind target path : Except FilterError (Property α)) = .error e) :
      Unbound α target c e
  | stringOperator {path tag : String} {value : LiteralDefinition} {ignoreCase negated : Bool}
      {p : Property α} (hpath : Property.bind target path = .ok p)
      (htag : ∀ operator : StringOperator, operatorTag tag ∉ operator.tags) :
      Unbound α target (.string path tag value ignoreCase negated) (.unknownOperator tag)
  | comparisonOperator {path tag : String} {value : LiteralDefinition} {negated : Bool}
      {p : Property α} (hpath : Property.bind target path = .ok p)
      (htag : ∀ operator : ComparisonOperator, operatorTag tag ∉ operator.tags) :
      Unbound α target (.comparison path tag value negated) (.unknownOperator tag)

/-- the condition that a definition stands for -/
inductive Binds (target : TypeKey) : ConditionDefinition → Condition α → Prop
  | type (negated : Bool) : Binds target (.type negated) (.type ⟨negated⟩)
  | string {path tag : String} {value : LiteralDefinition} {ignoreCase negated : Bool}
      {p : Property α} {operator : StringOperator} (hpath : Property.bind target path = .ok p)
      (htag : operatorTag tag ∈ operator.tags) :
      Binds target (.string path tag value ignoreCase negated)
        (.string ⟨p, operator, value.raw, ignoreCase, negated⟩)
  | comparison {path tag : String} {value : LiteralDefinition} {negated : Bool}
      {p : Property α} {operator : ComparisonOperator} (hpath : Property.bind target path = .ok p)
      (htag : operatorTag tag ∈ operator.tags) :
      Binds target (.comparison path tag value negated)
        (.comparison ⟨p, operator, value.raw, negated⟩)

variable {target : TypeKey} {d : ConditionDefinition}

theorem unbound_or_binds (α : Type) [Schema α] (target : TypeKey) (d : ConditionDefinition) :
    (∃ e, d.Unbound α target e) ∨ ∃ condition : Condition α, d.Binds target condition := by
  cases d with
  | type negated => exact .inr ⟨_, .type negated⟩
  | string path tag value ignoreCase negated =>
    cases hpath : (Property.bind target path : Except FilterError (Property α)) with
    | error e => exact .inl ⟨e, .property rfl hpath⟩
    | ok p =>
      by_cases htag : ∃ operator : StringOperator, operatorTag tag ∈ operator.tags
      · obtain ⟨operator, htag⟩ := htag
        exact .inr ⟨_, .string hpath htag⟩
      · exact .inl ⟨_, .stringOperator hpath (not_exists.mp htag)⟩
  | comparison path tag value negated =>
    cases hpath : (Property.bind target path : Except FilterError (Property α)) with
    | error e => exact .inl ⟨e, .property rfl hpath⟩
    | ok p =>
      by_cases htag : ∃ operator : ComparisonOperator, operatorTag tag ∈ operator.tags
      · obtain ⟨operator, htag⟩ := htag
        exact .inr ⟨_, .comparison hpath htag⟩
      · exact .inl ⟨_, .comparisonOperator hpath (not_exists.mp htag)⟩

theorem bind_of_unbound {e : FilterError} (h : d.Unbound α target e) :
    (d.bind target : Except FilterError (Condition α)) = .error e := by
  cases h with
  | @property _ path tag _ hnames hpath =>
    cases d with
    | type negated => cases hnames
    | _ =>
      cases hnames
      unfold bind
      dsimp only
      rw [hpath]
      rfl
  | stringOperator hpath htag =>
    unfold bind
    dsimp only
    rw [hpath, StringOperator.ofTag_of_unknown htag]
    rfl
  | comparisonOperator hpath htag =>
    unfold bind
    dsimp only
    rw [hpath, ComparisonOperator.ofTag_of_unknown htag]
    rfl

theorem bind_of_binds {condition : Condition α} (h : d.Binds target condition) :
    d.bind target = .ok condition := by
  cases h with
  | type negated => rfl
  | string hpath htag =>
    unfold bind
    dsimp only
    rw [hpath, StringOperator.ofTag_of_mem_tags htag]
    rfl
  | comparison hpath htag =>
    unfold bind
    dsimp only
    rw [hpath, ComparisonOperator.ofTag_of_mem_tags htag]
    rfl

theorem Unbound.unique {e e' : FilterError} (h : d.Unbound α target e)
    (h' : d.Unbound α target e') : e = e' := by
  cases (bind_of_unbound h).symm.trans (bind_of_unbound h')
  rfl

theorem Unbound.isOwn {e : FilterError} (h : d.Unbound α target e) : e.isOwn = true := by
  cases h with
  | property _ hpath => exact Property.isOwn_of_bind_error hpath
  | _ => rfl

theorem Binds.not_unbound {condition : Condition α} (h : d.Binds target condition)
    (e : FilterError) : ¬ d.Unbound α target e := by
  intro hunbound
  cases (bind_of_binds h).symm.trans (bind_of_unbound hunbound)

theorem Binds.owner_eq {condition : Condition α} (h : d.Binds target condition) :
    ∀ p, condition.property? = some p → p.owner = target := by
  intro p hp
  cases h with
  | type negated => cases hp
  | string hpath htag =>
    cases hp
    exact Property.owner_of_bind hpath
  | comparison hpath htag =>
    cases hp
    exact Property.owner_of_bind hpath

theorem bindFrom_cases (α : Type) [Schema α] (target : TypeKey)
    (definitions : List ConditionDefinition) :
    ∀ index,
      (∃ i e, FirstRefused (Unbound α target) definitions i e ∧
        (bindFrom target index definitions : Except FilterError (List (Condition α)))
          = .error (.inCondition (index + i) e)) ∨
      ∃ conditions : List (Condition α), bindFrom target index definitions = .ok conditions ∧
        List.Forall₂ (Binds target) definitions conditions := by
  -- the position of the head is free: the tail starts one further
  induction definitions with
  | nil =>
    intro index
    exact .inr ⟨[], rfl, .nil⟩
  | cons d rest ih =>
    intro index
    rcases unbound_or_binds α target d with ⟨e, hunbound⟩ | ⟨condition, hbinds⟩
    · left
      refine ⟨0, e, .head hunbound, ?_⟩
      rw [bindFrom, bind_of_unbound hunbound]
      rfl
    · rw [bindFrom, bind_of_binds hbinds]
      dsimp only
      rcases ih (index + 1) with ⟨i, e, hfirst, hrest⟩ | ⟨conditions, hrest, hall⟩
      · left
        refine ⟨i + 1, e, hfirst.cons hbinds.not_unbound, ?_⟩
        rw [hrest, Nat.add_right_comm, Nat.add_assoc]
      · right
        refine ⟨condition :: conditions, ?_, .cons hbinds hall⟩
        rw [hrest]

end ConditionDefinition

/-! ## definitions -/

/-- over a property of the target, a condition is faulty if it cannot be prepared -/
theorem Condition.faulty_iff_of_owner {r : Registry α} {target : TypeKey} {condition : Condition α}
    (howner : ∀ p, condition.property? = some p → p.owner = target) (e : FilterError) :
    condition.Faulty r target e ↔ condition.prepare r = .error e := by
  have hprepare : ((⟨r, false⟩ : Compiler α).prepareOne target condition).result =
      condition.prepare r := Compiler.result_prepareOne_own _ howner
  rw [← hprepare]
  exact (Compiler.prepareOne_eq_error_iff ⟨r, false⟩ target condition e).symm

def Condition.Refused (r : Registry α) (condition : Condition α) (e : FilterError) : Prop :=
  condition.prepare r = .error e

theorem firstFault_iff_of_binds {r : Registry α} {target : TypeKey}
    {definitions : List ConditionDefinition} {conditions : List (Condition α)}
    (h : List.Forall₂ (ConditionDefinition.Binds target) definitions conditions) (i : Nat)
    (e : FilterError) :
    FirstFault r target conditions i e ↔
      FirstRefused (Condition.Refused r) conditions i e := by
  have hsame : ∀ condition ∈ conditions, ∀ e,
      condition.Faulty r target e ↔ condition.Refused r e := by
    intro condition hmem
    obtain ⟨_, -, hbinds⟩ := exists_of_forall₂_right h hmem
    exact Condition.faulty_iff_of_owner hbinds.owner_eq
  refine ⟨FirstRefused.congr hsame, ?_⟩
  exact FirstRefused.congr fun condition hmem e => (hsame condition hmem e).symm

namespace Compiler

/-- preparing does not ask whether the compiler guards -/
theorem prepareFrom_typeGuard (r : Registry α) (b b' : Bool) (target : TypeKey)
    (conditions : List (Condition α)) :
    ∀ index, (⟨r, b⟩ : Compiler α).prepareFrom target index conditions =
      (⟨r, b'⟩ : Compiler α).prepareFrom target index conditions :=
  prepareFrom_congr (List.forall₂_same.mpr fun _ _ => rfl)

theorem build_eq_compile (c : Compiler α) (target : TypeKey) (conditions : List (Condition α))
    (typeGuard : Bool) :
    c.build target conditions typeGuard =
      (⟨c.registry, typeGuard⟩ : Compiler α).compile target conditions := by
  unfold compile build
  rw [prepareFrom_typeGuard c.registry typeGuard c.typeGuard]

section
variable {c : Compiler α} {catalog : Catalog α} {d : Definition}

theorem compileDefinition_of_unknown {e : FilterError} (h : catalog.resolve d.target = .error e) :
    c.compileDefinition catalog d = ⟨.error e, [.targetUnknown d.target e]⟩ := by
  unfold compileDefinition
  rw [h]
  rfl

theorem compileDefinition_of_unbound {target : TypeDescriptor α} {e : FilterError}
    (h : catalog.resolve d.target = .ok target)
    (hbind : (ConditionDefinition.bindFrom target.key 0 d.conditions :
      Except FilterError (List (Condition α))) = .error e) :
    c.compileDefinition catalog d = ⟨.error e, [.rejected (typeName α target.key) e]⟩ := by
  unfold compileDefinition
  rw [h]
  dsimp only [Logged.ofExcept, Logged.reportError]
  rw [Logged.bind_of_ok rfl, hbind]
  rfl

theorem compileDefinition_of_bound {target : TypeDescriptor α} {conditions : List (Condition α)}
    (h : catalog.resolve d.target = .ok target)
    (hbind : ConditionDefinition.bindFrom target.key 0 d.conditions = .ok conditions) :
    c.compileDefinition catalog d =
      c.build target.key conditions (c.typeGuard || d.typeGuard) := by
  unfold compileDefinition
  rw [h]
  dsimp only [Logged.ofExcept, Logged.reportError]
  rw [Logged.bind_of_ok rfl, hbind]
  rfl

theorem result_compileDefinition_of_unknown (h : catalog.get? d.target = none) :
    (c.compileDefinition catalog d).result = .error (.unknownType d.target) := by
  rw [compileDefinition_of_unknown ((catalog.resolve_eq_error_iff ..).mpr ⟨h, rfl⟩)]

theorem result_compileDefinition_of_unbound {target : TypeDescriptor α} {e : FilterError}
    (h : catalog.get? d.target = some target)
    (hbind : (ConditionDefinition.bindFrom target.key 0 d.conditions :
      Except FilterError (List (Condition α))) = .error e) :
    (c.compileDefinition catalog d).result = .error e := by
  rw [compileDefinition_of_unbound ((catalog.resolve_eq_ok_iff ..).mpr h) hbind]

theorem result_compileDefinition_of_bound {target : TypeDescriptor α}
    {conditions : List (Condition α)} (h : catalog.get? d.target = some target)
    (hbind : ConditionDefinition.bindFrom target.key 0 d.conditions = .ok conditions) :
    (c.compileDefinition catalog d).result =
      ((⟨c.registry, c.typeGuard || d.typeGuard⟩ : Compiler α).compile target.key
        conditions).result := by
  rw [compileDefinition_of_bound ((catalog.resolve_eq_ok_iff ..).mpr h) hbind, build_eq_compile]

end

theorem compileDefinition_cases (c : Compiler α) (catalog : Catalog α) (d : Definition) :
    (catalog.get? d.target = none ∧
      (c.compileDefinition catalog d).result = .error (.unknownType d.target)) ∨
    ∃ target, catalog.get? d.target = some target ∧
      ((∃ i e, FirstRefused (ConditionDefinition.Unbound α target.key) d.conditions i e ∧
        (c.compileDefinition catalog d).result = .error (.inCondition i e)) ∨
      ∃ conditions : List (Condition α),
        List.Forall₂ (ConditionDefinition.Binds target.key) d.conditions conditions ∧
        ∀ error, (c.compileDefinition catalog d).result = .error error ↔
          ∃ i e, FirstRefused (Condition.Refused c.registry) conditions i e ∧
            error = .inCondition i e) := by
  cases htarget : catalog.get? d.target with
  | none => exact .inl ⟨rfl, result_compileDefinition_of_unknown htarget⟩
  | some target =>
    refine .inr ⟨target, rfl, ?_⟩
    rcases ConditionDefinition.bindFrom_cases α target.key d.conditions 0 with
      ⟨i, e, hfirst, hbind⟩ | ⟨conditions, hbind, hall⟩
    · left
      rw [Nat.zero_add] at hbind
      exact ⟨i, e, hfirst, result_compileDefinition_of_unbound htarget hbind⟩
    · right
      refine ⟨conditions, hall, ?_⟩
      intro error
      rw [result_compileDefinition_of_bound htarget hbind, result_compile_eq_error_iff]
      simp only [firstFault_iff_of_binds hall]

/-- the errors of a definition: of its target, or of a condition itself with its position -/
theorem root_of_compileDefinition_error {c : Compiler α} {catalog : Catalog α} {d : Definition}
    {error : FilterError} (h : (c.compileDefinition catalog d).result = .error error) :
    error = .unknownType d.target ∨ ∃ i e, error = .inCondition i e ∧ e.isOwn = true := by
  rcases compileDefinition_cases c catalog d with
    ⟨-, hresult⟩ | ⟨target, -, ⟨i, e, hfirst, hresult⟩ | ⟨conditions, hall, hresult⟩⟩
  · cases h.symm.trans hresult
    exact .inl rfl
  · cases h.symm.trans hresult
    obtain ⟨_, -, hunbound⟩ := hfirst.exists_mem
    exact .inr ⟨i, e, rfl, hunbound.isOwn⟩
  · -- names are bound on the target, so no condition reads a property of another type
    obtain ⟨i, e, hfirst, rfl⟩ := (hresult error).mp h
    right
    refine ⟨i, e, rfl, ?_⟩
    obtain ⟨condition, hmem, hrefused⟩ := hfirst.exists_mem
    obtain ⟨_, -, hbinds⟩ := exists_of_forall₂_right hall hmem
    exact ((Condition.faulty_iff_of_owner hbinds.owner_eq e).mpr hrefused).isOwn hbinds.owner_eq

theorem compileDefinition_outcome (c : Compiler α) (catalog : Catalog α) (d : Definition) :
    (catalog.get? d.target = none →
      (c.compileDefinition catalog d).result = .error (.unknownType d.target)) ∧
    (∀ target, catalog.get? d.target = some target →
      (∃ definition ∈ d.conditions, ∃ e, definition.Unbound α target.key e) →
      ∃ i e, FirstRefused (ConditionDefinition.Unbound α target.key) d.conditions i e ∧
        (c.compileDefinition catalog d).result = .error (.inCondition i e)) ∧
    (∀ target, catalog.get? d.target = some target →
      (∀ definition ∈ d.conditions, ∀ e, ¬ definition.Unbound α target.key e) →
      ∃ conditions : List (Condition α),
        List.Forall₂ (ConditionDefinition.Binds target.key) d.conditions conditions ∧
        ((∃ error, (c.compileDefinition catalog d).result = .error error) ↔
          ∃ condition ∈ conditions, ∃ e, condition.Refused c.registry e) ∧
        ∀ error, (c.compileDefinition catalog d).result = .error error ↔
          ∃ i e, FirstRefused (Condition.Refused c.registry) conditions i e ∧
            error = .inCondition i e) ∧
    (∀ i source, (c.compileDefinition catalog d).result = .error (.inCondition i source) →
      ∀ j e, source ≠ .inCondition j e) ∧
    ∀ error, (c.compileDefinition catalog d).result = .error error →
      ∀ property owner target, error.root ≠ .foreignProperty property owner target := by
  refine ⟨result_compileDefinition_of_unknown, ?_, ?_, ?_, ?_⟩
  · rintro target htarget ⟨definition, hmem, e, hunbound⟩
    rcases compileDefinition_cases c catalog d with
      ⟨hnone, -⟩ | ⟨target', htarget', hnames | ⟨conditions, hall, -⟩⟩
    · cases htarget.symm.trans hnone
    · cases htarget.symm.trans htarget'
      exact hnames
    · cases htarget.symm.trans htarget'
      obtain ⟨_, -, hbinds⟩ := exists_of_forall₂_left hall hmem
      exact absurd hunbound (hbinds.not_unbound e)
  · intro target htarget hbound
    rcases compileDefinition_cases c catalog d with
      ⟨hnone, -⟩ | ⟨target', htarget', ⟨i, e, hfirst, -⟩ | ⟨conditions, hall, hresult⟩⟩
    · cases htarget.symm.trans hnone
    · cases htarget.symm.trans htarget'
      obtain ⟨definition, hmem, hunbound⟩ := hfirst.exists_mem
      exact absurd hunbound (hbound definition hmem e)
    · cases htarget.symm.trans htarget'
      refine ⟨conditions, hall, ⟨?_, ?_⟩, hresult⟩
      · rintro ⟨error, herror⟩
        obtain ⟨i, e, hfirst, -⟩ := (hresult error).mp herror
        obtain ⟨condition, hmem, hrefused⟩ := hfirst.exists_mem
        exact ⟨condition, hmem, e, hrefused⟩
      · rintro ⟨condition, hmem, e, hrefused⟩
        obtain ⟨i, e', hfirst⟩ := FirstRefused.exists_of_mem hmem hrefused
        exact ⟨_, (hresult _).mpr ⟨i, e', hfirst, rfl⟩⟩
  · rintro i source h j e rfl
    rcases root_of_compileDefinition_error h with herror | ⟨_, _, herror, hown⟩
    · cases herror
    · cases herror
      cases hown
  · intro error h property owner target hroot
    rcases root_of_compileDefinition_error h with rfl | ⟨i, e, rfl, hown⟩
    · cases hroot
    · rw [FilterError.root_inCondition, FilterError.root_of_isOwn hown] at hroot
      subst hroot
      cases hown

/-- containers by a hue that cannot be read, by an operator that texts do not have, and by a
property that they do not have -/
def threeFaults : Definition :=
  ⟨"CONTAINER", true,
    [.comparison "Hue" "==" (.text "red") false,
     .string "Owner . name" "<" (.text "a") true false,
     .comparison "Colour" "==" .null true]⟩

/-- the second of three faulty conditions is blamed, the first for which a name means nothing -/
theorem compileDefinition_outcome_threeFaults :
    ((⟨World.registry, false⟩ : Compiler World.Entity).compileDefinition World.catalog
      threeFaults).result = .error (.inCondition 1 (.unknownOperator "<")) := by
  have htarget : World.catalog.get? threeFaults.target =
      some (World.describe (.named "Container")) := by rfl
  obtain ⟨hue, hhue⟩ : ∃ p : Property World.Entity,
      Property.bind (.named "Container") "Hue" = .ok p :=
    ⟨⟨.named "Container", [], ⟨.named "Container", ⟨1, by decide⟩⟩⟩, by decide +kernel⟩
  obtain ⟨name, hname⟩ : ∃ p : Property World.Entity,
      Property.bind (.named "Container") "Owner . name" = .ok p :=
    ⟨⟨.named "Container", [⟨.named "Container", ⟨8, by decide⟩⟩],
      ⟨.named "Mobile", ⟨0, by decide⟩⟩⟩, by decide +kernel⟩
  have hless : ∀ operator : StringOperator, operatorTag "<" ∉ operator.tags := by
    intro operator
    cases operator <;> decide +kernel
  have hexpected : FirstRefused (ConditionDefinition.Unbound World.Entity (.named "Container"))
      threeFaults.conditions 1 (.unknownOperator "<") := by
    refine .cons ?_ (.head (.stringOperator hname hless))
    have hbinds : ConditionDefinition.Binds (.named "Container")
        (.comparison "Hue" "==" (.text "red") false)
        (.comparison ⟨hue, .equal, .text "red", false⟩) :=
      .comparison hhue (by decide +kernel)
    exact hbinds.not_unbound
  obtain ⟨i, e, hfirst, hresult⟩ :=
    (compileDefinition_outcome (⟨World.registry, false⟩ : Compiler World.Entity) World.catalog
      threeFaults).2.1 _ htarget ⟨_, List.mem_cons_of_mem _ List.mem_cons_self, _,
        .stringOperator hname hless⟩
  obtain ⟨rfl, rfl⟩ := hfirst.unique (fun _ _ _ h h' => h.unique h') hexpected
  exact hresult

end Compiler
end ObjectFilter
