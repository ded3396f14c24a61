import ObjectFilter.Definition.Compile
import ObjectFilter.Definition.Record
import ObjectFilter.Proofs.Compiler.Faults
import ObjectFilter.Proofs.Document.Record

/-!
# Definitions that are written and read back

A definition is read back as it was written, but for unsigned integers that signed ones hold: these come
back signed.  Nothing that is done with a definition tells the two apart, since every declared type takes
both integers for the same value, or refuses both with the same words.

* `ofNode?_toNode`             what is read back;
* `coerceInt?_of_le`           a type makes the same value of either integer;
* `build_preferSigned`         conditions compile to the same;
* `written_keepsMeaning`       the definition that is read back, validated and compiled.
-/

namespace ObjectFilter

open Number (Binary64 Width)
open Document (Node)

/-! ## unsigned integers as signed ones -/

/-- an unsigned integer becomes a signed one where it fits -/
def LiteralDefinition.preferSigned : LiteralDefinition → LiteralDefinition
  | uint n =>
    if (n.toNat : Int) ≤ Width.w64.greatest then int (Int64.ofNat n.toNat) else uint n
  | other => other

def ConditionDefinition.preferSigned : ConditionDefinition → ConditionDefinition
  | type negated => type negated
  | string property operator value ignoreCase negated =>
    string property operator value.preferSigned ignoreCase negated
  | comparison property operator value negated =>
    comparison property operator value.preferSigned negated

def Definition.preferSigned (d : Definition) : Definition :=
  { d with conditions := d.conditions.map ConditionDefinition.preferSigned }

/-! ## reading what was written -/

theorem LiteralDefinition.ofNode?_toNode (l : LiteralDefinition) :
    ofNode? l.toNode = some l.preferSigned := by
  cases l with
  | int n => exact ofNode?_toNode_int n
  | uint n =>
    have hleast : Width.w64.least ≤ (n.toNat : Int) := by
      have hneg : Width.w64.least ≤ 0 := by decide
      omega
    by_cases hfits : (n.toNat : Int) ≤ Width.w64.greatest
    · have hread : ofNode? (.int n.toNat) = some (int (Int64.ofInt n.toNat)) :=
        if_pos ⟨hleast, hfits⟩
      show ofNode? (.int n.toNat) = some (if _ then _ else _)
      rw [hread, if_pos hfits]
      rfl
    · have hmax : (n.toNat : Int) ≤ Width.w64.greatestUnsigned := by
        have hlt := n.toNat_lt
        have hsize : Width.w64.greatestUnsigned = 2 ^ 64 - 1 := by decide
        omega
      have hread : ofNode? (.int n.toNat) = some (uint (UInt64.ofNat (n.toNat : Int).toNat)) := by
        show (if _ then _ else if _ then _ else _) = _
        rw [if_neg (fun h => hfits h.2), if_pos ⟨by omega, hmax⟩]
      show ofNode? (.int n.toNat) = some (if _ then _ else _)
      rw [hread, if_neg hfits, Int.toNat_natCast, UInt64.ofNat_toNat]
  | _ => rfl

namespace ConditionDefinition

theorem typeOfNode?_record (negated : Bool) :
    typeOfNode? (.record [("negate", .bool negated)]) = some (.type negated) := by
  have hnames : ["negate"].Nodup := by decide
  have hfields : (Node.record [("negate", .bool negated)]).fields? ["negate"] =
      some [some (.bool negated)] := Node.fields?_record rfl hnames
  unfold typeOfNode?
  rw [hfields]
  rfl

theorem stringOfNode?_record (property operator : String) (value : LiteralDefinition)
    (ignoreCase negated : Bool) :
    stringOfNode? (.record [("property", .text property), ("operator", .text operator),
      ("value", value.toNode), ("ignore_case", .bool ignoreCase), ("negate", .bool negated)]) =
        some (.string property operator value.preferSigned ignoreCase negated) := by
  have hnames : ["property", "operator", "value", "ignore_case", "negate"].Nodup := by decide
  have hfields : (Node.record [("property", .text property), ("operator", .text operator),
      ("value", value.toNode), ("ignore_case", .bool ignoreCase),
      ("negate", .bool negated)]).fields?
        ["property", "operator", "value", "ignore_case", "negate"] =
      some [some (.text property), some (.text operator), some value.toNode,
        some (.bool ignoreCase), some (.bool negated)] := Node.fields?_record rfl hnames
  unfold stringOfNode?
  rw [hfields]
  show (LiteralDefinition.ofNode? value.toNode >>= _) = _
  rw [LiteralDefinition.ofNode?_toNode]
  rfl

theorem comparisonOfNode?_record (property operator : String) (value : LiteralDefinition)
    (negated : Bool) :
    comparisonOfNode? (.record [("property", .text property), ("operator", .text operator),
      ("value", value.toNode), ("negate", .bool negated)]) =
        some (.comparison property operator value.preferSigned negated) := by
  have hnames : ["property", "operator", "value", "negate"].Nodup := by decide
  have hfields : (Node.record [("property", .text property), ("operator", .text operator),
      ("value", value.toNode), ("negate", .bool negated)]).fields?
        ["property", "operator", "value", "negate"] =
      some [some (.text property), some (.text operator), some value.toNode,
        some (.bool negated)] := Node.fields?_record rfl hnames
  unfold comparisonOfNode?
  rw [hfields]
  show (LiteralDefinition.ofNode? value.toNode >>= _) = _
  rw [LiteralDefinition.ofNode?_toNode]
  rfl

theorem ofNode?_toNode (c : ConditionDefinition) : ofNode? c.toNode = some c.preferSigned := by
  unfold ofNode? toNode
  cases c with
  | type negated =>
    have hkind : kindField ∉ ["negate"] := by decide
    dsimp only
    rw [Node.takeKind?_record hkind]
    exact typeOfNode?_record negated
  | string property operator value ignoreCase negated =>
    have hkind : kindField ∉ ["property", "operator", "value", "ignore_case", "negate"] := by
      decide
    dsimp only
    rw [Node.takeKind?_record hkind]
    exact stringOfNode?_record property operator value ignoreCase negated
  | comparison property operator value negated =>
    have hkind : kindField ∉ ["property", "operator", "value", "negate"] := by decide
    dsimp only
    rw [Node.takeKind?_record hkind]
    exact comparisonOfNode?_record property operator value negated

end ConditionDefinition

theorem Definition.ofNode?_toNode (d : Definition) :
    ofNode? d.toNode = some d.preferSigned := by
  have hnames : fieldNames.Nodup := by decide
  have hfields : d.toNode.fields? fieldNames = some [some (.text d.target),
      some (.bool d.typeGuard), some (.seq (d.conditions.map (·.toNode)))] :=
    Node.fields?_record rfl hnames
  have hconditions : (d.conditions.map (·.toNode)).mapM ConditionDefinition.ofNode? =
      some (d.conditions.map ConditionDefinition.preferSigned) := by
    rw [List.mapM_map]
    exact mapM_eq_some_map fun c _ => c.ofNode?_toNode
  unfold ofNode?
  rw [hfields]
  show ((d.conditions.map (·.toNode)).mapM ConditionDefinition.ofNode? >>= _) = _
  rw [hconditions]
  rfl

/-! ## validating -/

namespace ConditionDefinition

theorem names?_preferSigned (c : ConditionDefinition) : c.preferSigned.names? = c.names? := by
  cases c <;> rfl

theorem firstFault?_preferSigned (conditions : List ConditionDefinition) :
    ∀ index, firstFault? index (conditions.map preferSigned) = firstFault? index conditions := by
  induction conditions with
  | nil =>
    intro index
    rfl
  | cons c rest ih =>
    intro index
    have hfault : c.preferSigned.fault? index = c.fault? index := by
      unfold fault?
      rw [names?_preferSigned]
    rw [List.map_cons, firstFault?, firstFault?, hfault, ih]

end ConditionDefinition

theorem Definition.validate_preferSigned (d : Definition) :
    d.preferSigned.validate = d.validate := by
  have hfault : d.preferSigned.fault? = d.fault? := by
    show (if _ then _ else ConditionDefinition.firstFault? 0 (d.conditions.map _)) = _
    rw [ConditionDefinition.firstFault?_preferSigned]
    rfl
  unfold validate
  rw [hfault]

/-! ## literals -/

/-- a declared type makes the same value of an unsigned integer and of the signed one -/
theorem coerceInt?_of_le {α : Type} (t : ValueType) {n : UInt64}
    (h : (n.toNat : Int) ≤ Width.w64.greatest) :
    (coerceInt? t (Int64.ofNat n.toNat) : Option (Value α)) = coerceUInt? t n := by
  have hint := Width.toInt_ofNat_of_le h
  cases t with
  | signed w => rw [coerceUInt?_of_signed rfl, if_pos h]
  | enum e => rw [coerceUInt?_of_signed rfl, if_pos h]
  | unsigned w =>
    rw [coerceInt?_unsigned, coerceUInt?_unsigned, hint, Int.toNat_natCast, UInt64.ofNat_toNat]
    simp
  | single =>
    show some (Value.float (Binary64.ofInt .single (Int64.ofNat n.toNat).toInt)) = _
    rw [hint]
    rfl
  | double =>
    show some (Value.float (Binary64.ofInt .double (Int64.ofNat n.toNat).toInt)) = _
    rw [hint]
    rfl
  | _ => rfl

def RawLiteral.preferSigned : RawLiteral → RawLiteral
  | uint n =>
    if (n.toNat : Int) ≤ Width.w64.greatest then int (Int64.ofNat n.toNat) else uint n
  | other => other

theorem LiteralDefinition.raw_preferSigned (l : LiteralDefinition) :
    l.preferSigned.raw = l.raw.preferSigned := by
  cases l with
  | uint n =>
    show LiteralDefinition.raw (if _ then _ else _) = if _ then _ else _
    split <;> rfl
  | _ => rfl

namespace RawLiteral

/-- a literal stays as it is, or is an integer that is not negative and becomes signed -/
theorem preferSigned_cases (raw : RawLiteral) :
    raw.preferSigned = raw ∨ ∃ n : UInt64, (n.toNat : Int) ≤ Width.w64.greatest ∧
      raw = .uint n ∧ raw.preferSigned = .int (Int64.ofNat n.toNat) := by
  cases raw with
  | uint n =>
    by_cases h : (n.toNat : Int) ≤ Width.w64.greatest
    · exact .inr ⟨n, h, rfl, if_pos h⟩
    · exact .inl (if_neg h)
  | _ => exact .inl rfl

theorem display_preferSigned (raw : RawLiteral) : raw.preferSigned.display = raw.display := by
  rcases raw.preferSigned_cases with hsame | ⟨n, h, rfl, hsigned⟩
  · rw [hsame]
  · rw [hsigned]
    show toString (Int64.ofNat n.toNat).toInt = toString n.toNat
    rw [Width.toInt_ofNat_of_le h]
    rfl

end RawLiteral

variable {α : Type} [Schema α]

theorem Registry.resolveLogged_preferSigned (r : Registry α) (t : ValueType) (raw : RawLiteral) :
    r.resolveLogged t raw.preferSigned = r.resolveLogged t raw := by
  have hdisplay := raw.display_preferSigned
  rcases raw.preferSigned_cases with hsame | ⟨n, h, rfl, hsigned⟩
  · rw [hsame]
  · have hcoerce : (coerce? t (.int (Int64.ofNat n.toNat)) : Option (Value α)) =
        coerce? t (.uint n) := by
      have hmade : (coerceInt? t (Int64.ofNat n.toNat) : Option (Value α)) = coerceUInt? t n :=
        coerceInt?_of_le t h
      cases t <;> exact hmade
    rw [hsigned] at hdisplay ⊢
    rw [resolveLogged_of_not_isText r t _ rfl, resolveLogged_of_not_isText r t (.uint n) rfl,
      hdisplay, hcoerce]

/-! ## conditions -/

namespace Condition

def preferSigned : Condition α → Condition α
  | type c => type c
  | string c => string { c with value := c.value.preferSigned }
  | comparison c => comparison { c with value := c.value.preferSigned }

theorem property?_preferSigned (c : Condition α) : c.preferSigned.property? = c.property? := by
  cases c <;> rfl

theorem isTypeGuard_preferSigned (c : Condition α) :
    c.preferSigned.isTypeGuard = c.isTypeGuard := by
  cases c <;> rfl

theorem prepareLogged_preferSigned (c : Condition α) (r : Registry α) :
    c.preferSigned.prepareLogged r = c.prepareLogged r := by
  cases c with
  | type c => rfl
  | string c =>
    have hprepared : ({ c with value := c.value.preferSigned } : StringCondition α).prepared =
        c.prepared := by
      unfold StringCondition.prepared StringCondition.needle StringCondition.label
      dsimp only
      rw [RawLiteral.display_preferSigned]
      rfl
    show StringCondition.prepareLogged _ r = c.prepareLogged r
    unfold StringCondition.prepareLogged
    dsimp only
    rw [hprepared, Registry.resolveLogged_preferSigned]
  | comparison c =>
    have hprepared : ({ c with value := c.value.preferSigned } : ComparisonCondition α).prepared =
        c.prepared := by
      unfold ComparisonCondition.prepared ComparisonCondition.label
      dsimp only
      rw [RawLiteral.display_preferSigned]
    show ComparisonCondition.prepareLogged _ r = c.prepareLogged r
    unfold ComparisonCondition.prepareLogged
    dsimp only
    rw [hprepared, Registry.resolveLogged_preferSigned]

end Condition

namespace Compiler

theorem prepareOne_preferSigned (c : Compiler α) (target : TypeKey) (condition : Condition α) :
    c.prepareOne target condition.preferSigned = c.prepareOne target condition := by
  unfold prepareOne checkOwner
  rw [condition.property?_preferSigned, condition.prepareLogged_preferSigned]

theorem prepareFrom_preferSigned (c : Compiler α) (target : TypeKey)
    (conditions : List (Condition α)) (index : Nat) :
    c.prepareFrom target index (conditions.map Condition.preferSigned) =
      c.prepareFrom target index conditions := by
  refine prepareFrom_congr ?_ index
  rw [List.forall₂_map_left_iff, List.forall₂_same]
  exact fun condition _ => c.prepareOne_preferSigned target condition

theorem build_preferSigned (c : Compiler α) (target : TypeKey) (conditions : List (Condition α))
    (typeGuard : Bool) :
    c.build target (conditions.map Condition.preferSigned) typeGuard =
      c.build target conditions typeGuard := by
  have hguard : needsGuard typeGuard (conditions.map Condition.preferSigned) =
      needsGuard typeGuard conditions := by
    cases conditions with
    | nil => rfl
    | cons condition rest =>
      show (typeGuard && !condition.preferSigned.isTypeGuard) = _
      rw [condition.isTypeGuard_preferSigned]
      rfl
  unfold build guards
  rw [hguard, prepareFrom_preferSigned]

end Compiler

/-! ## definitions -/

namespace ConditionDefinition

theorem bind_preferSigned (target : TypeKey) (c : ConditionDefinition) :
    (c.preferSigned.bind target : Except FilterError (Condition α)) =
      (c.bind target).map Condition.preferSigned := by
  cases c with
  | type negated => rfl
  | string property operator value ignoreCase negated =>
    unfold preferSigned bind
    dsimp only
    rw [value.raw_preferSigned]
    cases (Property.bind target property : Except FilterError (Property α)) with
    | error e => rfl
    | ok p => cases StringOperator.ofTag operator <;> rfl
  | comparison property operator value negated =>
    unfold preferSigned bind
    dsimp only
    rw [value.raw_preferSigned]
    cases (Property.bind target property : Except FilterError (Property α)) with
    | error e => rfl
    | ok p => cases ComparisonOperator.ofTag operator <;> rfl

theorem bindFrom_preferSigned (target : TypeKey) (definitions : List ConditionDefinition) :
    ∀ index,
      (bindFrom target index (definitions.map preferSigned) :
        Except FilterError (List (Condition α))) =
      (bindFrom target index definitions).map (List.map Condition.preferSigned) := by
  induction definitions with
  | nil =>
    intro index
    rfl
  | cons d rest ih =>
    intro index
    rw [List.map_cons, bindFrom, bindFrom, bind_preferSigned]
    cases (d.bind target : Except FilterError (Condition α)) with
    | error e => rfl
    | ok condition =>
      dsimp only [Except.map]
      rw [ih]
      cases (bindFrom target (index + 1) rest : Except FilterError (List (Condition α))) <;> rfl

end ConditionDefinition

theorem Compiler.compileDefinition_preferSigned (c : Compiler α) (catalog : Catalog α)
    (d : Definition) : c.compileDefinition catalog d.preferSigned = c.compileDefinition catalog d := by
  unfold compileDefinition Definition.preferSigned
  dsimp only
  congr 1
  funext target
  rw [ConditionDefinition.bindFrom_preferSigned]
  cases (ConditionDefinition.bindFrom target.key 0 d.conditions :
      Except FilterError (List (Condition α))) with
  | error e => rfl
  | ok conditions => exact c.build_preferSigned target.key conditions _

theorem Definition.written_keepsMeaning (d : Definition) :
    ofNode? d.toNode = some d.preferSigned ∧ d.preferSigned.validate = d.validate ∧
      ∀ (α : Type) [Schema α] (c : Compiler α) (catalog : Catalog α),
        c.compileDefinition catalog d.preferSigned = c.compileDefinition catalog d :=
  ⟨d.ofNode?_toNode, d.validate_preferSigned, fun _ _ c catalog =>
    c.compileDefinition_preferSigned catalog d⟩

end ObjectFilter
