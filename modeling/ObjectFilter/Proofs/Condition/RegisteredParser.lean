import ObjectFilter.Proofs.Condition.Preparation
import ObjectFilter.Proofs.Condition.Single
import ObjectFilter.World.Parsers

/-!
# Literals that a registered parser reads

The embedding program registers parsers of compound values.  A condition `property == text` over a compound
type then accepts a candidate exactly if its value equals what the parser gives for the text.  Over a
scalar type, where the registered parser takes the place of the scalar's own, the literal is still a
compound value, and no scalar that a property reads is equal to it.

* `Registry.resolve_of_readsBy`   the literal holds what the parser gives;
* `ValueType.sameValue_compound`, `ValueType.sameValue_of_not_isCompound`   what equals such a literal;
* `verify_registeredParser`       the answer of the compiled condition.
-/

namespace ObjectFilter

variable {α : Type} [Schema α]

/-! ## registered parsers -/

/-- the parser that is registered for a function from texts to compound values -/
def Parser.compound {key : TypeKey} (parse : String → Except String (Instance α key)) : Parser α :=
  .plain fun text => (parse text).map fun v => .compound v.1

namespace Registry

/-- the literals of the type are read by a registered function -/
def ReadsBy (r : Registry α) (key : TypeKey) (parse : String → Except String (Instance α key)) :
    Prop :=
  r.get? key = some (.compound parse)

section
variable {r : Registry α} {key other : TypeKey} {parse : String → Except String (Instance α key)}

theorem readsBy_register (r : Registry α) (parse : String → Except String (Instance α key)) :
    (r.register key parse).ReadsBy key parse := get?_insert_self ..

theorem ReadsBy.insert (h : r.ReadsBy key parse) (hne : key ≠ other) (parser : Parser α) :
    (r.insert other parser).ReadsBy key parse := by
  unfold ReadsBy
  rw [get?_insert_of_ne r _ hne]
  exact h

/-- the literal is a compound value, also where the type is a scalar -/
theorem resolve_of_readsBy (h : r.ReadsBy key parse) {t : ValueType} (hkey : t.key? = some key)
    (hobject : ∀ k, t ≠ .object k) {text : String} {v : Instance α key}
    (hv : parse (Text.trimmed text) = .ok v) :
    r.resolve t (.text text) = .ok (.slot ⟨v.1, t.name α, Text.trimmed text⟩) := by
  have hvalue : t.isReference = false := by
    cases t with
    | text => cases hkey
    | object k => exact absurd rfl (hobject k)
    | _ => rfl
  have hsome : t.key?.isSome := by rw [hkey]; rfl
  have hparser : r.parser? t = some (.compound parse) := by
    unfold parser?
    rw [hkey]
    exact h
  have hrun : runParser (.compound parse) (Text.trimmed text) = .ok (.compound v.1) := by
    show (parse (Text.trimmed text)).map _ = _
    rw [hv]
    rfl
  have haccept : (acceptParsed t (Text.trimmed text) (.compound v.1)).result =
      .ok (.slot ⟨v.1, t.name α, Text.trimmed text⟩) := by
    rw [acceptParsed_compound_eq_ok_iff, v.2]
    exact ⟨hkey, rfl⟩
  rw [resolve_text, resolveText_eq_parse r t text hsome (by simp [hvalue]), parse_eq_ok_iff]
  exact ⟨_, _, hparser, hrun, haccept⟩

end

end Registry

/-! ## what is equal to a literal -/

/-- whether two things are one value of the compound type, by its order if it has one -/
def CustomType.agree (t : CustomType) (a b : α) : Bool :=
  if t.ordered then Schema.order a b == .eq else Schema.equal a b

namespace ValueType

/-- the test of a condition for equality over the type -/
def sameValue (t : ValueType) (v w : Value α) : Bool :=
  match Comparator.ofType? t with
  | some k => k.compareValues v w == .eq
  | none => (Equality.ofType t).test v w

theorem compareValues_lt_of_not_isCompound (k : Comparator) {w : Value α}
    (hw : w.isCompound = false) (a : α) : k.compareValues w (.custom a) = .lt := by
  cases w with
  | custom b => cases hw
  | object b => cases hw
  | _ => cases k <;> rfl

theorem sameValue_of_not_isCompound (t : ValueType) {w : Value α} (hw : w.isCompound = false)
    (a : α) : t.sameValue w (.custom a) = false := by
  unfold sameValue
  cases Comparator.ofType? t with
  | some k =>
    show (k.compareValues w (.custom a) == .eq) = false
    rw [compareValues_lt_of_not_isCompound k hw]
    rfl
  | none =>
    cases w with
    | custom b => cases hw
    | object b => cases hw
    | _ => rfl

theorem sameValue_compound {t : CustomType} {a b : α} (ha : Schema.typeOf a = t.key)
    (hb : Schema.typeOf b = t.key) :
    (ValueType.custom t).sameValue (.custom a) (.custom b) = t.agree a b := by
  unfold sameValue CustomType.agree
  cases hordered : t.ordered with
  | true =>
    have hcompare : t.compare? a b = some (Schema.order a b) := if_pos ⟨hordered, ha, hb⟩
    simp only [Comparator.ofType?, hordered, if_true]
    show (((Comparator.custom t).comparePresent? (.custom a) (.custom b)).getD _ == .eq) = _
    rw [Comparator.comparePresent?, hcompare]
    rfl
  | false =>
    simp only [Comparator.ofType?, hordered, Bool.false_eq_true, if_false]
    show t.equal a b = Schema.equal a b
    simp [CustomType.equal, ha, hb]

end ValueType

namespace ComparisonCondition

/-- `property == text`, not negated -/
def equals (p : Property α) (text : String) : ComparisonCondition α :=
  ⟨p, .equal, .text text, false⟩

theorem evaluate_prepared_equals (p : Property α) (text : String) (l : Literal α) (a : α) :
    ((equals p text).prepared l).evaluate (some a) = p.type.sameValue (p.read a) l.value := by
  unfold prepared ValueType.sameValue equals
  dsimp only
  cases Comparator.ofType? p.type <;> exact Bool.false_xor _

end ComparisonCondition

/-! ## conditions -/

section
variable {r : Registry α} {key : TypeKey} {parse : String → Except String (Instance α key)}

/-- the value that the parser gives is what a compound property has to equal; a property that reads
a scalar is never equal to it -/
theorem verify_registeredParser (hparse : r.ReadsBy key parse) {p : Property α}
    (hkey : p.type.key? = some key) (hobject : ∀ k, p.type ≠ .object k) {text : String}
    {v : Instance α key} (hv : parse (Text.trimmed text) = .ok v) (typeGuard : Bool) :
    ∃ predicate : Predicate α,
      ((⟨r, typeGuard⟩ : Compiler α).compile p.owner
        [.comparison (.equals p text)]).result = .ok predicate ∧
      ∀ a, Schema.typeOf a = p.owner →
        (∀ t, p.type = .custom t → ∀ b : Instance α key, p.read a = .custom b.1 →
          predicate.verify a = t.agree b.1 v.1) ∧
        ((p.read a).isCompound = false → predicate.verify a = false) := by
  have hresolve := Registry.resolve_of_readsBy hparse hkey hobject hv
  have hfits : (ComparisonCondition.equals p text).Fits := fun hop => nomatch hop
  have hprepare : (Condition.comparison (.equals p text)).prepare r = .ok _ :=
    (ComparisonCondition.prepare_eq_ok_iff (.equals p text) r _).mpr ⟨hfits, _, hresolve, rfl⟩
  obtain ⟨predicate, hcompile, hverify⟩ :=
    Compiler.compile_single (⟨r, typeGuard⟩ : Compiler α) rfl hprepare
  refine ⟨predicate, hcompile, ?_⟩
  intro a ha
  rw [hverify a ha, ComparisonCondition.evaluate_prepared_equals, Literal.value]
  refine ⟨?_, ?_⟩
  · intro t ht b hb
    have htkey : t.key = key := by
      rw [ht] at hkey
      exact Option.some_inj.mp hkey
    rw [ht, hb]
    exact ValueType.sameValue_compound (b.2.trans htkey.symm) (v.2.trans htkey.symm)
  · intro hscalar
    exact p.type.sameValue_of_not_isCompound hscalar v.1

end

def containerProperty (i : Fin World.containerProperties.length) : Property World.Entity :=
  ⟨.named "Container", [], ⟨.named "Container", i⟩⟩

def hueOfContainer : Property World.Entity := containerProperty ⟨1, by decide⟩

def locationOfContainer : Property World.Entity := containerProperty ⟨5, by decide⟩

/-- points are registered, and after them serial numbers -/
theorem verify_registeredParser_point :
    ∃ predicate : Predicate World.Entity,
      ((⟨World.registerSerial World.registry, true⟩ : Compiler World.Entity).compile
        (.named "Container") [.comparison (.equals locationOfContainer " (1, 2, 3) ")]).result
          = .ok predicate ∧
      predicate.verify (.container { location := ⟨1, 2, 3⟩ }) = true ∧
      predicate.verify (.container { location := ⟨1, 2, 4⟩ }) = false := by
  obtain ⟨parse, hparse, hpoint⟩ :
      ∃ parse, (World.registerSerial World.registry).ReadsBy (.named "Point3D") parse ∧
        parse (Text.trimmed " (1, 2, 3) ") = .ok ⟨.point ⟨1, 2, 3⟩, rfl⟩ :=
    ⟨_, (Registry.readsBy_register .defaults _).insert (by decide) _, rfl⟩
  obtain ⟨predicate, hcompile, hverify⟩ :=
    verify_registeredParser hparse (p := locationOfContainer) rfl (by rintro k ⟨⟩) hpoint true
  refine ⟨predicate, hcompile, ?_, ?_⟩
  · exact (hverify _ rfl).1 World.pointType rfl ⟨.point ⟨1, 2, 3⟩, rfl⟩ rfl
  · exact (hverify _ rfl).1 World.pointType rfl ⟨.point ⟨1, 2, 4⟩, rfl⟩ rfl

/-- a parser that is registered for 32 bits reads `5` as the number that the hue of the container is,
and the condition does not accept the container -/
theorem match_lost_registeredInt32 :
    ∃ parse, (World.registerInt32 .defaults).ReadsBy (.signed .w32) parse ∧
      parse "5" = .ok ⟨.int32 5, rfl⟩ ∧
      hueOfContainer.type = .signed .w32 ∧
      hueOfContainer.read (.container { hue := 5 }) = Field.value (5 : Int32) ∧
      ∃ predicate : Predicate World.Entity,
        ((⟨World.registerInt32 .defaults, false⟩ : Compiler World.Entity).compile
          (.named "Container") [.comparison (.equals hueOfContainer "5")]).result
            = .ok predicate ∧
        predicate.verify (.container { hue := 5 }) = false := by
  refine ⟨_, Registry.readsBy_register .defaults _, rfl, rfl, rfl, _, rfl, ?_⟩
  rfl

end ObjectFilter
