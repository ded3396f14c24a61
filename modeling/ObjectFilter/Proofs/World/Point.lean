import ObjectFilter.Proofs.Condition.Bound
import ObjectFilter.Proofs.Condition.RegisteredParser
import ObjectFilter.Proofs.World.Point.Reading

/-!
# Points as they are written

The display of a point is its text, and so are the displays with other white space and without the
parentheses.  Such a text is read as the point, stands for it in a condition on a property that holds points,
and so picks out the containers that are there.

* `laid_display`       the display is laid out;
* `display_readBack`   the displayed point, read, resolved and compared.
-/

namespace ObjectFilter.World.Point3D

open Text (Padded)

/-! ## displayed points -/

/-- the decimal text of the coordinate, with blanks around it -/
def Shows (cs : List Char) (n : Int32) : Prop := Padded cs (toString n.toInt).toList

theorem Shows.denotes {cs : List Char} {n : Int32} (h : Shows cs n) : Denotes cs n :=
  ⟨_, h, Number.spellsSigned_toString n.toInt⟩

theorem read_trimmed {p : Point3D} {text : String} (h : read text = .ok p) :
    read (Text.trimmed text) = .ok p := by
  rw [read_eq_ok_iff] at h ⊢
  unfold inner at h ⊢
  rw [Text.toList_trimmed, Text.trim_trim]
  exact h

theorem toList_display (p : Point3D) :
    p.display.toList = '(' :: List.intercalate [','] [(toString p.x.toInt).toList,
      ' ' :: (toString p.y.toInt).toList, ' ' :: (toString p.z.toInt).toList] ++ [')'] := by
  have hdisplay : p.display = "(" ++ toString p.x.toInt ++ ", " ++ toString p.y.toInt ++ ", " ++
      toString p.z.toInt ++ ")" := rfl
  rw [hdisplay, List.intercalate_cons_cons, List.intercalate_cons_cons, List.intercalate_singleton]
  simp

/-- the displayed point is laid out with a blank behind each comma -/
theorem laid_display (p : Point3D) : Laid Shows p p.display := by
  have hspace : ∀ cs, Padded (' ' :: cs) cs := fun cs =>
    ⟨[' '], [], List.forall_mem_singleton.mpr (by decide), List.forall_mem_nil _,
      (List.append_nil _).symm⟩
  refine ⟨_, _, ⟨_, _, _, .refl _, hspace _, hspace _, rfl⟩, .parentheses, ?_⟩
  rw [toList_display]
  exact .refl _

/-! ## conditions on points -/

theorem resolve_of_read {p : Point3D} {text : String} (h : read text = .ok p) {t : CustomType}
    (ht : t.key = .named "Point3D") :
    registry.resolve (.custom t) (.text text) =
      .ok (.slot ⟨.point p, t.name, Text.trimmed text⟩) := by
  obtain ⟨parse, hparse, hpoint⟩ : ∃ parse, registry.ReadsBy (.named "Point3D") parse ∧
      parse (Text.trimmed text) = .ok ⟨.point p, rfl⟩ := by
    refine ⟨_, Registry.readsBy_register .defaults _, ?_⟩
    rw [read_trimmed h]
    rfl
  have hkey : (ValueType.custom t).key? = some (.named "Point3D") := congrArg some ht
  exact Registry.resolve_of_readsBy hparse hkey nofun hpoint

theorem typeOf_eq_container_iff (e : Entity) :
    Schema.typeOf e = .named "Container" ↔ ∃ c, e = .container c := by
  constructor
  · intro h
    cases e with
    | container c => exact ⟨c, rfl⟩
    | _ => simp [Schema.typeOf, Entity.typeOf] at h
  · rintro ⟨c, rfl⟩
    rfl

theorem bind_location :
    (Property.bind (.named "Container") "Location" : Except FilterError (Property Entity)) =
      .ok locationOfContainer := by
  decide +kernel

theorem compile_location {p : Point3D} {text : String} (h : read text = .ok p) (typeGuard : Bool) :
    ∃ predicate : Predicate Entity,
      ((⟨registry, typeGuard⟩ : Compiler Entity).compile (.named "Container")
        [.comparison (.equals locationOfContainer text)]).result = .ok predicate ∧
      ∀ e, predicate.verify e = true ↔ ∃ c, e = .container c ∧ c.location = p := by
  have hfits : (ComparisonCondition.equals locationOfContainer text).Fits := fun hop => nomatch hop
  have hresolve : registry.resolve locationOfContainer.type (.text text) =
      .ok (.slot ⟨.point p, pointType.name, Text.trimmed text⟩) := resolve_of_read h rfl
  have hprepare : (Condition.comparison (.equals locationOfContainer text)).prepare registry =
      .ok _ :=
    (ComparisonCondition.prepare_eq_ok_iff (.equals locationOfContainer text) registry _).mpr
      ⟨hfits, _, hresolve, rfl⟩
  obtain ⟨predicate, hcompile, hverify⟩ :=
    (⟨registry, typeGuard⟩ : Compiler Entity).compile_single rfl hprepare
  refine ⟨predicate, hcompile, ?_⟩
  intro e
  by_cases he : Schema.typeOf e = .named "Container"
  · obtain ⟨c, rfl⟩ := (typeOf_eq_container_iff e).mp he
    have hsame : (ValueType.custom pointType).sameValue (.custom (Entity.point c.location))
        (.custom (.point p)) = decide (c.location = p) := ValueType.sameValue_compound rfl rfl
    have hanswer : predicate.verify (.container c) = decide (c.location = p) := by
      rw [hverify _ rfl, ComparisonCondition.evaluate_prepared_equals]
      exact hsame
    rw [hanswer, decide_eq_true_iff]
    simp
  · rw [Compiler.verify_comparison_of_typeOf_ne hcompile he]
    refine iff_of_false Bool.false_ne_true ?_
    rintro ⟨c, rfl, -⟩
    exact he rfl

/-- the display of a point, with blanks around it and around its coordinates and with its parentheses kept
or dropped, is the point again: as a text, as a literal and in a condition -/
theorem display_readBack (p : Point3D) :
    Laid Shows p p.display ∧
    ∀ text, Laid Shows p text →
      read text = .ok p ∧
      (∀ t : CustomType, t.key = .named "Point3D" →
        registry.resolve (.custom t) (.text text) =
          .ok (.slot ⟨.point p, t.name, Text.trimmed text⟩)) ∧
      ∃ location : Property Entity, Property.bind (.named "Container") "Location" = .ok location ∧
        ∀ typeGuard : Bool, ∃ predicate : Predicate Entity,
          ((⟨registry, typeGuard⟩ : Compiler Entity).compile (.named "Container")
            [.comparison (.equals location text)]).result = .ok predicate ∧
          ∀ e, predicate.verify e = true ↔ ∃ c, e = .container c ∧ c.location = p := by
  refine ⟨laid_display p, ?_⟩
  intro text hlaid
  have hread : read text = .ok p := read_of_laid (hlaid.imp fun _ _ => Shows.denotes)
  exact ⟨hread, fun _ => resolve_of_read hread, locationOfContainer, bind_location,
    compile_location hread⟩

/-- the least and the greatest coordinate, a tab and a line break around them and no parentheses -/
theorem display_readBack_bare :
    read "\t-2147483648 ,0,\n2147483647 " = .ok ⟨.minValue, 0, .maxValue⟩ ∧
    ∃ location : Property Entity, Property.bind (.named "Container") "Location" = .ok location ∧
      ∃ predicate : Predicate Entity,
        ((⟨registry, true⟩ : Compiler Entity).compile (.named "Container")
          [.comparison (.equals location "\t-2147483648 ,0,\n2147483647 ")]).result =
            .ok predicate ∧
        predicate.verify (.container { location := ⟨.minValue, 0, .maxValue⟩ }) = true ∧
        predicate.verify (.container { location := ⟨.minValue, 1, .maxValue⟩ }) = false := by
  have hx : Shows "\t-2147483648 ".toList Int32.minValue :=
    ⟨['\t'], [' '], List.forall_mem_singleton.mpr (by decide),
      List.forall_mem_singleton.mpr (by decide), by decide +kernel⟩
  have hz : Shows "\n2147483647 ".toList Int32.maxValue :=
    ⟨['\n'], [' '], List.forall_mem_singleton.mpr (by decide),
      List.forall_mem_singleton.mpr (by decide), by decide +kernel⟩
  have hlaid : Laid Shows ⟨.minValue, 0, .maxValue⟩ "\t-2147483648 ,0,\n2147483647 " :=
    ⟨_, _, ⟨_, _, _, hx, .refl _, hz, rfl⟩, .bare, .refl _⟩
  obtain ⟨hread, -, location, hbind, hcompile⟩ :=
    (display_readBack ⟨.minValue, 0, .maxValue⟩).2 _ hlaid
  obtain ⟨predicate, hresult, hverify⟩ := hcompile true
  refine ⟨hread, location, hbind, predicate, hresult, (hverify _).mpr ⟨_, rfl, rfl⟩, ?_⟩
  rw [← Bool.not_eq_true, hverify]
  rintro ⟨c, hc, hlocation⟩
  cases hc
  exact absurd hlocation (by decide)

end ObjectFilter.World.Point3D
