import ObjectFilter.Proofs.Condition.Bound
import ObjectFilter.Proofs.Text.Blank

/-!
# Character literals

A character can be supplied as a text of one character, with white space around it, or as a typed literal.
White space around a text does not count, so a character that is white space itself has no text of its own:
nothing is left of it, and the parser refuses the empty text.  As a typed literal every character stands
for itself.

* `resolve_text_char`       what a text comes to where a character is expected;
* `verify_characterEquals`  the candidates that `property == c` accepts;
* `resolve_character`       which texts stand for a character, and the condition with it.
-/

namespace ObjectFilter

variable {α : Type} [Schema α]

/-! ## texts of one character -/

/-- why a text is refused where a character is expected -/
def notOneCharacter : String := "expected exactly one character"

theorem resolve_text_char (text : String) :
    (Registry.defaults : Registry α).resolve .char (.text text) =
      match Text.trim text.toList with
      | [c] => .ok (.const (.char c))
      | _ => .error (.conversion (Text.trimmed text) "char" notOneCharacter) := by
  have hkey : Parser.ofScalar? .char = some (.char : Parser α) := rfl
  have hparser : (Registry.defaults : Registry α).parser? .char = some .char :=
    Registry.get?_defaults_of_ofScalar? hkey
  have hnull : ValueType.char.isReference = true → text ≠ nullWord := nofun
  rw [Registry.resolve_text, Registry.resolveText_eq_parse _ _ _ rfl hnull, Registry.parse_eq,
    hparser]
  simp only [Registry.runParser, Parser.char, Text.toList_trimmed]
  cases Text.trim text.toList with
  | nil => rfl
  | cons c rest =>
    cases rest with
    | nil => rfl
    | cons d rest => rfl

theorem trim_of_padded_char {c : Char} {cs : List Char} (h : Text.Padded cs [c]) :
    Text.trim cs = if Text.isBlank c then [] else [c] := by
  rw [h.trim_eq]
  cases hc : Text.isBlank c with
  | true =>
    have hblank : ∀ d ∈ [c], Text.isBlank d = true := List.forall_mem_singleton.mpr hc
    show Text.trimEnd (Text.trimStart [c]) = []
    rw [Text.trimStart_of_blank hblank]
    rfl
  | false =>
    have hkeep : ∀ d ∈ [c], Text.isBlank d = false := List.forall_mem_singleton.mpr hc
    exact Text.trim_eq_self hkeep

/-- a text of one character stands for it, unless the character is white space -/
theorem resolve_padded_char {c : Char} {text : String} (h : Text.Padded text.toList [c]) :
    (Registry.defaults : Registry α).resolve .char (.text text) =
      if Text.isBlank c then .error (.conversion "" "char" notOneCharacter)
      else .ok (.const (.char c)) := by
  have htrim := trim_of_padded_char h
  have htrimmed : Text.trimmed text = String.ofList (Text.trim text.toList) := rfl
  rw [resolve_text_char, htrimmed, htrim]
  cases Text.isBlank c with
  | true => rfl
  | false => rfl

theorem resolve_text_char_of_not_padded {text : String}
    (h : ∀ c, ¬ Text.Padded text.toList [c]) :
    (Registry.defaults : Registry α).resolve .char (.text text) =
      .error (.conversion (Text.trimmed text) "char" notOneCharacter) := by
  rw [resolve_text_char]
  split
  · next c htrim =>
    have hpadded := Text.padded_trim text.toList
    rw [htrim] at hpadded
    exact absurd hpadded (h c)
  · rfl

/-! ## conditions -/

theorem Comparator.compareValues_char_eq_iff (v : Value α) (c : Char) :
    Comparator.char.compareValues v (.char c) = .eq ↔ v = .char c := by
  cases v with
  | char d =>
    show compare d.toNat c.toNat = .eq ↔ _
    rw [Nat.compare_eq_eq, Char.toNat_inj, Value.char.injEq]
  | _ => exact iff_of_false nofun nofun

theorem verify_characterEquals (compiler : Compiler α) {p : Property α} (htype : p.type = .char)
    {raw : RawLiteral} {c : Char}
    (hraw : compiler.registry.resolve .char raw = .ok (.const (.char c))) :
    ∃ predicate : Predicate α,
      (compiler.compile p.owner [.comparison ⟨p, .equal, raw, false⟩]).result = .ok predicate ∧
      ∀ a, predicate.verify a = true ↔ Schema.typeOf a = p.owner ∧ p.read a = .char c := by
  have hcomparator : Comparator.ofType? p.type = some .char := by rw [htype]; rfl
  have hresolve : compiler.registry.resolve p.type raw = .ok (.const (.char c)) := by rwa [htype]
  obtain ⟨predicate, hcompile, hverify⟩ :=
    compiler.verify_comparison ⟨p, .equal, raw, false⟩ hcomparator hresolve
  refine ⟨predicate, hcompile, ?_⟩
  intro a
  rw [hverify a, Bool.false_xor, ComparisonOperator.accepts_equal, Ordering.isEq_iff_eq_eq]
  exact and_congr_right fun _ => Comparator.compareValues_char_eq_iff (p.read a) c

/-! ## characters as literals -/

/-- a typed literal stands for every character, a text for every character but white space; texts that
are not one character are refused -/
theorem resolve_character {p : Property α} (htype : p.type = .char) (typeGuard : Bool) (c : Char) :
    (Registry.defaults : Registry α).resolve p.type (.char c) = .ok (.const (.char c)) ∧
    (∀ text : String, Text.Padded text.toList [c] →
      (Registry.defaults : Registry α).resolve p.type (.text text) =
        if Text.isBlank c then .error (.conversion "" "char" notOneCharacter)
        else .ok (.const (.char c))) ∧
    (∀ text : String, (∀ d, ¬ Text.Padded text.toList [d]) →
      (Registry.defaults : Registry α).resolve p.type (.text text) =
        .error (.conversion (Text.trimmed text) "char" notOneCharacter)) ∧
    ∀ raw : RawLiteral, raw = .char c ∨
        (Text.isBlank c = false ∧ ∃ text : String, Text.Padded text.toList [c] ∧ raw = .text text) →
      ∃ predicate : Predicate α,
        ((⟨.defaults, typeGuard⟩ : Compiler α).compile p.owner
          [.comparison ⟨p, .equal, raw, false⟩]).result = .ok predicate ∧
        ∀ a, predicate.verify a = true ↔ Schema.typeOf a = p.owner ∧ p.read a = .char c := by
  rw [htype]
  have htyped : (Registry.defaults : Registry α).resolve .char (.char c) =
      .ok (.const (.char c)) := rfl
  refine ⟨htyped, fun text => resolve_padded_char, fun text => resolve_text_char_of_not_padded, ?_⟩
  rintro raw (rfl | ⟨hc, text, hpadded, rfl⟩)
  · exact verify_characterEquals ⟨.defaults, typeGuard⟩ htype htyped
  · have hresolve := resolve_padded_char (α := α) hpadded
    rw [if_neg (by simp [hc])] at hresolve
    exact verify_characterEquals ⟨.defaults, typeGuard⟩ htype hresolve

def letterOfGadget : Property World.Entity :=
  ⟨.named "Gadget", [], ⟨.named "Gadget", ⟨12, by decide⟩⟩⟩

/-- the letter with an accent as one character, and as two, which are no character -/
theorem resolve_character_accent :
    (Registry.defaults : Registry World.Entity).resolve .char (.text "e\u0301") =
      .error (.conversion "e\u0301" "char" notOneCharacter) ∧
    ∃ predicate : Predicate World.Entity,
      ((⟨.defaults, false⟩ : Compiler World.Entity).compile (.named "Gadget")
        [.comparison ⟨letterOfGadget, .equal, .text "\u00E9\n", false⟩]).result = .ok predicate ∧
      predicate.verify (.gadget (.mk { letter := '\u00E9' } none none)) = true ∧
      predicate.verify (.gadget (.mk { letter := 'e' } none none)) = false := by
  obtain ⟨-, -, hrefused, hcondition⟩ :=
    resolve_character (p := letterOfGadget) rfl false '\u00E9'
  have htwo : ∀ d, ¬ Text.Padded "e\u0301".toList [d] := by
    intro d hpadded
    have htrim : Text.trim "e\u0301".toList = ['e', '\u0301'] := by decide
    rw [trim_of_padded_char hpadded] at htrim
    split at htrim <;> cases htrim
  have hpadded : Text.Padded "\u00E9\n".toList ['\u00E9'] :=
    ⟨[], ['\n'], List.forall_mem_nil _, List.forall_mem_singleton.mpr (by decide), rfl⟩
  obtain ⟨predicate, hcompile, hverify⟩ :=
    hcondition _ (.inr ⟨by decide, _, hpadded, rfl⟩)
  refine ⟨hrefused _ htwo, predicate, hcompile, ?_, ?_⟩
  · exact (hverify _).mpr ⟨rfl, rfl⟩
  · rw [← Bool.not_eq_true, hverify]
    rintro ⟨-, hread⟩
    have hletter : 'e' = '\u00E9' := Value.char.inj hread
    exact absurd hletter (by decide)

/-- a space is a character, and a text of one space is refused for want of one -/
theorem literal_lost_space :
    (Registry.defaults : Registry World.Entity).resolve .char (.char ' ') = .ok (.const (.char ' ')) ∧
      (Registry.defaults : Registry World.Entity).resolve .char (.text " ") =
        .error (.conversion "" "char" notOneCharacter) := by
  exact ⟨rfl, rfl⟩

end ObjectFilter
