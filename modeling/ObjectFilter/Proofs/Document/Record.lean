import ObjectFilter.Document.Node
import ObjectFilter.Proofs.Outcome

/-!
# Records that are read as they were written

A record with every field of its list of names, in order, gives the fields back, and a record that starts
with its kind gives the kind and the rest.

* `fields?_record`      all fields, in order;
* `takeKind?_record`    the kind and the other fields.
-/

namespace ObjectFilter

theorem mapM_eq_some_map {β γ : Type} {f : β → Option γ} {g : β → γ} {xs : List β}
    (h : ∀ x ∈ xs, f x = some (g x)) : xs.mapM f = some (xs.map g) := by
  rw [mapM_eq_some_iff, List.forall₂_map_right_iff, List.forall₂_same]
  exact h

namespace Document.Node

/-- the fields with their positions in the list of their own names -/
def placed (fields : List (String × Node)) : List (Nat × Node) :=
  fields.map fun f => ((fields.map (·.1)).idxOf f.1, f.2)

/-- a new field in front moves every other field by one -/
theorem placed_cons {field : String × Node} {rest : List (String × Node)}
    (hnew : field.1 ∉ rest.map (·.1)) :
    placed (field :: rest) = (0, field.2) :: (placed rest).map fun e => (e.1 + 1, e.2) := by
  have hbehind : ∀ f ∈ rest, (field.1 :: rest.map (·.1)).idxOf f.1 =
      (rest.map (·.1)).idxOf f.1 + 1 := by
    intro f hf
    have hne : (field.1 == f.1) = false := by
      rw [beq_eq_false_iff_ne]
      intro heq
      rw [heq] at hnew
      exact hnew (List.mem_map_of_mem hf)
    rw [List.idxOf_cons, hne]
    rfl
  unfold placed
  rw [List.map_cons, List.map_cons, List.idxOf_cons_self, List.map_map]
  congr 1
  refine List.map_congr_left fun f hf => ?_
  rw [hbehind f hf]
  rfl

theorem filter_placed {fields : List (String × Node)} (hnames : (fields.map (·.1)).Nodup) :
    ∀ (i : Nat) (hi : i < fields.length),
      (placed fields).filter (·.1 = i) = [(i, fields[i].2)] := by
  induction fields with
  | nil =>
    intro i hi
    cases hi
  | cons field rest ih =>
    intro i hi
    obtain ⟨hnew, hrest⟩ := List.nodup_cons.mp hnames
    rw [placed_cons hnew]
    cases i with
    | zero =>
      have hnone : ((placed rest).map fun e => (e.1 + 1, e.2)).filter (·.1 = 0) = [] := by
        rw [List.filter_eq_nil_iff]
        intro e he
        obtain ⟨e', -, rfl⟩ := List.mem_map.mp he
        simp
      rw [List.filter_cons_of_pos (by simp), hnone]
      rfl
    | succ i =>
      have hi' : i < rest.length := Nat.lt_of_succ_lt_succ hi
      have hshift : ((fun e : Nat × Node => decide (e.1 = i + 1)) ∘
          fun e : Nat × Node => (e.1 + 1, e.2)) = fun e => decide (e.1 = i) := by
        funext e
        simp
      rw [List.filter_cons_of_neg (by simp), List.filter_map, hshift, ih hrest i hi']
      rfl

theorem fields?_record {fields : List (String × Node)} {names : List String}
    (hnames : fields.map (·.1) = names) (hnodup : names.Nodup) :
    (record fields).fields? names = some (fields.map fun f => some f.2) := by
  subst hnames
  have hplaced : (fields.map fun f => (text f.1, f.2)).mapM
      (fun e => (position? (fields.map (·.1)) e.1).map (·, e.2)) = some (placed fields) := by
    rw [List.mapM_map]
    exact mapM_eq_some_map fun f _ => rfl
  have hfield : ∀ i ∈ List.range fields.length,
      fieldAt? (placed fields) i = some ((fields[i]?).map (·.2)) := by
    intro i hi
    have hi' : i < fields.length := List.mem_range.mp hi
    unfold fieldAt?
    rw [filter_placed hnodup i hi', List.getElem?_eq_getElem hi']
    rfl
  unfold record fields?
  dsimp only
  rw [hplaced, List.length_map]
  show (List.range fields.length).mapM (fieldAt? (placed fields)) = _
  rw [mapM_eq_some_map hfield, Option.some.injEq]
  refine List.ext_getElem (by simp) fun i hi hi' => ?_
  have hlt : i < fields.length := by simpa using hi'
  simp [List.getElem?_eq_getElem hlt]

theorem takeKind?_record {name kind : String} {fields : List (String × Node)}
    (hnew : name ∉ fields.map (·.1)) :
    (record ((name, text kind) :: fields)).takeKind? name = some (kind, record fields) := by
  have hother : ∀ e ∈ fields.map fun f => (text f.1, f.2), e.1.isText name = false := by
    intro e he
    obtain ⟨f, hf, rfl⟩ := List.mem_map.mp he
    rw [Bool.eq_false_iff, Ne, isText_iff]
    intro heq
    cases heq
    exact hnew (List.mem_map_of_mem hf)
  have hself : (text name).isText name = true := (isText_iff name _).mpr rfl
  have hnot : ¬ (!(text name).isText name) = true := by simp [hself]
  have hkind : (fields.map fun f => (text f.1, f.2)).filter (·.1.isText name) = [] := by
    rw [List.filter_eq_nil_iff]
    intro e he
    rw [hother e he]
    exact Bool.false_ne_true
  have hrest : (fields.map fun f => (text f.1, f.2)).filter (!·.1.isText name) =
      fields.map fun f => (text f.1, f.2) := by
    rw [List.filter_eq_self]
    intro e he
    rw [hother e he]
    rfl
  unfold record takeKind?
  rw [List.map_cons]
  dsimp only
  rw [List.filter_cons_of_pos (by exact hself), hkind, List.filter_cons_of_neg (by exact hnot),
    hrest]
  rfl

end Document.Node
end ObjectFilter
