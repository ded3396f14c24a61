import ObjectFilter.Catalog
import ObjectFilter.Proofs.Text.Name
import ObjectFilter.World.Types
import Mathlib.Data.Finset.Card

/-!
# Catalogs and their registrations

Descriptors are registered one after the other, some of them of types that are there already.  Such a
descriptor is dropped, under whatever name, so a catalog grows at its end only, and a name that leads to a
type leads there for good.  Types are told apart by their keys and found by their names: two types may
answer to one name, and the later of them is hidden behind the earlier whatever is registered afterwards.

* `mem_entries_ofList`        the descriptors that are kept;
* `get?_ofList_eq_some_iff`   what a name leads to;
* `ofList_invariants`         what is in a catalog, and what its names lead to, after every row.
-/

namespace ObjectFilter.TypeCatalog

variable {α : Type} {ds : List (TypeDescriptor α)} {c : TypeCatalog α} {d : TypeDescriptor α}
  {name : String}

/-- the descriptor is kept: none in front of it is of the same type -/
def Registered (ds : List (TypeDescriptor α)) (d : TypeDescriptor α) : Prop :=
  ∃ before after, ds = before ++ d :: after ∧ ∀ e ∈ before, e.key ≠ d.key

/-- of the descriptors that are kept, it is the first whose name is the given one but for case -/
def Earliest (ds : List (TypeDescriptor α)) (name : String) (d : TypeDescriptor α) : Prop :=
  ∃ before after, ds = before ++ d :: after ∧ (∀ e ∈ before, e.key ≠ d.key) ∧
    Text.sameName d.name name = true ∧
    ∀ e, Registered before e → Text.sameName e.name name = false

/-! ## what is in a catalog -/

theorem ofList_concat (ds : List (TypeDescriptor α)) (d : TypeDescriptor α) :
    ofList (ds ++ [d]) = (ofList ds).register d := List.foldl_concat ..

theorem entries_prefix_register (c : TypeCatalog α) (d : TypeDescriptor α) :
    c.entries <+: (c.register d).entries := by
  by_cases hd : c.contains d.key = true
  · rw [register_of_contains hd]
  · rw [entries_register_of_new hd]
    exact List.prefix_append ..

theorem entries_prefix_ofList_append (ds more : List (TypeDescriptor α)) :
    (ofList ds).entries <+: (ofList (ds ++ more)).entries := by
  induction more using List.reverseRecOn with
  | nil => rw [List.append_nil]
  | append_singleton more d ih =>
    rw [← List.append_assoc, ofList_concat]
    exact ih.trans (entries_prefix_register ..)

theorem contains_register (c : TypeCatalog α) (d : TypeDescriptor α) (key : TypeKey) :
    (c.register d).contains key = true ↔ c.contains key = true ∨ d.key = key := by
  by_cases hd : c.contains d.key = true
  · rw [register_of_contains hd, or_iff_left_of_imp]
    rintro rfl
    exact hd
  · simp [contains, entries_register_of_new hd]

theorem contains_ofList (ds : List (TypeDescriptor α)) (key : TypeKey) :
    (ofList ds).contains key = true ↔ ∃ d ∈ ds, d.key = key := by
  induction ds using List.reverseRecOn with
  | nil => simp [ofList, empty, contains]
  | append_singleton ds d ih =>
    rw [ofList_concat, contains_register, ih]
    simp [or_and_right, exists_or]

theorem not_contains_ofList_iff (ds : List (TypeDescriptor α)) (key : TypeKey) :
    ¬ (ofList ds).contains key = true ↔ ∀ d ∈ ds, d.key ≠ key := by
  simp [contains_ofList]

theorem nodup_register (h : (c.entries.map (·.key)).Nodup) (d : TypeDescriptor α) :
    ((c.register d).entries.map (·.key)).Nodup := by
  by_cases hd : c.contains d.key = true
  · rw [register_of_contains hd]
    exact h
  · rw [entries_register_of_new hd, List.map_append]
    refine List.Nodup.append h (List.nodup_singleton d.key) ?_
    rintro k hk hsingle
    obtain ⟨e, he, rfl⟩ := List.mem_map.mp hk
    exact hd ((c.contains_iff d.key).mpr ⟨e, he, List.mem_singleton.mp hsingle⟩)

theorem nodup_ofList (ds : List (TypeDescriptor α)) :
    ((ofList ds).entries.map (·.key)).Nodup := by
  induction ds using List.reverseRecOn with
  | nil => exact List.nodup_nil
  | append_singleton ds d ih =>
    rw [ofList_concat]
    exact nodup_register ih d

theorem size_ofList (ds : List (TypeDescriptor α)) :
    (ofList ds).size = (ds.map (·.key)).toFinset.card := by
  have hkeys : ((ofList ds).entries.map (·.key)).toFinset = (ds.map (·.key)).toFinset := by
    ext key
    rw [List.mem_toFinset, List.mem_toFinset, List.mem_map, List.mem_map, ← contains_iff,
      contains_ofList]
  rw [← hkeys, List.toFinset_card_of_nodup (nodup_ofList ds), List.length_map]
  rfl

theorem Registered.mem (h : Registered ds d) : d ∈ ds := by
  obtain ⟨before, after, rfl, -⟩ := h
  exact List.mem_append_right before List.mem_cons_self

theorem Registered.append (h : Registered ds d) (more : List (TypeDescriptor α)) :
    Registered (ds ++ more) d := by
  obtain ⟨before, after, rfl, hnew⟩ := h
  exact ⟨before, after ++ more, by rw [List.append_assoc, List.cons_append], hnew⟩

/-- the entries are the descriptors that have none of the same type in front of them -/
theorem mem_entries_ofList : d ∈ (ofList ds).entries ↔ Registered ds d := by
  constructor
  · intro h
    induction ds using List.reverseRecOn with
    | nil => cases h
    | append_singleton ds e ih =>
      rw [ofList_concat] at h
      by_cases he : (ofList ds).contains e.key = true
      · rw [register_of_contains he] at h
        exact (ih h).append [e]
      · rw [entries_register_of_new he, List.mem_append, List.mem_singleton] at h
        rcases h with h | rfl
        · exact (ih h).append [e]
        · exact ⟨ds, [], rfl, (not_contains_ofList_iff ds d.key).mp he⟩
  · rintro ⟨before, after, rfl, hnew⟩
    have hlast : d ∈ (ofList (before ++ [d])).entries := by
      rw [ofList_concat,
        entries_register_of_new ((not_contains_ofList_iff before d.key).mpr hnew)]
      exact List.mem_concat_self
    rw [List.append_cons]
    exact (entries_prefix_ofList_append (before ++ [d]) after).subset hlast

/-! ## what names lead to -/

theorem get?_eq_none_iff (c : TypeCatalog α) (name : String) :
    c.get? name = none ↔ ∀ d ∈ c.entries, Text.sameName d.name name = false := by
  simp [get?]

theorem get?_congr (c : TypeCatalog α) {name other : String}
    (h : Text.sameName name other = true) : c.get? name = c.get? other := by
  unfold get?
  simp only [Text.sameName_congr h]

/-- a name that leads to a type leads there for good -/
theorem get?_ofList_append (h : (ofList ds).get? name = some d)
    (more : List (TypeDescriptor α)) : (ofList (ds ++ more)).get? name = some d :=
  (entries_prefix_ofList_append ds more).find?_eq_some h

/-- a new type answers to its name if nothing in front of it does -/
theorem get?_register_of_new (h : ¬ c.contains d.key = true) (name : String) :
    (c.register d).get? name =
      (c.get? name).or (if Text.sameName d.name name then some d else none) := by
  unfold get?
  rw [entries_register_of_new h, List.find?_append, List.find?_singleton]

theorem Earliest.append (h : Earliest ds name d) (more : List (TypeDescriptor α)) :
    Earliest (ds ++ more) name d := by
  obtain ⟨before, after, rfl, hfirst⟩ := h
  exact ⟨before, after ++ more, by rw [List.append_assoc, List.cons_append], hfirst⟩

theorem earliest_of_get?_ofList (h : (ofList ds).get? name = some d) : Earliest ds name d := by
  induction ds using List.reverseRecOn with
  | nil => cases h
  | append_singleton ds e ih =>
    rw [ofList_concat] at h
    by_cases he : (ofList ds).contains e.key = true
    · rw [register_of_contains he] at h
      exact (ih h).append [e]
    · rw [get?_register_of_new he] at h
      cases hfront : (ofList ds).get? name with
      | some d' =>
        rw [hfront] at h
        cases h
        exact (ih hfront).append [e]
      | none =>
        rw [hfront, Option.none_or] at h
        split at h
        · next hname =>
          cases h
          refine ⟨ds, [], rfl, (not_contains_ofList_iff ds d.key).mp he, hname, ?_⟩
          intro x hx
          exact (get?_eq_none_iff _ name).mp hfront x (mem_entries_ofList.mpr hx)
        · cases h

theorem get?_ofList_of_earliest (h : Earliest ds name d) : (ofList ds).get? name = some d := by
  obtain ⟨before, after, rfl, hnew, hname, hfront⟩ := h
  have hnone : (ofList before).get? name = none := by
    rw [get?_eq_none_iff]
    exact fun e he => hfront e (mem_entries_ofList.mp he)
  have hlast : (ofList (before ++ [d])).get? name = some d := by
    rw [ofList_concat,
      get?_register_of_new ((not_contains_ofList_iff before d.key).mpr hnew), hnone, if_pos hname]
    rfl
  rw [List.append_cons]
  exact get?_ofList_append hlast after

theorem get?_ofList_eq_some_iff : (ofList ds).get? name = some d ↔ Earliest ds name d :=
  ⟨earliest_of_get?_ofList, get?_ofList_of_earliest⟩

/-- after any registrations: every type is there once, by the first descriptor that was registered of it; a
name leads to the first of these descriptors that answers to it, the case of the name makes no difference,
later registrations change no answer, and only the names of no registered descriptor are refused -/
theorem ofList_invariants (ds : List (TypeDescriptor α)) :
    ((ofList ds).entries.map (·.key)).Nodup ∧
    (∀ d, d ∈ (ofList ds).entries ↔ Registered ds d) ∧
    (ofList ds).size = (ds.map (·.key)).toFinset.card ∧
    (∀ name d, (ofList ds).get? name = some d ↔ Earliest ds name d) ∧
    (∀ name other, Text.sameName name other = true →
      (ofList ds).get? name = (ofList ds).get? other) ∧
    (∀ name d, (ofList ds).get? name = some d →
      ∀ more, (ofList (ds ++ more)).get? name = some d) ∧
    (∀ name d, (ofList ds).resolve name = .ok d ↔ Earliest ds name d) ∧
    ∀ name e, (ofList ds).resolve name = .error e ↔
      (∀ d, Registered ds d → Text.sameName d.name name = false) ∧ e = .unknownType name := by
  refine ⟨nodup_ofList ds, fun _ => mem_entries_ofList, size_ofList ds,
    fun _ _ => get?_ofList_eq_some_iff, fun _ _ => get?_congr _, fun _ _ => get?_ofList_append,
    ?_, ?_⟩
  · intro name d
    rw [resolve_eq_ok_iff, get?_ofList_eq_some_iff]
  · intro name e
    rw [resolve_eq_error_iff, get?_eq_none_iff]
    simp only [mem_entries_ofList]

/-- a type whose name is that of containers but for case, and containers once more under another name -/
def clashingNames : List (TypeDescriptor World.Entity) :=
  [World.describe (.named "Mobile"), World.describe (.named "Container"),
   ⟨.named "Crate", "CONTAINER", []⟩, ⟨.named "Container", "Box", World.containerProperties⟩]

/-- containers answer to their first name in any case, also after the other type is registered again, and
to their second name not at all -/
theorem ofList_invariants_shared :
    (ofList clashingNames).size = 3 ∧
    (ofList clashingNames).get? "CONTAINER" = (ofList clashingNames).get? "container" ∧
    (ofList (clashingNames ++ [⟨.named "Crate", "CONTAINER", []⟩])).get? "container" =
      some (World.describe (.named "Container")) ∧
    (ofList clashingNames).resolve "box" = .error (.unknownType "box") := by
  obtain ⟨-, hentries, hsize, hget, hcase, hsettled, -, hunknown⟩ :=
    ofList_invariants clashingNames
  refine ⟨hsize.trans (by decide), hcase _ _ (by decide), hsettled _ _ ?_ _, ?_⟩
  · refine (hget _ _).mpr ⟨[World.describe (.named "Mobile")], _, rfl, by decide, by decide, ?_⟩
    intro d hd
    rw [List.mem_singleton.mp hd.mem]
    decide
  · refine (hunknown _ _).mpr ⟨?_, rfl⟩
    -- the second descriptor of containers stands behind the first, so it is not kept
    have hkept : (ofList clashingNames).entries = clashingNames.take 3 := rfl
    intro d hd
    rw [← hentries, hkept] at hd
    exact (by decide : ∀ d ∈ clashingNames.take 3, Text.sameName d.name "box" = false) d hd

end ObjectFilter.TypeCatalog
