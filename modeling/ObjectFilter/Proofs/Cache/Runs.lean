import ObjectFilter.Cache
import Mathlib.Data.List.Induction
import Mathlib.Data.List.Nodup

/-!
# Runs of calls on a cache

A cache that starts empty is looked into and cleared, in any order and any number of times.  Its answers are
those of its compiler all the while, and what it keeps are the answers given since it was cleared.

* `get_cases`           everything that a look-up can do;
* `valid_run`           every predicate in the cache is what its key compiles to, each key is there once;
* `find?_run_iff`       what is found is what an earlier look-up was answered with;
* `run_transparent`     the cache seen from outside, over whole runs.
-/

namespace ObjectFilter

variable {α : Type} [Schema α]

inductive CacheCall (α : Type) [Schema α]
  | get (key : CacheKey α)
  | clear

/-- what a key compiles to without a cache -/
def Compiler.fresh (compiler : Compiler α) (key : CacheKey α) : Except FilterError (Predicate α) :=
  (compiler.compile key.target key.conditions).result

namespace Cache

def answer (c : Cache α) (key : CacheKey α) : Except FilterError (SharedPredicate α) :=
  (c.getOrCompile key.target key.conditions).result

def after (c : Cache α) : CacheCall α → Cache α
  | .get key => (c.getOrCompile key.target key.conditions).cache
  | .clear => c.clear

def run (compiler : Compiler α) (calls : List (CacheCall α)) : Cache α :=
  calls.foldl after (empty compiler)

theorem run_append (compiler : Compiler α) (calls calls' : List (CacheCall α)) :
    run compiler (calls ++ calls') = calls'.foldl after (run compiler calls) :=
  List.foldl_append

theorem run_snoc (compiler : Compiler α) (calls : List (CacheCall α)) (call : CacheCall α) :
    run compiler (calls ++ [call]) = (run compiler calls).after call := run_append ..

/-! ## one look-up -/

/-- the cache with one more predicate, under the next number -/
def store (c : Cache α) (key : CacheKey α) (predicate : Predicate α) : Cache α :=
  { c with
    entries := c.entries ++ [(key, ⟨c.nextId, predicate⟩)]
    nextId := c.nextId + 1 }

theorem get_cases (c : Cache α) (key : CacheKey α) :
    (∃ s, c.find? key = some s ∧ c.answer key = .ok s ∧ c.after (.get key) = c) ∨
    (∃ e, c.find? key = none ∧ c.compiler.fresh key = .error e ∧ c.answer key = .error e ∧
      c.after (.get key) = c) ∨
    ∃ predicate, c.find? key = none ∧ c.compiler.fresh key = .ok predicate ∧
      c.answer key = .ok ⟨c.nextId, predicate⟩ ∧ c.after (.get key) = c.store key predicate := by
  unfold answer after getOrCompile Compiler.fresh store
  cases hfind : c.find? key with
  | some s => exact .inl ⟨s, rfl, by simp [hfind], by simp [hfind]⟩
  | none =>
    right
    cases hfresh : (c.compiler.compile key.target key.conditions).result with
    | error e => exact .inl ⟨e, rfl, rfl, by simp [hfind, hfresh], by simp [hfind, hfresh]⟩
    | ok predicate =>
      exact .inr ⟨predicate, rfl, rfl, by simp [hfind, hfresh], by simp [hfind, hfresh]⟩

theorem answer_of_find? {c : Cache α} {key : CacheKey α} {s : SharedPredicate α}
    (h : c.find? key = some s) : c.answer key = .ok s := by
  unfold answer
  rw [getOrCompile_of_find? c key.target key.conditions s h]

theorem find?_store (c : Cache α) (key : CacheKey α) (predicate : Predicate α)
    (other : CacheKey α) :
    (c.store key predicate).find? other =
      (c.find? other).or (if key = other then some ⟨c.nextId, predicate⟩ else none) := by
  unfold find? store
  rw [List.find?_append]
  cases List.find? (fun entry => decide (entry.1 = other)) c.entries with
  | some entry => rfl
  | none => by_cases h : key = other <;> simp [h]

theorem find?_after_get {c : Cache α} {key : CacheKey α} {s : SharedPredicate α}
    (h : c.find? key = some s) (other : CacheKey α) :
    (c.after (.get other)).find? key = some s := by
  rcases c.get_cases other with ⟨_, -, -, hafter⟩ | ⟨_, -, -, -, hafter⟩ | ⟨p, -, -, -, hafter⟩
  · rw [hafter, h]
  · rw [hafter, h]
  · rw [hafter, find?_store, h]
    rfl

theorem find?_after_self {c : Cache α} {key : CacheKey α} {s : SharedPredicate α}
    (h : c.answer key = .ok s) : (c.after (.get key)).find? key = some s := by
  rcases c.get_cases key with ⟨t, hfind, hanswer, hafter⟩ | ⟨e, -, -, hanswer, -⟩ |
    ⟨p, hfind, -, hanswer, hafter⟩
  · cases h.symm.trans hanswer
    rw [hafter, hfind]
  · cases h.symm.trans hanswer
  · cases h.symm.trans hanswer
    rw [hafter, find?_store, hfind, if_pos rfl]
    rfl

/-! ## what holds in every state -/

/-- every predicate is what its key compiles to, and no key and no number is there twice -/
structure Valid (compiler : Compiler α) (c : Cache α) : Prop where
  compiler_eq : c.compiler = compiler
  compiled : ∀ entry ∈ c.entries, compiler.fresh entry.1 = .ok entry.2.predicate
  keys_nodup : (c.entries.map fun entry => entry.1).Nodup
  ids_nodup : (c.entries.map fun entry => entry.2.id).Nodup
  id_lt : ∀ entry ∈ c.entries, entry.2.id < c.nextId

theorem mem_keys_iff (c : Cache α) (key : CacheKey α) :
    key ∈ c.entries.map (fun entry => entry.1) ↔ ∃ s, c.find? key = some s := by
  unfold find?
  rw [← Option.isSome_iff_exists, Option.isSome_map, List.find?_isSome, List.mem_map]
  simp

theorem exists_mem_of_find? {c : Cache α} {key : CacheKey α} {s : SharedPredicate α}
    (h : c.find? key = some s) : (key, s) ∈ c.entries := by
  obtain ⟨entry, hentry, rfl⟩ := Option.map_eq_some_iff.mp h
  have hkey : entry.1 = key := by simpa using List.find?_some hentry
  subst hkey
  exact List.mem_of_find?_eq_some hentry

theorem valid_empty (compiler : Compiler α) : (empty compiler).Valid compiler where
  compiler_eq := rfl
  compiled := by simp [empty]
  keys_nodup := by simp [empty]
  ids_nodup := by simp [empty]
  id_lt := by simp [empty]

namespace Valid

variable {compiler : Compiler α} {c : Cache α}

theorem clear (h : c.Valid compiler) : c.clear.Valid compiler where
  compiler_eq := h.compiler_eq
  compiled := by simp [Cache.clear]
  keys_nodup := by simp [Cache.clear]
  ids_nodup := by simp [Cache.clear]
  id_lt := by simp [Cache.clear]

theorem store (h : c.Valid compiler) {key : CacheKey α} {predicate : Predicate α}
    (hfind : c.find? key = none) (hfresh : compiler.fresh key = .ok predicate) :
    (c.store key predicate).Valid compiler := by
  have hnew : key ∉ c.entries.map fun entry => entry.1 := by
    rw [mem_keys_iff]
    rintro ⟨s, hs⟩
    rw [hfind] at hs
    cases hs
  have hid : c.nextId ∉ c.entries.map fun entry => entry.2.id := by
    intro hmem
    obtain ⟨entry, hentry, hsame⟩ := List.mem_map.mp hmem
    have hlt := h.id_lt entry hentry
    omega
  refine ⟨h.compiler_eq, ?_, ?_, ?_, ?_⟩
  · intro entry hentry
    rcases List.mem_append.mp hentry with hold | hlast
    · exact h.compiled entry hold
    · obtain rfl := List.mem_singleton.mp hlast
      exact hfresh
  · unfold Cache.store
    rw [List.map_append, List.map_singleton, ← List.concat_eq_append]
    exact h.keys_nodup.concat hnew
  · unfold Cache.store
    rw [List.map_append, List.map_singleton, ← List.concat_eq_append]
    exact h.ids_nodup.concat hid
  · intro entry hentry
    show entry.2.id < c.nextId + 1
    rcases List.mem_append.mp hentry with hold | hlast
    · have hlt := h.id_lt entry hold
      omega
    · obtain rfl := List.mem_singleton.mp hlast
      exact Nat.lt_succ_self _

theorem after (h : c.Valid compiler) (call : CacheCall α) : (c.after call).Valid compiler := by
  cases call with
  | clear => exact h.clear
  | get key =>
    rcases c.get_cases key with ⟨_, -, -, hafter⟩ | ⟨_, -, -, -, hafter⟩ |
      ⟨p, hfind, hfresh, -, hafter⟩
    · rw [hafter]
      exact h
    · rw [hafter]
      exact h
    · rw [hafter]
      rw [h.compiler_eq] at hfresh
      exact h.store hfind hfresh

theorem answer (h : c.Valid compiler) (key : CacheKey α) :
    (c.answer key).map SharedPredicate.predicate = compiler.fresh key := by
  rcases c.get_cases key with ⟨s, hfind, hanswer, -⟩ | ⟨e, -, hfresh, hanswer, -⟩ |
    ⟨p, -, hfresh, hanswer, -⟩
  · rw [hanswer, h.compiled _ (exists_mem_of_find? hfind)]
    rfl
  · rw [hanswer, ← h.compiler_eq, hfresh]
    rfl
  · rw [hanswer, ← h.compiler_eq, hfresh]
    rfl

end Valid

theorem valid_run (compiler : Compiler α) (calls : List (CacheCall α)) :
    (run compiler calls).Valid compiler := by
  induction calls using List.reverseRecOn with
  | nil => exact valid_empty compiler
  | append_singleton calls call ih =>
    rw [run_snoc]
    exact ih.after call

/-! ## what is kept -/

/-- a look-up was answered with the predicate, and the cache has not been cleared since -/
def Answered (compiler : Compiler α) (calls : List (CacheCall α)) (key : CacheKey α)
    (s : SharedPredicate α) : Prop :=
  ∃ before since, calls = before ++ .get key :: since ∧ .clear ∉ since ∧
    (run compiler before).answer key = .ok s

theorem find?_foldl_after {key : CacheKey α} {s : SharedPredicate α} {calls : List (CacheCall α)}
    (hcalls : .clear ∉ calls) {c : Cache α} (h : c.find? key = some s) :
    (calls.foldl after c).find? key = some s := by
  induction calls generalizing c with
  | nil => exact h
  | cons call rest ih =>
    obtain ⟨hcall, hrest⟩ := not_or.mp (mt List.mem_cons.mpr hcalls)
    cases call with
    | clear => exact absurd rfl hcall
    | get other => exact ih hrest (find?_after_get h other)

theorem Answered.snoc {compiler : Compiler α} {calls : List (CacheCall α)} {key : CacheKey α}
    {s : SharedPredicate α} (h : Answered compiler calls key s) (other : CacheKey α) :
    Answered compiler (calls ++ [.get other]) key s := by
  obtain ⟨before, since, rfl, hsince, hanswer⟩ := h
  refine ⟨before, since ++ [.get other], by simp, ?_, hanswer⟩
  simpa using hsince

/-- what is found is what an earlier look-up was answered with -/
theorem find?_run_iff (compiler : Compiler α) (calls : List (CacheCall α)) (key : CacheKey α)
    (s : SharedPredicate α) :
    (run compiler calls).find? key = some s ↔ Answered compiler calls key s := by
  constructor
  · -- on the last call: only a look-up that stores its predicate adds to what is found
    induction calls using List.reverseRecOn with
    | nil =>
      intro h
      cases h
    | append_singleton calls call ih =>
      rw [run_snoc]
      cases call with
      | clear =>
        intro h
        cases h
      | get other =>
        intro h
        rcases (run compiler calls).get_cases other with ⟨_, -, -, hafter⟩ |
          ⟨_, -, -, -, hafter⟩ | ⟨p, -, -, hanswer, hafter⟩
        · rw [hafter] at h
          exact (ih h).snoc other
        · rw [hafter] at h
          exact (ih h).snoc other
        · rw [hafter, find?_store] at h
          rcases Option.or_eq_some_iff.mp h with hold | ⟨-, hnew⟩
          · exact (ih hold).snoc other
          · -- the key is the one that was stored just now
            obtain ⟨rfl, hs⟩ := Option.ite_none_right_eq_some.mp hnew
            cases hs
            exact ⟨calls, [], rfl, by simp, hanswer⟩
  · rintro ⟨before, since, rfl, hsince, hanswer⟩
    rw [run_append, List.foldl_cons]
    exact find?_foldl_after hsince (find?_after_self hanswer)

/-- predicates that are kept under different keys have different numbers -/
theorem Answered.key_eq_of_id_eq {compiler : Compiler α} {calls : List (CacheCall α)}
    {key key' : CacheKey α} {s s' : SharedPredicate α} (h : Answered compiler calls key s)
    (h' : Answered compiler calls key' s') (hid : s.id = s'.id) : key = key' := by
  have hmem := exists_mem_of_find? ((find?_run_iff compiler calls key s).mpr h)
  have hmem' := exists_mem_of_find? ((find?_run_iff compiler calls key' s').mpr h')
  have hsame := List.inj_on_of_nodup_map (valid_run compiler calls).ids_nodup hmem hmem' hid
  exact congrArg Prod.fst hsame

theorem run_transparent (compiler : Compiler α) (calls : List (CacheCall α)) :
    (∀ key, ((run compiler calls).answer key).map SharedPredicate.predicate
      = compiler.fresh key) ∧
    (∀ key e, (run compiler calls).answer key = .error e →
      (run compiler (calls ++ [.get key])).entries = (run compiler calls).entries) ∧
    ((run compiler calls).entries.map fun entry => entry.1).Nodup ∧
    (∀ key, key ∈ ((run compiler calls).entries.map fun entry => entry.1) ↔
      ∃ s, Answered compiler calls key s) ∧
    (run compiler calls).size = ((run compiler calls).entries.map fun entry => entry.1).length ∧
    (∀ key s, Answered compiler calls key s → (run compiler calls).answer key = .ok s) ∧
    (∀ key key' s s', Answered compiler calls key s → Answered compiler calls key' s' →
      s.id = s'.id → key = key') := by
  refine ⟨(valid_run compiler calls).answer, ?_, (valid_run compiler calls).keys_nodup, ?_, ?_, ?_,
    fun _ _ _ _ h h' => h.key_eq_of_id_eq h'⟩
  · intro key e he
    rw [run_snoc]
    rcases (run compiler calls).get_cases key with ⟨_, -, hanswer, -⟩ | ⟨_, -, -, -, hafter⟩ |
      ⟨_, -, -, hanswer, -⟩
    · cases he.symm.trans hanswer
    · rw [hafter]
    · cases he.symm.trans hanswer
  · intro key
    rw [mem_keys_iff]
    exact exists_congr fun s => find?_run_iff compiler calls key s
  · exact List.length_map _ |>.symm
  · intro key s hs
    exact answer_of_find? ((find?_run_iff compiler calls key s).mpr hs)

end Cache
end ObjectFilter
