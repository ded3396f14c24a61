/-!
# Texts in pieces

Cutting a text at every occurrence of a character, and putting the pieces together again.  There is
always a first piece, so the pieces are a pair of it and the others; `join_cut` says that nothing
is lost.
-/

namespace ObjectFilter.Text

/-- the piece before the first separator, and the pieces after it -/
def cut (separator : Char) : List Char → List Char × List (List Char)
  | [] => ([], [])
  | c :: rest =>
    let (piece, others) := cut separator rest
    if c = separator then ([], piece :: others) else (c :: piece, others)

def pieces (separator : Char) (cs : List Char) : List (List Char) :=
  (cut separator cs).1 :: (cut separator cs).2

def joined (separator : Char) : List Char → List (List Char) → List Char
  | piece, [] => piece
  | piece, next :: others => piece ++ separator :: joined separator next others

def join (between : String) (texts : List String) : String :=
  String.ofList (List.intercalate between.toList (texts.map String.toList))

/-! ## small facts -/

theorem cut_nil (separator : Char) : cut separator [] = ([], []) := rfl

theorem cut_separator (separator : Char) (rest : List Char) :
    cut separator (separator :: rest)
      = ([], (cut separator rest).1 :: (cut separator rest).2) := by
  simp [cut]

theorem cut_cons (separator c : Char) (rest : List Char) (h : c ≠ separator) :
    cut separator (c :: rest) = (c :: (cut separator rest).1, (cut separator rest).2) := by
  simp [cut, h]

theorem joined_cons (separator c : Char) (piece : List Char) (others : List (List Char)) :
    joined separator (c :: piece) others = c :: joined separator piece others := by
  cases others <;> rfl

/-- cutting loses nothing -/
theorem join_cut (separator : Char) (cs : List Char) :
    joined separator (cut separator cs).1 (cut separator cs).2 = cs := by
  induction cs with
  | nil => rfl
  | cons c rest ih =>
    by_cases h : c = separator
    · subst h
      rw [cut_separator, joined, ih, List.nil_append]
    · rw [cut_cons separator c rest h, joined_cons, ih]

theorem joined_eq_intercalate (separator : Char) (piece : List Char) (others : List (List Char)) :
    joined separator piece others = List.intercalate [separator] (piece :: others) := by
  induction others generalizing piece with
  | nil => rw [List.intercalate_singleton, joined]
  | cons next others ih =>
    rw [List.intercalate_cons_cons, joined, ih, List.append_assoc, List.singleton_append]

theorem intercalate_pieces (separator : Char) (cs : List Char) :
    List.intercalate [separator] (pieces separator cs) = cs := by
  rw [pieces, ← joined_eq_intercalate, join_cut]

/-- cutting at one separator first cuts the two sides apart -/
theorem cut_append (separator : Char) (cs ds : List Char) :
    cut separator (cs ++ separator :: ds)
      = ((cut separator cs).1, (cut separator cs).2 ++ pieces separator ds) := by
  induction cs with
  | nil =>
    show cut separator (separator :: ds) = _
    rw [cut_separator]
    rfl
  | cons c rest ih =>
    show cut separator (c :: (rest ++ separator :: ds)) = _
    by_cases h : c = separator
    · subst h
      rw [cut_separator, cut_separator, ih, List.cons_append]
    · rw [cut_cons separator c _ h, cut_cons separator c rest h, ih]

/-- a text with a separator in it has the pieces of both its sides -/
theorem pieces_append (separator : Char) (cs ds : List Char) :
    pieces separator (cs ++ separator :: ds) = pieces separator cs ++ pieces separator ds := by
  rw [pieces, cut_append]
  rfl

/-- a text without separators lengthens the first piece of what is behind it -/
theorem cut_append_of_notMem {separator : Char} {cs : List Char} (h : separator ∉ cs)
    (ds : List Char) :
    cut separator (cs ++ ds) = (cs ++ (cut separator ds).1, (cut separator ds).2) := by
  induction cs with
  | nil => rfl
  | cons c rest ih =>
    rw [List.mem_cons, not_or] at h
    rw [List.cons_append, cut_cons separator c _ (Ne.symm h.1), ih h.2]
    rfl

theorem cut_of_notMem {separator : Char} {cs : List Char} (h : separator ∉ cs) :
    cut separator cs = (cs, []) := by
  have hcut := cut_append_of_notMem h []
  rwa [List.append_nil, cut_nil, List.append_nil] at hcut

/-- a text without separators lengthens the last piece of what is in front of it -/
theorem pieces_append_of_notMem {separator : Char} {ds : List Char} (h : separator ∉ ds)
    (cs : List Char) :
    ∃ front last, pieces separator cs = front ++ [last] ∧
      pieces separator (cs ++ ds) = front ++ [last ++ ds] := by
  have hone : ∀ {bs : List Char}, separator ∉ bs → pieces separator bs = [bs] := by
    intro bs hbs
    rw [pieces, cut_of_notMem hbs]
  by_cases hmem : separator ∈ cs
  · -- behind the last separator stands the last piece
    obtain ⟨bs, as, hreverse, hbs⟩ := List.eq_append_cons_of_mem (List.mem_reverse.mpr hmem)
    have hcs : cs = as.reverse ++ separator :: bs.reverse := by
      rw [← List.reverse_reverse cs, hreverse]
      simp
    have hlast : separator ∉ bs.reverse := fun hb => hbs (List.mem_reverse.mp hb)
    have hlonger : separator ∉ bs.reverse ++ ds := by
      rw [List.mem_append, not_or]
      exact ⟨hlast, h⟩
    refine ⟨pieces separator as.reverse, bs.reverse, ?_, ?_⟩
    · rw [hcs, pieces_append, hone hlast]
    · rw [hcs, List.append_assoc, List.cons_append, pieces_append, hone hlonger]
  · have hlonger : separator ∉ cs ++ ds := by
      rw [List.mem_append, not_or]
      exact ⟨hmem, h⟩
    exact ⟨[], cs, hone hmem, hone hlonger⟩

theorem pieces_intercalate {separator : Char} {parts : List (List Char)} (hne : parts ≠ [])
    (h : ∀ part ∈ parts, separator ∉ part) :
    pieces separator (List.intercalate [separator] parts) = parts := by
  induction parts with
  | nil => exact absurd rfl hne
  | cons part parts ih =>
    have hpart : cut separator part = (part, []) := cut_of_notMem (h part List.mem_cons_self)
    cases parts with
    | nil =>
      rw [List.intercalate_singleton, pieces, hpart]
    | cons next others =>
      have hrest := ih (List.cons_ne_nil next others) fun p hp => h p (List.mem_cons_of_mem _ hp)
      rw [List.intercalate_cons_cons, pieces, List.append_assoc, List.singleton_append,
        cut_append, hpart, hrest]
      rfl

theorem flatten_pieces (separator : Char) (cs : List Char) :
    (pieces separator cs).flatten = cs.filter (· ≠ separator) := by
  induction cs with
  | nil => rfl
  | cons c rest ih =>
    unfold pieces at ih ⊢
    by_cases h : c = separator
    · subst h
      rw [cut_separator, List.flatten_cons, List.nil_append, ih, List.filter_cons_of_neg]
      simp
    · rw [cut_cons separator c rest h, List.flatten_cons, List.cons_append, ← List.flatten_cons, ih,
        List.filter_cons_of_pos]
      simpa using h

theorem mem_of_mem_pieces {separator c : Char} {cs piece : List Char}
    (hpiece : piece ∈ pieces separator cs) (hc : c ∈ piece) : c ∈ cs := by
  have hflat : c ∈ (pieces separator cs).flatten := List.mem_flatten.mpr ⟨piece, hpiece, hc⟩
  rw [flatten_pieces] at hflat
  exact (List.mem_filter.mp hflat).1

theorem separator_notMem_pieces (separator : Char) (cs : List Char) :
    ∀ piece ∈ pieces separator cs, separator ∉ piece := by
  induction cs with
  | nil => simp [pieces, cut]
  | cons c rest ih =>
    by_cases h : c = separator
    · subst h
      simpa [pieces, cut_separator] using ih
    · intro piece hp
      rw [pieces, cut_cons separator c rest h] at hp
      rcases List.mem_cons.1 hp with rfl | hp
      · intro hm
        rcases List.mem_cons.1 hm with e | hm
        · exact h e.symm
        · exact ih _ List.mem_cons_self hm
      · exact ih piece (List.mem_cons_of_mem _ hp)

end ObjectFilter.Text
