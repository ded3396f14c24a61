import ObjectFilter.Proofs.Literal.Spelling
import ObjectFilter.World.Point

/-!
# Which texts are points

The text of a point is three coordinates with commas between them, in parentheses or without them, and with
white space around the text and around each coordinate.  All these texts are read.  Since the parentheses at
the two ends are taken off apart, and all of them, so are the texts with more of them or with more on one side.

* `readCoordinate_eq_some_iff`   a coordinate is a numeral with white space around it;
* `readRow_eq_some_iff`          a row is three coordinates with commas between them;
* `read_eq_ok_iff_wrapped`       a point is a row in any number of parentheses on either side;
* `laid_iff`                     a laid out point is one that is read and has its parentheses matched;
* `read_outcome`                 both together, and the error for every other text.
-/

namespace ObjectFilter.World.Point3D

open Number (SpellsSigned Width)
open Text (Padded)

/-! ## coordinates -/

/-- a numeral of the coordinate, with blanks around it -/
def Denotes (cs : List Char) (n : Int32) : Prop :=
  ∃ numeral, Padded cs numeral ∧ SpellsSigned numeral n.toInt

theorem readCoordinate_eq_some_iff {cs : List Char} {n : Int32} :
    readCoordinate cs = some n ↔ Denotes cs n := by
  constructor
  · intro h
    unfold readCoordinate at h
    split at h
    · next m hread =>
      cases h
      obtain ⟨⟨hleast, hgreatest⟩, hspells⟩ := (Number.readSigned_eq_ok_iff ..).mp hread
      have hword : (Int32.ofInt m).toInt = m := Width.w32.toInt_ofInt_of_mem hleast hgreatest
      refine ⟨_, Text.padded_trim cs, ?_⟩
      rw [hword]
      exact hspells
    · cases h
  · rintro ⟨numeral, hpadded, hspells⟩
    have htrim : Text.trim cs = numeral :=
      hpadded.trim_eq.trans (Text.trim_eq_self (not_isBlank_of_spellsSigned hspells))
    have hread : Number.readSigned .w32 numeral = .ok n.toInt :=
      (Number.readSigned_eq_ok_iff ..).mpr ⟨Width.w32.toInt_mem n.toBitVec, hspells⟩
    unfold readCoordinate
    rw [htrim, hread]
    dsimp only
    rw [Int32.ofInt_toInt]

theorem Denotes.notMem {cs : List Char} {n : Int32} (h : Denotes cs n) {c : Char}
    (hc : c = ',' ∨ c = '(' ∨ c = ')') : c ∉ cs := by
  obtain ⟨numeral, ⟨before, after, hbefore, hafter, rfl⟩, hspells⟩ := h
  have hblank : Text.isBlank c = false := by rcases hc with rfl | rfl | rfl <;> decide
  have hdigit : Number.digit? 10 c = none := by rcases hc with rfl | rfl | rfl <;> decide
  have hsign : ¬ (c = '+' ∨ c = '-') := by rcases hc with rfl | rfl | rfl <;> decide
  intro hmem
  rcases List.mem_append.mp hmem with hmem | hmem
  · rcases List.mem_append.mp hmem with hmem | hmem
    · exact Text.notMem_of_blank hbefore hblank hmem
    · rcases hspells.sign_or_writes hmem with hmem | ⟨d, hd⟩
      · exact hsign hmem
      · cases hdigit.symm.trans ((Number.digit?_eq_some_iff (by omega) c d).mpr hd)
  · exact Text.notMem_of_blank hafter hblank hmem

/-! ## rows of coordinates -/

section
variable {coordinate coordinate' : List Char → Int32 → Prop} {p : Point3D}

/-- the coordinates of the point with commas between them -/
def Row (coordinate : List Char → Int32 → Prop) (p : Point3D) (cs : List Char) : Prop :=
  ∃ x y z, coordinate x p.x ∧ coordinate y p.y ∧ coordinate z p.z ∧
    cs = List.intercalate [','] [x, y, z]

theorem Row.imp {cs : List Char} (h : Row coordinate p cs)
    (himp : ∀ cs n, coordinate cs n → coordinate' cs n) : Row coordinate' p cs := by
  obtain ⟨x, y, z, hx, hy, hz, hcs⟩ := h
  exact ⟨x, y, z, himp x _ hx, himp y _ hy, himp z _ hz, hcs⟩

end

def readRow (cs : List Char) : Option (List Int32) := (Text.pieces ',' cs).mapM readCoordinate

theorem read_eq_ok_iff {text : String} {p : Point3D} :
    read text = .ok p ↔ readRow (inner text.toList) = some [p.x, p.y, p.z] := by
  unfold read readRow
  split
  · next x y z hrow =>
    rw [hrow]
    constructor
    · intro h
      cases h
      rfl
    · intro h
      cases h
      rfl
  · next hrow =>
    constructor
    · intro h
      cases h
    · intro h
      exact absurd h (hrow p.x p.y p.z)

theorem readRow_of_padded {cs body : List Char} (h : Padded cs body) : readRow cs = readRow body := by
  have htrim : ∀ cs, readRow cs = ((Text.pieces ',' cs).map Text.trim).mapM readCoordinate := by
    intro cs
    have hsame : readCoordinate ∘ Text.trim = readCoordinate := by
      funext piece
      unfold readCoordinate
      rw [Function.comp_apply, Text.trim_trim]
    rw [List.mapM_map, hsame]
    rfl
  rw [htrim, htrim, Text.map_trim_pieces (by decide) h]

theorem Row.readRow_eq {p : Point3D} {cs : List Char} (h : Row Denotes p cs) :
    readRow cs = some [p.x, p.y, p.z] := by
  obtain ⟨x, y, z, hx, hy, hz, rfl⟩ := h
  have hcomma : ∀ part ∈ [x, y, z], ',' ∉ part := by
    simp [hx.notMem, hy.notMem, hz.notMem]
  unfold readRow
  rw [Text.pieces_intercalate (List.cons_ne_nil _ _) hcomma, mapM_eq_some_iff]
  simp only [readCoordinate_eq_some_iff]
  exact .cons hx (.cons hy (.cons hz .nil))

theorem readRow_eq_some_iff {p : Point3D} {cs : List Char} :
    readRow cs = some [p.x, p.y, p.z] ↔ Row Denotes p cs := by
  refine ⟨?_, Row.readRow_eq⟩
  intro h
  unfold readRow at h
  rw [mapM_eq_some_iff] at h
  simp only [readCoordinate_eq_some_iff] at h
  have hcs := Text.intercalate_pieces ',' cs
  generalize Text.pieces ',' cs = parts at h hcs
  cases h with
  | @cons x _ _ _ hx h =>
    cases h with
    | @cons y _ _ _ hy h =>
      cases h with
      | @cons z _ _ _ hz h =>
        cases h
        exact ⟨x, y, z, hx, hy, hz, hcs.symm⟩

theorem Row.notMem {p : Point3D} {cs : List Char} (h : Row Denotes p cs) {c : Char}
    (hc : c = '(' ∨ c = ')') : c ∉ cs := by
  obtain ⟨x, y, z, hx, hy, hz, rfl⟩ := h
  have hcomma : c ≠ ',' := by rcases hc with rfl | rfl <;> decide
  rw [List.intercalate_cons_cons, List.intercalate_cons_cons, List.intercalate_singleton]
  simp [hx.notMem (.inr hc), hy.notMem (.inr hc), hz.notMem (.inr hc), hcomma]

/-! ## parentheses -/

/-- a row as it is, or in parentheses -/
inductive Enclosed (row : List Char) : List Char → Prop
  | bare : Enclosed row row
  | parentheses : Enclosed row ('(' :: row ++ [')'])

theorem dropWhile_of_notMem {c : Char} {cs : List Char} (h : c ∉ cs) :
    cs.dropWhile (· = c) = cs := by
  refine Text.dropWhile_eq_self fun d hd => decide_eq_false ?_
  rintro rfl
  exact h hd

/-- a row with parentheses in front of it and behind it, not necessarily as many -/
def inParentheses (opened closed : Nat) (row : List Char) : List Char :=
  List.replicate opened '(' ++ row ++ List.replicate closed ')'

theorem exists_replicate_dropWhile (c : Char) (cs : List Char) :
    ∃ n, cs = List.replicate n c ++ cs.dropWhile (· = c) := by
  have hsame : cs.takeWhile (· = c) = List.replicate (cs.takeWhile (· = c)).length c :=
    List.eq_replicate_of_mem fun d hd => by simpa using List.mem_takeWhile_imp hd
  refine ⟨(cs.takeWhile (· = c)).length, ?_⟩
  rw [← hsame, List.takeWhile_append_dropWhile]

theorem dropWhile_replicate_append {c : Char} {cs : List Char} (h : c ∉ cs) (n : Nat) :
    (List.replicate n c ++ cs).dropWhile (· = c) = cs := by
  have hsame : ∀ d ∈ List.replicate n c, decide (d = c) = true := fun d hd =>
    decide_eq_true (List.eq_of_mem_replicate hd)
  rw [List.dropWhile_append_of_pos hsame, dropWhile_of_notMem h]

/-- what is taken off are blanks, and then parentheses -/
theorem exists_trim_eq_inParentheses (cs : List Char) :
    ∃ opened closed, Text.trim cs = inParentheses opened closed (inner cs) := by
  obtain ⟨opened, hopened⟩ := exists_replicate_dropWhile '(' (Text.trim cs)
  obtain ⟨closed, hclosed⟩ :=
    exists_replicate_dropWhile ')' ((Text.trim cs).dropWhile (· = '(')).reverse
  have hstart : (Text.trim cs).dropWhile (· = '(') = inner cs ++ List.replicate closed ')' := by
    have hreverse := congrArg List.reverse hclosed
    rwa [List.reverse_reverse, List.reverse_append, List.reverse_replicate] at hreverse
  refine ⟨opened, closed, ?_⟩
  unfold inParentheses
  rw [List.append_assoc, ← hstart]
  exact hopened

/-- the parentheses keep the blanks on their side of the row -/
theorem exists_trim_inParentheses (opened closed : Nat) (row : List Char) :
    ∃ middle, Padded row middle ∧
      Text.trim (inParentheses opened closed row) = inParentheses opened closed middle := by
  have hrow : ∀ {c : Char} {n : Nat}, Text.isBlank c = false →
      ∀ d ∈ List.replicate n c, Text.isBlank d = false := by
    intro c n hc d hd
    rw [List.eq_of_mem_replicate hd]
    exact hc
  exact Text.exists_trim_between (hrow (by decide)) (hrow (by decide)) row

theorem inner_of_trim_eq {opened closed : Nat} {cs row : List Char}
    (h : Text.trim cs = inParentheses opened closed row) (hopen : '(' ∉ row) (hclose : ')' ∉ row) :
    inner cs = row := by
  have hstart : '(' ∉ row ++ List.replicate closed ')' := by simp [hopen]
  have hend : ')' ∉ row.reverse := fun hmem => hclose (List.mem_reverse.mp hmem)
  unfold inner
  rw [h, inParentheses, List.append_assoc, dropWhile_replicate_append hstart]
  dsimp only
  rw [List.reverse_append, List.reverse_replicate, dropWhile_replicate_append hend,
    List.reverse_reverse]

/-! ## points -/

/-- the coordinates of the point in so many parentheses, with blanks around them -/
def Wrapped (p : Point3D) (opened closed : Nat) (text : String) : Prop :=
  ∃ row, Row Denotes p row ∧ Padded text.toList (inParentheses opened closed row)

theorem read_of_wrapped {p : Point3D} {opened closed : Nat} {text : String}
    (h : Wrapped p opened closed text) : read text = .ok p := by
  obtain ⟨row, hrow, hpadded⟩ := h
  obtain ⟨middle, hmiddle, htrim⟩ := exists_trim_inParentheses opened closed row
  have hopen : '(' ∉ middle := fun hmem => hrow.notMem (.inl rfl) (hmiddle.mem hmem)
  have hclose : ')' ∉ middle := fun hmem => hrow.notMem (.inr rfl) (hmiddle.mem hmem)
  have hinner : inner text.toList = middle :=
    inner_of_trim_eq (hpadded.trim_eq.trans htrim) hopen hclose
  rw [read_eq_ok_iff, hinner, ← readRow_of_padded hmiddle, hrow.readRow_eq]

theorem read_eq_ok_iff_wrapped {p : Point3D} {text : String} :
    read text = .ok p ↔ ∃ opened closed, Wrapped p opened closed text := by
  constructor
  · intro h
    obtain ⟨opened, closed, htrim⟩ := exists_trim_eq_inParentheses text.toList
    refine ⟨opened, closed, inner text.toList, ?_, ?_⟩
    · exact readRow_eq_some_iff.mp (read_eq_ok_iff.mp h)
    · rw [← htrim]
      exact Text.padded_trim text.toList
  · rintro ⟨opened, closed, h⟩
    exact read_of_wrapped h

theorem read_eq_error_iff {text : String} {e : PointError} :
    read text = .error e ↔ e = ⟨text⟩ ∧ ∀ p, read text ≠ .ok p := by
  unfold read
  split
  · simp
  · simp [eq_comm]

/-- a text says itself how many parentheses there are -/
theorem Wrapped.count_eq {p : Point3D} {opened closed : Nat} {text : String}
    (h : Wrapped p opened closed text) :
    text.toList.count '(' = opened ∧ text.toList.count ')' = closed := by
  obtain ⟨row, hrow, hpadded⟩ := h
  have hopen : row.count '(' = 0 := List.count_eq_zero.mpr (hrow.notMem (.inl rfl))
  have hclose : row.count ')' = 0 := List.count_eq_zero.mpr (hrow.notMem (.inr rfl))
  rw [hpadded.count_eq (by decide), hpadded.count_eq (by decide)]
  simp [inParentheses, List.count_replicate, hopen, hclose]

/-- the coordinates of the point, in parentheses or without, with blanks around them -/
def Laid (coordinate : List Char → Int32 → Prop) (p : Point3D) (text : String) : Prop :=
  ∃ row enclosed, Row coordinate p row ∧ Enclosed row enclosed ∧ Padded text.toList enclosed

theorem laid_iff_wrapped {p : Point3D} {text : String} :
    Laid Denotes p text ↔ ∃ n ≤ 1, Wrapped p n n text := by
  constructor
  · rintro ⟨row, enclosed, hrow, henclosed, hpadded⟩
    cases henclosed with
    | bare => exact ⟨0, by omega, row, hrow, by simpa [inParentheses] using hpadded⟩
    | parentheses => exact ⟨1, by omega, row, hrow, hpadded⟩
  · rintro ⟨n, hn, row, hrow, hpadded⟩
    obtain rfl | rfl : n = 0 ∨ n = 1 := by omega
    · exact ⟨row, row, hrow, .bare, by simpa [inParentheses] using hpadded⟩
    · exact ⟨row, _, hrow, .parentheses, hpadded⟩

theorem read_of_laid {p : Point3D} {text : String} (h : Laid Denotes p text) :
    read text = .ok p := by
  obtain ⟨n, -, hwrapped⟩ := laid_iff_wrapped.mp h
  exact read_of_wrapped hwrapped

/-- no parentheses in the text, or one opening and one closing -/
def Matched (text : String) : Prop :=
  text.toList.count '(' = text.toList.count ')' ∧ text.toList.count ')' ≤ 1

theorem laid_iff {p : Point3D} {text : String} :
    Laid Denotes p text ↔ read text = .ok p ∧ Matched text := by
  constructor
  · intro h
    obtain ⟨n, hn, hwrapped⟩ := laid_iff_wrapped.mp h
    obtain ⟨hopened, hclosed⟩ := hwrapped.count_eq
    exact ⟨read_of_laid h, hopened.trans hclosed.symm, hclosed.trans_le hn⟩
  · rintro ⟨h, hsame, hle⟩
    obtain ⟨opened, closed, hwrapped⟩ := read_eq_ok_iff_wrapped.mp h
    obtain ⟨rfl, rfl⟩ := hwrapped.count_eq
    rw [hsame] at hwrapped
    exact laid_iff_wrapped.mpr ⟨_, hle, hwrapped⟩

theorem Laid.imp {coordinate coordinate' : List Char → Int32 → Prop} {p : Point3D} {text : String}
    (h : Laid coordinate p text) (himp : ∀ cs n, coordinate cs n → coordinate' cs n) :
    Laid coordinate' p text := by
  obtain ⟨row, enclosed, hrow, henclosed, hpadded⟩ := h
  exact ⟨row, enclosed, hrow.imp himp, henclosed, hpadded⟩

/-- a text is read exactly if it is a row in any number of parentheses on either side, and every other text
is an error that holds it; the laid out points are those that are read with their parentheses matched -/
theorem read_outcome (text : String) :
    (∀ p, read text = .ok p ↔ ∃ opened closed, Wrapped p opened closed text) ∧
    (∀ e, read text = .error e ↔
      e = ⟨text⟩ ∧ ¬ ∃ p opened closed, Wrapped p opened closed text) ∧
    ∀ p, Laid Denotes p text ↔ read text = .ok p ∧ Matched text := by
  refine ⟨fun p => read_eq_ok_iff_wrapped, ?_, fun p => laid_iff⟩
  intro e
  rw [read_eq_error_iff]
  simp only [ne_eq, read_eq_ok_iff_wrapped, not_exists]

/-- two parentheses in front and one behind: read, but not laid out -/
theorem read_unmatched :
    read "((1, 2, 3)" = .ok ⟨1, 2, 3⟩ ∧ ¬ ∃ p, Laid Denotes p "((1, 2, 3)" := by
  refine ⟨by decide +kernel, ?_⟩
  rintro ⟨p, h⟩
  obtain ⟨-, hsame, -⟩ := laid_iff.mp h
  exact absurd hsame (by decide)

end ObjectFilter.World.Point3D
