import ObjectFilter.Proofs.Property.Path
import ObjectFilter.Proofs.Property.Typing
import Mathlib.Data.List.Chain
import Mathlib.Data.List.Induction

/-!
# Binding from left to right

Binding a path, one segment after the other: each segment adds one link behind those found so far, or
is refused for a reason of its own.  What a segment is refused for depends on the links in front of
it only, so the first refused segment decides, and nothing behind it can change that.

* `extend_eq_ok_iff`, `extend_eq_error_iff`   what one segment does;
* `names_iff`             the links of the first segments;
* `map_chain_bind`        a bound property has the links that are found one after the other;
* `bind_eq_error_iff`     the error is that of the first segment at fault;
* `bind_blames_first`     which paths bind, which segment is blamed, and what a bound chain is like.
-/

namespace ObjectFilter

variable {α : Type} [Schema α]

theorem Connects.isObject {owner last : TypeKey} {links : List (Link α)}
    (h : Connects owner links last) : ∀ link ∈ links, ∃ key, link.type = .object key := by
  induction h with
  | nil key => exact nofun
  | cons htype hrest ih => exact List.forall_mem_cons.mpr ⟨⟨_, htype⟩, ih⟩

/-! ## one segment -/

namespace Link

theorem find?_eq_none_iff {owner : TypeKey} {name : String} :
    (find? owner name : Option (Link α)) = none ↔
      ∀ p ∈ (Schema.descriptor owner : TypeDescriptor α).properties,
        Text.sameName p.name name = false := by
  unfold find?
  rw [Option.map_eq_none_iff, List.findFinIdx?_eq_none_iff]
  simp

theorem find_eq_error_iff {owner : TypeKey} {name : String} {e : FilterError} :
    (find owner name : Except FilterError (Link α)) = .error e ↔
      (∀ p ∈ (Schema.descriptor owner : TypeDescriptor α).properties,
        Text.sameName p.name name = false) ∧ e = .unknownProperty (typeName α owner) name := by
  rw [← find?_eq_none_iff]
  unfold find
  cases find? (α := α) owner name with
  | none => simp [eq_comm]
  | some l => simp

end Link

/-- the error of the same fault in another path -/
def FilterError.withPath (path : String) : FilterError → FilterError
  | .invalidPath _ => .invalidPath path
  | e => e

namespace Property

/-- the type that the name behind a link is looked up in: the owner of the path if there is none -/
def typeBehind (owner : TypeKey) (name : String) :
    Option (Link α) → Except FilterError TypeKey
  | none => .ok owner
  | some link =>
    match link.type with
    | .object key => .ok key
    | type => .error (.notAnObject link.name (type.name α) name)

def extend (owner : TypeKey) (path : String) (links : List (Link α)) (segment : List Char) :
    Except FilterError (List (Link α)) := do
  let name := String.ofList (Text.trim segment)
  if name.isEmpty then throw (.invalidPath path)
  let key ← typeBehind owner name links.getLast?
  let link ← Link.find key name
  return links ++ [link]

/-- the type that the segment behind the links names a property of: that of the owner in front, and
then the one that the last link refers to -/
def Reaches (owner : TypeKey) (links : List (Link α)) (key : TypeKey) : Prop :=
  match links.getLast? with
  | none => key = owner
  | some link => link.type = .object key

/-- why a segment behind the links is refused -/
inductive Refused (owner : TypeKey) (path : String) (links : List (Link α))
    (segment : List Char) : FilterError → Prop
  /-- nothing stands between the dots -/
  | blank (hname : Text.trim segment = []) : Refused owner path links segment (.invalidPath path)
  /-- the last link is declared with a type that is no object -/
  | notAnObject (hname : Text.trim segment ≠ []) {link : Link α}
      (hlast : links.getLast? = some link) (htype : ∀ key, link.type ≠ .object key) :
      Refused owner path links segment
        (.notAnObject link.name (link.type.name α) (String.ofList (Text.trim segment)))
  /-- the type reached has no property of that name, whatever the case -/
  | unknownProperty (hname : Text.trim segment ≠ []) {key : TypeKey}
      (hkey : Reaches owner links key)
      (hnone : ∀ p ∈ (Schema.descriptor key : TypeDescriptor α).properties,
        Text.sameName p.name (String.ofList (Text.trim segment)) = false) :
      Refused owner path links segment
        (.unknownProperty (typeName α key) (String.ofList (Text.trim segment)))

section
variable {owner : TypeKey} {path name : String} {links : List (Link α)} {segment : List Char}

theorem isEmpty_ofList_trim_iff :
    (String.ofList (Text.trim segment)).isEmpty = true ↔ Text.trim segment = [] := by
  rw [String.isEmpty_iff, String.ofList_eq_empty_iff]

theorem typeBehind_eq_ok_iff {key : TypeKey} :
    typeBehind owner name links.getLast? = .ok key ↔ Reaches owner links key := by
  unfold Reaches
  cases links.getLast? with
  | none => simp [typeBehind, eq_comm]
  | some link =>
    unfold typeBehind
    dsimp only
    split
    · next key' htype => simp [htype]
    · next hscalar =>
      refine iff_of_false ?_ (hscalar key)
      intro h
      cases h

theorem typeBehind_eq_error_iff {e : FilterError} :
    typeBehind owner name links.getLast? = .error e ↔
      ∃ link, links.getLast? = some link ∧ (∀ key, link.type ≠ .object key) ∧
        e = .notAnObject link.name (link.type.name α) name := by
  cases links.getLast? with
  | none => simp [typeBehind]
  | some link =>
    unfold typeBehind
    dsimp only
    split
    · next key htype => simp [htype]
    · next hscalar =>
      simp only [Except.error.injEq, Option.some.injEq, exists_eq_left']
      constructor
      · rintro rfl
        exact ⟨hscalar, rfl⟩
      · rintro ⟨-, rfl⟩
        rfl

theorem extend_of_blank (h : Text.trim segment = []) :
    extend owner path links segment = .error (.invalidPath path) := by
  unfold extend
  dsimp only
  rw [if_pos (isEmpty_ofList_trim_iff.mpr h)]
  rfl

theorem extend_of_not_blank (h : Text.trim segment ≠ []) :
    extend owner path links segment =
      typeBehind owner (String.ofList (Text.trim segment)) links.getLast? >>= fun key =>
        Link.find key (String.ofList (Text.trim segment)) >>= fun link => .ok (links ++ [link]) := by
  unfold extend
  dsimp only
  rw [if_neg fun hempty => h (isEmpty_ofList_trim_iff.mp hempty)]
  rfl

theorem extend_eq_ok_iff {links' : List (Link α)} :
    extend owner path links segment = .ok links' ↔
      ∃ key link, Reaches owner links key ∧ Link.Answers key segment link ∧
        links' = links ++ [link] := by
  by_cases hname : Text.trim segment = []
  · rw [extend_of_blank hname]
    constructor
    · intro h
      cases h
    · rintro ⟨key, link, -, hanswers, -⟩
      exact absurd (isEmpty_ofList_trim_iff.mpr hname) (Bool.eq_false_iff.mp hanswers.1)
  · rw [extend_of_not_blank hname, bind_eq_ok_iff]
    simp only [bind_eq_ok_iff, typeBehind_eq_ok_iff, Except.ok.injEq]
    constructor
    · rintro ⟨key, hkey, link, hlink, rfl⟩
      have hempty : (String.ofList (Text.trim segment)).isEmpty = false :=
        Bool.eq_false_iff.mpr fun h => hname (isEmpty_ofList_trim_iff.mp h)
      exact ⟨key, link, hkey, ⟨hempty, hlink⟩, rfl⟩
    · rintro ⟨key, link, hkey, hanswers, rfl⟩
      exact ⟨key, hkey, link, hanswers.2, rfl⟩

theorem extend_eq_error_iff {e : FilterError} :
    extend owner path links segment = .error e ↔ Refused owner path links segment e := by
  by_cases hname : Text.trim segment = []
  · rw [extend_of_blank hname]
    constructor
    · intro h
      cases h
      exact .blank hname
    · intro h
      cases h with
      | blank => rfl
      | notAnObject h => exact absurd hname h
      | unknownProperty h => exact absurd hname h
  · rw [extend_of_not_blank hname, bind_eq_error_iff, typeBehind_eq_error_iff]
    constructor
    · rintro (⟨link, hlast, htype, rfl⟩ | ⟨key, hkey, h⟩)
      · exact .notAnObject hname hlast htype
      · rcases (bind_eq_error_iff ..).mp h with h | ⟨link, -, h⟩
        · obtain ⟨hnone, rfl⟩ := Link.find_eq_error_iff.mp h
          exact .unknownProperty hname (typeBehind_eq_ok_iff.mp hkey) hnone
        · cases h
    · intro h
      cases h with
      | blank h => exact absurd h hname
      | notAnObject _ hlast htype => exact .inl ⟨_, hlast, htype, rfl⟩
      | unknownProperty _ hkey hnone =>
        refine .inr ⟨_, typeBehind_eq_ok_iff.mpr hkey, (bind_eq_error_iff ..).mpr (.inl ?_)⟩
        exact Link.find_eq_error_iff.mpr ⟨hnone, rfl⟩

end

/-! ## a whole path -/

/-- the segments, read from left to right, name the links: each of them a property of the type that
those in front lead to -/
inductive Names (owner : TypeKey) : List (List Char) → List (Link α) → Prop
  | nil : Names owner [] []
  | snoc {segments : List (List Char)} {links : List (Link α)} {segment : List Char}
      {key : TypeKey} {link : Link α} (hfront : Names owner segments links)
      (hkey : Reaches owner links key) (hlink : Link.Answers key segment link) :
      Names owner (segments ++ [segment]) (links ++ [link])

/-- the links of a path, found one after the other -/
def linksOf (owner : TypeKey) (path : String) : Except FilterError (List (Link α)) :=
  (Text.pieces '.' path.toList).foldlM (extend owner path) []

/-- by induction on the segments from the last one, which is the one read last -/
theorem names_iff (owner : TypeKey) (path : String) (segments : List (List Char)) :
    ∀ links : List (Link α), segments.foldlM (extend owner path) [] = .ok links ↔
      Names owner segments links := by
  induction segments using List.reverseRecOn with
  | nil =>
    intro links
    constructor
    · intro h
      cases h
      exact .nil
    · intro h
      generalize hsegments : ([] : List (List Char)) = segments at h
      cases h with
      | nil => rfl
      | snoc => simp at hsegments
  | append_singleton segments segment ih =>
    intro links
    rw [List.foldlM_append, bind_eq_ok_iff]
    simp only [List.foldlM_cons, List.foldlM_nil, bind_pure, ih, extend_eq_ok_iff]
    constructor
    · rintro ⟨front, hfront, key, link, hkey, hlink, rfl⟩
      exact .snoc hfront hkey hlink
    · intro h
      generalize hall : segments ++ [segment] = all at h
      cases h with
      | nil => simp at hall
      | @snoc _ front _ key link hfront hkey hlink =>
        obtain ⟨rfl, hsegment⟩ := List.append_inj' hall rfl
        cases hsegment
        exact ⟨front, hfront, key, link, hkey, hlink, rfl⟩

theorem bindAfter_of_not_blank (owner : TypeKey) (path : String) (link : Link α)
    {segment : List Char} (h : Text.trim segment ≠ []) (rest : List (List Char)) :
    bindAfter path link (segment :: rest) =
      typeBehind owner (String.ofList (Text.trim segment)) (some link) >>= fun key =>
        Link.find key (String.ofList (Text.trim segment)) >>= fun next =>
          (bindAfter path next rest).map fun found => (link :: found.1, found.2) := by
  rw [bindAfter, typeBehind]
  dsimp only
  rw [if_neg fun hempty => h (isEmpty_ofList_trim_iff.mp hempty)]
  cases link.type with
  | object key => rfl
  | _ => rfl

/-- behind a first link, binding finds the same links and the same errors -/
theorem map_bindAfter (owner : TypeKey) (path : String) (segments : List (List Char)) :
    ∀ (link : Link α) (front : List (Link α)),
      (bindAfter path link segments).map (fun found => front ++ (found.1 ++ [found.2])) =
        segments.foldlM (extend owner path) (front ++ [link]) := by
  induction segments with
  | nil =>
    intro link front
    rfl
  | cons segment rest ih =>
    intro link front
    rw [List.foldlM_cons]
    by_cases hname : Text.trim segment = []
    · rw [extend_of_blank hname, bindAfter]
      dsimp only
      rw [if_pos (isEmpty_ofList_trim_iff.mpr hname)]
      rfl
    · rw [extend_of_not_blank hname, bindAfter_of_not_blank owner path link hname,
        List.getLast?_concat]
      cases typeBehind owner (String.ofList (Text.trim segment)) (some link) with
      | error e => rfl
      | ok key =>
        show Except.map _ (Link.find key _ >>= _) = (Link.find key _ >>= _) >>= _
        cases (Link.find key (String.ofList (Text.trim segment)) :
          Except FilterError (Link α)) with
        | error e => rfl
        | ok next =>
          show Except.map _ (Except.map _ (bindAfter path next rest)) =
            rest.foldlM (extend owner path) (front ++ [link] ++ [next])
          rw [← ih next (front ++ [link])]
          cases bindAfter path next rest with
          | error e => rfl
          | ok found => simp [Except.map]

/-- binding finds the links that are found one after the other, and fails as that does -/
theorem map_chain_bind (owner : TypeKey) (path : String) :
    (bind owner path : Except FilterError (Property α)).map chain = linksOf owner path := by
  unfold bind linksOf Text.pieces
  dsimp only
  rw [List.foldlM_cons]
  by_cases hname : Text.trim (Text.cut '.' path.toList).1 = []
  · rw [extend_of_blank hname, if_pos (isEmpty_ofList_trim_iff.mpr hname)]
    rfl
  · rw [extend_of_not_blank hname, if_neg fun hempty => hname (isEmpty_ofList_trim_iff.mp hempty)]
    show Except.map _ (Link.find owner _ >>= _) = (Link.find owner _ >>= _) >>= _
    cases (Link.find owner (String.ofList (Text.trim (Text.cut '.' path.toList).1)) :
      Except FilterError (Link α)) with
    | error e => rfl
    | ok first =>
      have hrest := map_bindAfter owner path (Text.cut '.' path.toList).2 first []
      show Except.map _ (bindAfter path first _ >>= _) =
        List.foldlM (extend owner path) ([] ++ [first]) _
      rw [← hrest]
      cases bindAfter path first (Text.cut '.' path.toList).2 with
      | error e => rfl
      | ok found => rfl

/-! ## the segment at fault -/

/-- the segment at the position is refused: because it is blank, wherever it stands, or for what the
segments in front of it lead to -/
def Faulty (α : Type) [Schema α] (owner : TypeKey) (path : String) (i : Nat) (e : FilterError) :
    Prop :=
  ∃ segment, (Text.pieces '.' path.toList)[i]? = some segment ∧
    (Text.trim segment = [] ∧ e = .invalidPath path ∨
      ∃ links : List (Link α), Names owner ((Text.pieces '.' path.toList).take i) links ∧
        Refused owner path links segment e)

/-- the segment at the position is at fault, and none in front of it is -/
def Blamed (α : Type) [Schema α] (owner : TypeKey) (path : String) (i : Nat) (e : FilterError) :
    Prop :=
  Faulty α owner path i e ∧ ∀ j < i, ∀ e', ¬ Faulty α owner path j e'

section
variable {owner : TypeKey} {path : String} {e : FilterError}

theorem linksOf_eq_error_iff :
    (linksOf owner path : Except FilterError (List (Link α))) = .error e ↔
      ∃ i segment, (Text.pieces '.' path.toList)[i]? = some segment ∧
        ∃ links : List (Link α), Names owner ((Text.pieces '.' path.toList).take i) links ∧
          Refused owner path links segment e := by
  unfold linksOf
  rw [foldlM_eq_error_iff]
  simp only [names_iff, extend_eq_error_iff, exists_and_left]

theorem linksOf_of_bind {p : Property α} (h : bind owner path = .ok p) :
    linksOf owner path = .ok p.chain := by
  rw [← map_chain_bind, h]
  rfl

theorem Names.unique {segments : List (List Char)} {links links' : List (Link α)}
    (h : Names owner segments links) (h' : Names owner segments links') : links = links' := by
  have hlinks := (names_iff owner "" segments links).mpr h
  rw [(names_iff owner "" segments links').mpr h'] at hlinks
  exact (Except.ok.inj hlinks).symm

/-- each of the segments adds its link to those of the segments in front of it -/
theorem Names.extend_front {segments : List (List Char)} {links : List (Link α)}
    (h : Names owner segments links) (path : String) {i : Nat} {segment : List Char}
    (hi : segments[i]? = some segment) :
    ∃ front links' : List (Link α), Names owner (segments.take i) front ∧
      extend owner path front segment = .ok links' := by
  induction h with
  | nil => cases hi
  | @snoc segments links last key link hfront hkey hlink ih =>
    rcases Nat.lt_or_ge i segments.length with hlt | hge
    · rw [List.getElem?_append_left hlt] at hi
      rw [List.take_append_of_le_length (Nat.le_of_lt hlt)]
      exact ih hi
    · rw [List.getElem?_append_right hge, List.getElem?_singleton] at hi
      split at hi
      · next hzero =>
        cases hi
        have hlength : i = segments.length := by omega
        rw [hlength, List.take_left' rfl]
        exact ⟨links, _, hfront, extend_eq_ok_iff.mpr ⟨key, link, hkey, hlink, rfl⟩⟩
      · cases hi

theorem not_faulty_of_names {i j : Nat} {links : List (Link α)}
    (h : Names owner ((Text.pieces '.' path.toList).take i) links) (hj : j < i) :
    ¬ Faulty α owner path j e := by
  rintro ⟨segment, hsegment, hfault⟩
  have hget : ((Text.pieces '.' path.toList).take i)[j]? = some segment := by
    rw [List.getElem?_take_of_lt hj]
    exact hsegment
  obtain ⟨front, links', hfront, hextend⟩ := h.extend_front path hget
  rw [List.take_take, Nat.min_eq_left (Nat.le_of_lt hj)] at hfront
  rcases hfault with ⟨hblank, -⟩ | ⟨links'', hlinks, hrefused⟩
  · cases (extend_of_blank hblank).symm.trans hextend
  · obtain rfl := hlinks.unique hfront
    cases (extend_eq_error_iff.mpr hrefused).symm.trans hextend

theorem Faulty.lt_length {i : Nat} (h : Faulty α owner path i e) :
    i < (Text.pieces '.' path.toList).length := by
  obtain ⟨segment, hsegment, -⟩ := h
  exact (List.getElem?_eq_some_iff.mp hsegment).1

theorem blamed_of_refused {i : Nat} {segment : List Char} {links : List (Link α)}
    (hsegment : (Text.pieces '.' path.toList)[i]? = some segment)
    (hlinks : Names owner ((Text.pieces '.' path.toList).take i) links)
    (hrefused : Refused owner path links segment e) : Blamed α owner path i e :=
  ⟨⟨segment, hsegment, .inr ⟨links, hlinks, hrefused⟩⟩,
    fun _ hj _ => not_faulty_of_names hlinks hj⟩

theorem exists_blamed_of_bind
    (h : (bind owner path : Except FilterError (Property α)) = .error e) :
    ∃ i, Blamed α owner path i e := by
  rw [← map_eq_error_iff chain, map_chain_bind, linksOf_eq_error_iff] at h
  obtain ⟨i, segment, hsegment, links, hlinks, hrefused⟩ := h
  exact ⟨i, blamed_of_refused hsegment hlinks hrefused⟩

theorem names_of_bind {p : Property α} (h : bind owner path = .ok p) :
    Names owner (Text.pieces '.' path.toList) p.chain :=
  (names_iff owner path _ _).mp (linksOf_of_bind h)

theorem bind_fails_iff :
    (∃ e, (bind owner path : Except FilterError (Property α)) = .error e) ↔
      ∃ i e, Faulty α owner path i e := by
  constructor
  · rintro ⟨e, he⟩
    obtain ⟨i, hfaulty, -⟩ := exists_blamed_of_bind he
    exact ⟨i, e, hfaulty⟩
  · rintro ⟨i, e, hfaulty⟩
    cases hbind : (bind owner path : Except FilterError (Property α)) with
    | error e' => exact ⟨e', rfl⟩
    | ok p =>
      have hall := names_of_bind hbind
      rw [← List.take_length (l := Text.pieces '.' path.toList)] at hall
      have hlt := hfaulty.lt_length
      exact absurd hfaulty (not_faulty_of_names hall hlt)

theorem Faulty.unique {i : Nat} {e' : FilterError} (h : Faulty α owner path i e)
    (h' : Faulty α owner path i e')
    (hlinks : ∃ links : List (Link α), Names owner ((Text.pieces '.' path.toList).take i) links) :
    e = e' := by
  obtain ⟨links, hlinks⟩ := hlinks
  have hrefused : ∀ {e}, Faulty α owner path i e →
      ∃ segment, (Text.pieces '.' path.toList)[i]? = some segment ∧
        extend owner path links segment = .error e := by
    rintro e ⟨segment, hsegment, ⟨hblank, rfl⟩ | ⟨links', hlinks', hrefused⟩⟩
    · exact ⟨segment, hsegment, extend_of_blank hblank⟩
    · obtain rfl := hlinks'.unique hlinks
      exact ⟨segment, hsegment, extend_eq_error_iff.mpr hrefused⟩
  obtain ⟨segment, hsegment, he⟩ := hrefused h
  obtain ⟨segment', hsegment', he'⟩ := hrefused h'
  cases hsegment.symm.trans hsegment'
  exact Except.error.inj (he.symm.trans he')

theorem bind_eq_error_iff_blamed :
    (bind owner path : Except FilterError (Property α)) = .error e ↔
      ∃ i, Blamed α owner path i e := by
  refine ⟨exists_blamed_of_bind, ?_⟩
  rintro ⟨i, hfaulty, hfirst⟩
  obtain ⟨e', he'⟩ := (bind_fails_iff (α := α)).mpr ⟨i, e, hfaulty⟩
  rw [he']
  rw [← map_eq_error_iff chain, map_chain_bind, linksOf_eq_error_iff] at he'
  obtain ⟨j, segment, hsegment, links, hlinks, hrefused⟩ := he'
  obtain ⟨hfaulty', hfirst'⟩ := blamed_of_refused hsegment hlinks hrefused
  -- both are the first segment at fault
  have hij : i = j := by
    rcases Nat.lt_trichotomy i j with hlt | heq | hgt
    · exact absurd hfaulty (hfirst' i hlt e)
    · exact heq
    · exact absurd hfaulty' (hfirst j hgt e')
  subst hij
  rw [hfaulty.unique hfaulty' ⟨links, hlinks⟩]

end

/-! ## what stands behind the fault -/

/-- what a segment is refused for behind the same links in another path -/
theorem Refused.withPath {owner : TypeKey} {path : String} {links : List (Link α)}
    {segment : List Char} {e : FilterError} (h : Refused owner path links segment e)
    (other : String) : Refused owner other links segment (e.withPath other) := by
  cases h with
  | blank hname => exact .blank hname
  | notAnObject hname hlast htype => exact .notAnObject hname hlast htype
  | unknownProperty hname hkey hnone => exact .unknownProperty hname hkey hnone

theorem Faulty.withPath {owner : TypeKey} {path other : String} {i : Nat} {e : FilterError}
    (h : Faulty α owner path i e)
    (hfront : (Text.pieces '.' other.toList).take (i + 1) =
      (Text.pieces '.' path.toList).take (i + 1)) :
    Faulty α owner other i (e.withPath other) := by
  have hget : (Text.pieces '.' other.toList)[i]? = (Text.pieces '.' path.toList)[i]? := by
    rw [← List.getElem?_take_of_lt (Nat.lt_succ_self i), hfront,
      List.getElem?_take_of_lt (Nat.lt_succ_self i)]
  have htake : (Text.pieces '.' other.toList).take i = (Text.pieces '.' path.toList).take i := by
    have hle : min i (i + 1) = i := Nat.min_eq_left (Nat.le_succ i)
    rw [← hle, ← List.take_take, hfront, List.take_take]
  obtain ⟨segment, hsegment, hfault⟩ := h
  refine ⟨segment, hget.trans hsegment, ?_⟩
  rcases hfault with ⟨hblank, rfl⟩ | ⟨links, hlinks, hrefused⟩
  · exact .inl ⟨hblank, rfl⟩
  · rw [htake]
    exact .inr ⟨links, hlinks, hrefused.withPath other⟩

theorem pieces_dot (path rest : String) :
    Text.pieces '.' (path ++ "." ++ rest).toList =
      Text.pieces '.' path.toList ++ Text.pieces '.' rest.toList := by
  rw [String.toList_append, String.toList_append, List.append_assoc]
  exact Text.pieces_append '.' path.toList rest.toList

/-- what is appended to a path does not change which segment is blamed -/
theorem Blamed.append {owner : TypeKey} {path : String} {i : Nat} {e : FilterError}
    (h : Blamed α owner path i e) (rest : String) :
    Blamed α owner (path ++ "." ++ rest) i (e.withPath (path ++ "." ++ rest)) := by
  obtain ⟨hfaulty, hfirst⟩ := h
  have hlt := hfaulty.lt_length
  have hfront : ∀ j ≤ i, (Text.pieces '.' (path ++ "." ++ rest).toList).take (j + 1) =
      (Text.pieces '.' path.toList).take (j + 1) := by
    intro j hj
    rw [pieces_dot, List.take_append_of_le_length (by omega)]
  refine ⟨hfaulty.withPath (hfront i (Nat.le_refl i)), ?_⟩
  intro j hj e' hfaulty'
  exact hfirst j hj _ (hfaulty'.withPath (hfront j (Nat.le_of_lt hj)).symm)

/-! ## bound chains -/

/-- the links lead on from the owner: the first is declared by it, and each other one by the type that
the link before it refers to -/
structure Linked (owner : TypeKey) (links : List (Link α)) : Prop where
  first : ∀ link ∈ links.head?, link.owner = owner
  next : links.IsChain fun link next => link.type = .object next.owner

section
variable {owner : TypeKey} {segments : List (List Char)} {links : List (Link α)}

theorem Names.length_eq (h : Names owner segments links) : links.length = segments.length := by
  induction h with
  | nil => rfl
  | snoc _ _ _ ih => rw [List.length_append, List.length_append, ih, List.length_singleton,
      List.length_singleton]

theorem Names.linked (h : Names owner segments links) : Linked owner links := by
  induction h with
  | nil => exact ⟨nofun, .nil⟩
  | @snoc segments links segment key link hfront hkey hlink ih =>
    have howner : link.owner = key := Link.owner_of_find hlink.2
    unfold Reaches at hkey
    constructor
    · intro first hfirst
      cases links with
      | nil =>
        cases hfirst
        exact howner.trans hkey
      | cons head rest => exact ih.first first hfirst
    · rw [List.isChain_append]
      refine ⟨ih.next, .singleton link, ?_⟩
      intro last hlast next hnext
      cases hnext
      rw [hlast] at hkey
      rw [howner]
      exact hkey

end

theorem bind_blames_first (owner : TypeKey) (path : String) :
    ((∃ e, (bind owner path : Except FilterError (Property α)) = .error e) ↔
      ∃ i e, Faulty α owner path i e) ∧
    (∀ e, (bind owner path : Except FilterError (Property α)) = .error e ↔
      ∃ i, Blamed α owner path i e) ∧
    (∀ i e, Blamed α owner path i e → ∀ rest : String,
      Blamed α owner (path ++ "." ++ rest) i (e.withPath (path ++ "." ++ rest)) ∧
        (bind owner (path ++ "." ++ rest) : Except FilterError (Property α)) =
          .error (e.withPath (path ++ "." ++ rest))) ∧
    ∀ p : Property α, bind owner path = .ok p →
      p.owner = owner ∧ linksOf owner path = .ok p.chain ∧
        p.chain.length = (Text.pieces '.' path.toList).length ∧ 1 ≤ p.chain.length ∧
        Names owner (Text.pieces '.' path.toList) p.chain ∧
        (∀ link ∈ p.chain.dropLast, ∃ key, link.type = .object key) ∧ Linked owner p.chain ∧
        ∃ last, p.chain.getLast? = some last ∧ p.type = last.type ∧
          ∀ a, p.read a = readThrough last p.chain.dropLast a := by
  refine ⟨bind_fails_iff, fun e => bind_eq_error_iff_blamed, ?_, ?_⟩
  · intro i e hblamed rest
    have happend := hblamed.append rest
    exact ⟨happend, bind_eq_error_iff_blamed.mpr ⟨i, happend⟩⟩
  · intro p h
    have hnames := names_of_bind h
    have hdrop : p.chain.dropLast = p.through := List.dropLast_concat
    refine ⟨((bind_eq_ok_iff_follows ..).mp h).1, linksOf_of_bind h, hnames.length_eq, ?_, hnames,
      ?_, hnames.linked, p.last, List.getLast?_concat, rfl, ?_⟩
    · exact List.length_pos_iff.mpr p.chain_ne_nil
    · rw [hdrop]
      exact (connects_of_bind h).isObject
    · rw [hdrop]
      exact fun a => rfl

/-- paths over gadgets that fail at their third segment: it is blank, and stands behind a number besides;
it goes on behind a number; no property has its name -/
theorem bind_blames_first_gadget :
    (bind (.named "Gadget") ("Parent.tiny. " ++ "." ++ "Name") :
      Except FilterError (Property World.Entity)) =
        .error (.invalidPath ("Parent.tiny. " ++ "." ++ "Name")) ∧
    (bind (.named "Gadget") ("parent.TINY. Name" ++ "." ++ "") :
      Except FilterError (Property World.Entity)) =
        .error (.notAnObject "Tiny" "i8" "Name") ∧
    (bind (.named "Gadget") ("Parent.Maker.Tiny" ++ "." ++ "Name.") :
      Except FilterError (Property World.Entity)) =
        .error (.unknownProperty "Player" "Tiny") ∧
    ∃ p : Property World.Entity, bind (.named "Gadget") " Parent.maker .NAME" = .ok p ∧
      p.chain.length = 3 := by
  refine ⟨?_, ?_, ?_, ?_⟩
  · have hfront : bind (.named "Gadget") "Parent.tiny" =
        .ok (⟨.named "Gadget", [gadgetLink ⟨21, by decide⟩], gadgetLink ⟨2, by decide⟩⟩ :
          Property World.Entity) := by decide +kernel
    have htake : (Text.pieces '.' "Parent.tiny. ".toList).take 2 =
        Text.pieces '.' "Parent.tiny".toList := by decide +kernel
    have hblamed : Blamed World.Entity (.named "Gadget") "Parent.tiny. " 2
        (.invalidPath "Parent.tiny. ") := by
      have hsegment : (Text.pieces '.' "Parent.tiny. ".toList)[2]? = some [' '] := by
        decide +kernel
      exact blamed_of_refused hsegment (htake ▸ names_of_bind hfront) (.blank (by decide))
    exact ((bind_blames_first _ _).2.2.1 2 _ hblamed "Name").2
  · have hbind : (bind (.named "Gadget") "parent.TINY. Name" :
        Except FilterError (Property World.Entity)) =
          .error (.notAnObject "Tiny" "i8" "Name") := by decide +kernel
    obtain ⟨i, hblamed⟩ := ((bind_blames_first _ _).2.1 _).mp hbind
    exact ((bind_blames_first _ _).2.2.1 i _ hblamed "").2
  · have hbind : (bind (.named "Gadget") "Parent.Maker.Tiny" :
        Except FilterError (Property World.Entity)) =
          .error (.unknownProperty "Player" "Tiny") := by decide +kernel
    obtain ⟨i, hblamed⟩ := ((bind_blames_first _ _).2.1 _).mp hbind
    exact ((bind_blames_first _ _).2.2.1 i _ hblamed "Name.").2
  · have hbind : bind (.named "Gadget") " Parent.maker .NAME" =
        .ok (⟨.named "Gadget", [gadgetLink ⟨21, by decide⟩, gadgetLink ⟨22, by decide⟩],
          ⟨.named "Character", ⟨0, by decide⟩⟩⟩ : Property World.Entity) := by decide +kernel
    refine ⟨_, hbind, ?_⟩
    rw [((bind_blames_first _ _).2.2.2 _ hbind).2.2.1]
    decide +kernel

end Property
end ObjectFilter
