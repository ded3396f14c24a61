import ObjectFilter.Proofs.Property.Path
import ObjectFilter.Proofs.Property.Typing
import ObjectFilter.Proofs.Text.Name

/-!
# Canonical paths

A bound property is written with the declared names of its links.  The spelling of a path decides nothing
else: segments that are the same but for case and white space lead through the same links, and the
declared names are such segments of any path that the property was bound from.

Nothing is asked of the declared names.  Only a name that some segment answers to is ever reached, and
such a name holds no dot and is not blank; a name that hides behind an earlier one that differs from it
in case is never reached at all, as no spelling leads past the first match.

* `find?_congr`           one look-up for all spellings of a name;
* `bind_of_alike`         one property for all spellings of a path;
* `alike_path`            the canonical path is one of the spellings;
* `bind_path_identifies`  the canonical path binds, and tells properties apart.
-/

namespace ObjectFilter

variable {α : Type} [Schema α]

/-! ## segments -/

/-- the segments are the same but for case and the white space around them -/
def SameSegment (segment other : List Char) : Prop :=
  Text.Insensitive.equals (Text.trim segment) (Text.trim other) = true

instance (segment other : List Char) : Decidable (SameSegment segment other) :=
  inferInstanceAs (Decidable (_ = true))

theorem sameSegment_iff (segment other : List Char) : SameSegment segment other ↔
    Text.folded (Text.trim segment) = Text.folded (Text.trim other) :=
  Text.Insensitive.equals_iff (Text.trim segment) (Text.trim other)

namespace Link

theorem find_eq_ok_iff {owner : TypeKey} {name : String} {link : Link α} :
    find owner name = .ok link ↔ find? owner name = some link := by
  unfold find
  cases find? (α := α) owner name with
  | none => simp
  | some l => simp

theorem find?_congr {a b : String} (h : Text.sameName a b = true) (owner : TypeKey) :
    find? (α := α) owner a = find? owner b := by
  unfold find?
  simp only [Text.sameName_congr h]

theorem sameName_of_find? {owner : TypeKey} {name : String} {link : Link α}
    (h : find? owner name = some link) : Text.sameName link.name name = true := by
  obtain ⟨i, hi, rfl⟩ := Option.map_eq_some_iff.mp h
  exact (List.findFinIdx?_eq_some_iff.mp hi).1

theorem Answers.folded_name {owner : TypeKey} {segment : List Char} {link : Link α}
    (h : Link.Answers owner segment link) :
    Text.folded link.name.toList = Text.folded (Text.trim segment) := by
  have hsame := sameName_of_find? (find_eq_ok_iff.mp h.2)
  rw [Text.sameName_iff, String.toList_ofList] at hsame
  exact hsame

theorem Answers.sameSegment {owner : TypeKey} {segment : List Char} {link : Link α}
    (h : Link.Answers owner segment link) : SameSegment segment link.name.toList := by
  rw [sameSegment_iff]
  calc Text.folded (Text.trim segment)
      = Text.folded (Text.trim (Text.trim segment)) := by rw [Text.trim_trim]
    _ = Text.trim (Text.folded (Text.trim segment)) := (Text.trim_folded _).symm
    _ = Text.trim (Text.folded link.name.toList) := by rw [h.folded_name]
    _ = Text.folded (Text.trim link.name.toList) := Text.trim_folded _

theorem Answers.dot_notMem {owner : TypeKey} {segment : List Char} {link : Link α}
    (h : Link.Answers owner segment link) (hsegment : '.' ∉ segment) :
    '.' ∉ link.name.toList := by
  have hcased : Text.isCased '.' = false := by decide
  intro hname
  have hfolded : '.' ∈ Text.folded link.name.toList :=
    (Text.mem_folded_iff hcased (by decide) _).mpr hname
  rw [h.folded_name, Text.mem_folded_iff hcased (by decide)] at hfolded
  exact hsegment (Text.mem_of_mem_trim hfolded)

theorem Answers.of_sameSegment {owner : TypeKey} {segment other : List Char} {link : Link α}
    (h : Link.Answers owner segment link) (hother : SameSegment segment other) :
    Link.Answers owner other link := by
  have hname : Text.sameName (String.ofList (Text.trim other)) (String.ofList (Text.trim segment))
      = true := by
    rw [Text.sameName_iff, String.toList_ofList, String.toList_ofList]
    exact ((sameSegment_iff segment other).mp hother).symm
  constructor
  · have hsegment := h.1
    rw [sameSegment_iff] at hother
    rw [Bool.eq_false_iff, Ne, String.isEmpty_iff, String.ofList_eq_empty_iff] at hsegment ⊢
    rwa [← Text.folded_eq_nil_iff, ← hother, Text.folded_eq_nil_iff]
  · rw [find_eq_ok_iff, find?_congr hname, ← find_eq_ok_iff]
    exact h.2

end Link

namespace Property

/-! ## spellings of a path -/

/-- the paths have the same segments, but for case and the white space around them -/
def Alike (path other : String) : Prop :=
  List.Forall₂ SameSegment (Text.pieces '.' path.toList) (Text.pieces '.' other.toList)

theorem Follows.of_sameSegments {link last : Link α} {segments others : List (List Char)}
    {through : List (Link α)} (h : Follows link segments through last)
    (hothers : List.Forall₂ SameSegment segments others) : Follows link others through last := by
  induction h generalizing others with
  | nil link =>
    cases hothers
    exact .nil link
  | cons htype hnext hrest ih =>
    cases hothers with
    | cons hsame hothers => exact .cons htype (hnext.of_sameSegment hsame) (ih hothers)

theorem bind_of_alike {owner : TypeKey} {path other : String} {p : Property α}
    (h : bind owner path = .ok p) (hother : Alike path other) : bind owner other = .ok p := by
  obtain ⟨howner, first, hfirst, hfollows⟩ := (bind_eq_ok_iff_follows ..).mp h
  unfold Alike Text.pieces at hother
  cases hother with
  | cons hsame hothers =>
    refine (bind_eq_ok_iff_follows ..).mpr ⟨howner, first, hfirst.of_sameSegment hsame, ?_⟩
    exact hfollows.of_sameSegments hothers

/-! ## the declared names along a path -/

theorem Follows.answered {link last : Link α} {segments : List (List Char)}
    {through : List (Link α)} (h : Follows link segments through last) :
    ∃ links, through ++ [last] = link :: links ∧
      List.Forall₂ (fun segment l => ∃ key, Link.Answers key segment l) segments links := by
  induction h with
  | nil link => exact ⟨[], rfl, .nil⟩
  | @cons link next last key segment rest through htype hnext hrest ih =>
    obtain ⟨links, hlinks, hanswered⟩ := ih
    refine ⟨next :: links, ?_, .cons ⟨key, hnext⟩ hanswered⟩
    rw [List.cons_append, hlinks]

theorem answered_of_bind {owner : TypeKey} {path : String} {p : Property α}
    (h : bind owner path = .ok p) :
    List.Forall₂ (fun segment l => ∃ key, Link.Answers key segment l)
      (Text.pieces '.' path.toList) p.chain := by
  obtain ⟨howner, first, hfirst, hfollows⟩ := (bind_eq_ok_iff_follows ..).mp h
  obtain ⟨links, hlinks, hanswered⟩ := hfollows.answered
  unfold chain
  rw [hlinks]
  exact .cons ⟨owner, hfirst⟩ hanswered

/-- the canonical path is cut at the dots between the declared names, as no declared name holds one -/
theorem pieces_path {owner : TypeKey} {path : String} {p : Property α}
    (h : bind owner path = .ok p) :
    Text.pieces '.' p.path.toList = p.chain.map fun l => l.name.toList := by
  have hdot : ∀ part ∈ p.chain.map (fun l => l.name.toList), '.' ∉ part := by
    intro part hpart
    obtain ⟨link, hlink, rfl⟩ := List.mem_map.mp hpart
    obtain ⟨segment, hsegment, key, hanswers⟩ := exists_of_forall₂_right (answered_of_bind h) hlink
    exact hanswers.dot_notMem (Text.separator_notMem_pieces '.' _ segment hsegment)
  have hne : p.chain.map (fun l => l.name.toList) ≠ [] := by simp [chain_ne_nil]
  have hpath : p.path.toList = List.intercalate ['.'] (p.chain.map fun l => l.name.toList) := by
    show (Text.join "." (p.chain.map Link.name)).toList = _
    unfold Text.join
    rw [String.toList_ofList, List.map_map]
    rfl
  rw [hpath, Text.pieces_intercalate hne hdot]

theorem alike_path {owner : TypeKey} {path : String} {p : Property α}
    (h : bind owner path = .ok p) : Alike path p.path := by
  unfold Alike
  rw [pieces_path h, List.forall₂_map_right_iff]
  exact (answered_of_bind h).imp fun segment link ⟨_, hanswers⟩ => hanswers.sameSegment

/-! ## what tells properties apart -/

theorem eq_iff_chain {p q : Property α} : p = q ↔ p.owner = q.owner ∧ p.chain = q.chain := by
  constructor
  · rintro rfl
    exact ⟨rfl, rfl⟩
  · obtain ⟨owner, through, last⟩ := p
    obtain ⟨owner', through', last'⟩ := q
    rintro ⟨howner, hchain⟩
    obtain ⟨hthrough, hlast⟩ := List.append_inj' hchain rfl
    cases howner
    cases hthrough
    cases hlast
    rfl

/-- no hash tells the properties apart -/
def HashesLike (p q : Property α) : Prop :=
  ∀ {σ : Type} (feedType : TypeKey → σ → σ) (feedLink : Link α → σ → σ) (state : σ),
    p.hashWith feedType feedLink state = q.hashWith feedType feedLink state

/-- a hash that keeps all that it is fed has fed the whole property -/
theorem hashWith_collect (p : Property α) (state : TypeKey × List (Link α)) :
    p.hashWith (fun key _ => (key, [])) (fun link fed => (fed.1, fed.2 ++ [link])) state =
      (p.owner, p.chain) := by
  have hfold : ∀ (links fed : List (Link α)),
      links.foldl (fun (fed : TypeKey × List (Link α)) link => (fed.1, fed.2 ++ [link]))
        (p.owner, fed) = (p.owner, fed ++ links) := by
    intro links
    induction links with
    | nil => simp
    | cons link links ih =>
      intro fed
      rw [List.foldl_cons, ih, List.append_assoc, List.singleton_append]
  exact hfold p.chain []

theorem hashesLike_iff {p q : Property α} : p.HashesLike q ↔ p = q := by
  constructor
  · intro h
    have hcollect := h (fun key _ => (key, [])) (fun link fed => (fed.1, fed.2 ++ [link]))
      (p.owner, [])
    rw [hashWith_collect, hashWith_collect, Prod.mk.injEq] at hcollect
    exact eq_iff_chain.mpr hcollect
  · rintro rfl
    intro σ feedType feedLink state
    rfl

/-! ## the canonical path -/

theorem bind_path_identifies {owner : TypeKey} {path : String} {p : Property α}
    (h : bind owner path = .ok p) :
    (∃ q : Property α, bind owner p.path = .ok q ∧ q = p ∧ q.HashesLike p) ∧
    (∀ other, Alike path other → bind owner other = .ok p) ∧
    ∀ (other : String) (q : Property α), bind owner other = .ok q →
      (q = p ↔ q.path = p.path) ∧ (q.HashesLike p ↔ q.path = p.path) := by
  have hcanonical : bind owner p.path = .ok p := bind_of_alike h (alike_path h)
  refine ⟨⟨p, hcanonical, rfl, hashesLike_iff.mpr rfl⟩, fun other => bind_of_alike h, ?_⟩
  intro other q hq
  have hiff : q = p ↔ q.path = p.path := by
    constructor
    · rintro rfl
      rfl
    · intro hpath
      have hback : bind owner q.path = .ok q := bind_of_alike hq (alike_path hq)
      rw [hpath, hcanonical] at hback
      exact (Except.ok.inj hback).symm
  exact ⟨hiff, hashesLike_iff.trans hiff⟩

/-- the other label of gadgets hides behind the first one under every spelling -/
theorem bind_path_identifies_hiddenLabel :
    ∃ p : Property World.Entity,
      bind (.named "Gadget") " parent .LABEL" = .ok p ∧ p.path = "Parent.Label" ∧
      bind (.named "Gadget") "Parent.Label" = .ok p ∧
      bind (.named "Gadget") "PARENT.\tlabel " = .ok p := by
  have hbind : bind (.named "Gadget") " parent .LABEL" =
      .ok (⟨.named "Gadget", [gadgetLink ⟨21, by decide⟩], gadgetLink ⟨13, by decide⟩⟩ :
        Property World.Entity) := by decide +kernel
  obtain ⟨⟨q, hcanonical, rfl, -⟩, halike, -⟩ := bind_path_identifies hbind
  have hpieces : Alike " parent .LABEL" "PARENT.\tlabel " := by
    unfold Alike
    exact .cons (by decide +kernel) (.cons (by decide +kernel) .nil)
  exact ⟨_, hbind, by decide +kernel, hcanonical, halike _ hpieces⟩

end Property
end ObjectFilter
