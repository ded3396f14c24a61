import ObjectFilter.Property
import ObjectFilter.Proofs.Outcome
import ObjectFilter.World.Types

/-!
# Paths

What a path of names is bound to, said apart from the binder: every segment names a property of the type
that the link before it refers to.  The links behind a dot do not depend on how the dot was reached,
so a path can be cut at any of its dots, and its links and its readings with it.

* `bind_eq_ok_iff_follows`   what a path is bound to;
* `follows_append_iff`       segments that are cut in two;
* `read_joined`              reading two properties one behind the other;
* `bind_dot`                 two paths with a dot between them.
-/

namespace ObjectFilter

variable {α : Type} [Schema α]

/-- the segment of a path names the link: it is not blank, and the link is what the type has under it -/
def Link.Answers (owner : TypeKey) (segment : List Char) (link : Link α) : Prop :=
  (String.ofList (Text.trim segment)).isEmpty = false ∧
    Link.find owner (String.ofList (Text.trim segment)) = .ok link

namespace Property

/-! ## segments and links -/

/-- the segments lead from a link, through links that refer to objects, to a last one -/
inductive Follows : Link α → List (List Char) → List (Link α) → Link α → Prop
  | nil (link : Link α) : Follows link [] [] link
  | cons {link next last : Link α} {key : TypeKey} {segment : List Char}
      {rest : List (List Char)} {through : List (Link α)} (htype : link.type = .object key)
      (hnext : Link.Answers key segment next) (hrest : Follows next rest through last) :
      Follows link (segment :: rest) (link :: through) last

theorem bindAfter_eq_ok_iff (path : String) (segments : List (List Char)) :
    ∀ (link : Link α) (through : List (Link α)) (last : Link α),
      bindAfter path link segments = .ok (through, last) ↔
        Follows link segments through last := by
  induction segments with
  | nil =>
    intro link through last
    constructor
    · intro h
      cases h
      exact .nil link
    · intro h
      cases h
      rfl
  | cons segment rest ih =>
    intro link through last
    constructor
    · intro h
      rw [bindAfter] at h
      dsimp only at h
      split at h
      · cases h
      · next hname =>
        split at h
        · next key htype =>
          obtain ⟨next, hfind, h⟩ := (bind_eq_ok_iff ..).mp h
          obtain ⟨⟨through', last'⟩, hrest, h⟩ := (bind_eq_ok_iff ..).mp h
          cases h
          have hanswers : Link.Answers key segment next := ⟨Bool.eq_false_iff.mpr hname, hfind⟩
          exact .cons htype hanswers ((ih next through' last').mp hrest)
        · cases h
    · intro h
      cases h with
      | @cons _ next _ key _ _ through' htype hnext hrest =>
        have hbound := (ih next through' _).mpr hrest
        rw [bindAfter]
        dsimp only
        rw [if_neg (Bool.eq_false_iff.mp hnext.1), htype]
        dsimp only
        rw [hnext.2]
        show (bindAfter path next rest >>= _) = _
        rw [hbound]
        rfl

/-- the first segment names a property of the owner, and the others lead on from it -/
theorem bind_eq_ok_iff_follows (owner : TypeKey) (path : String) (p : Property α) :
    bind owner path = .ok p ↔
      p.owner = owner ∧ ∃ first, Link.Answers owner (Text.cut '.' path.toList).1 first ∧
        Follows first (Text.cut '.' path.toList).2 p.through p.last := by
  constructor
  · intro h
    unfold bind at h
    dsimp only at h
    split at h
    · cases h
    · next hname =>
      obtain ⟨first, hfind, h⟩ := (bind_eq_ok_iff ..).mp h
      obtain ⟨⟨through, last⟩, hrest, h⟩ := (bind_eq_ok_iff ..).mp h
      cases h
      refine ⟨rfl, first, ⟨Bool.eq_false_iff.mpr hname, hfind⟩, ?_⟩
      exact (bindAfter_eq_ok_iff path _ first through last).mp hrest
  · rintro ⟨rfl, first, hfirst, hfollows⟩
    have hbound := (bindAfter_eq_ok_iff path _ first p.through p.last).mpr hfollows
    unfold bind
    dsimp only
    rw [if_neg (Bool.eq_false_iff.mp hfirst.1), hfirst.2]
    show (bindAfter path first _ >>= _) = _
    rw [hbound]
    rfl

/-- segments lead on behind a cut as they do in a path of their own -/
theorem follows_append_iff (segments : List (List Char)) (segment : List Char)
    (rest : List (List Char)) :
    ∀ (link : Link α) (through : List (Link α)) (last : Link α),
      Follows link (segments ++ segment :: rest) through last ↔
        ∃ (front : List (Link α)) (middle : Link α) (key : TypeKey) (next : Link α)
          (back : List (Link α)),
          Follows link segments front middle ∧ middle.type = .object key ∧
            Link.Answers key segment next ∧ Follows next rest back last ∧
              through = front ++ middle :: back := by
  induction segments with
  | nil =>
    intro link through last
    constructor
    · intro h
      cases h with
      | cons htype hnext hrest => exact ⟨[], link, _, _, _, .nil link, htype, hnext, hrest, rfl⟩
    · rintro ⟨front, middle, key, next, back, hfront, htype, hnext, hrest, rfl⟩
      cases hfront
      exact .cons htype hnext hrest
  | cons first segments ih =>
    intro link through last
    constructor
    · intro h
      cases h with
      | @cons _ second _ _ _ _ through' htype hsecond hrest =>
        obtain ⟨front, middle, key, next, back, hfront, hobject, hnext, hback, rfl⟩ :=
          (ih second through' last).mp hrest
        exact ⟨link :: front, middle, key, next, back, .cons htype hsecond hfront, hobject,
          hnext, hback, rfl⟩
    · rintro ⟨front, middle, key, next, back, hfront, hobject, hnext, hback, rfl⟩
      cases hfront with
      | @cons _ second _ _ _ _ front' htype hsecond hrest =>
        exact .cons htype hsecond ((ih second (front' ++ middle :: back) last).mpr
          ⟨front', middle, key, next, back, hrest, hobject, hnext, hback, rfl⟩)

/-! ## one property behind another -/

/-- the links of the one property and then those of the other -/
def joined (front back : Property α) : Property α :=
  ⟨front.owner, front.through ++ front.last :: back.through, back.last⟩

theorem chain_joined (front back : Property α) :
    (front.joined back).chain = front.chain ++ back.chain := by
  show (front.through ++ front.last :: back.through) ++ [back.last] = _
  unfold chain
  rw [List.append_assoc, List.append_assoc]
  rfl

theorem readThrough_append_cons (middle last : Link α) (back front : List (Link α)) :
    ∀ a, readThrough last (front ++ middle :: back) a =
      match readThrough middle front a with
      | .object next => readThrough last back next
      | _ => .null := by
  induction front with
  | nil =>
    intro a
    rfl
  | cons link front ih =>
    intro a
    show (match link.read a with
      | .object next => readThrough last (front ++ middle :: back) next
      | _ => .null) = _
    rw [readThrough]
    cases link.read a with
    | object next => exact ih next
    | _ => rfl

theorem read_joined (front back : Property α) (a : α) :
    (front.joined back).read a =
      match front.read a with
      | .object next => back.read next
      | _ => .null :=
  readThrough_append_cons front.last back.last back.through front.through a

theorem bind_dot_eq_ok_iff (owner : TypeKey) (p q : String) (r : Property α) :
    bind owner (p ++ "." ++ q) = .ok r ↔
      ∃ (front : Property α) (key : TypeKey) (back : Property α),
        bind owner p = .ok front ∧ front.type = .object key ∧ bind key q = .ok back ∧
          r = front.joined back := by
  have hcut : Text.cut '.' (p ++ "." ++ q).toList =
      ((Text.cut '.' p.toList).1, (Text.cut '.' p.toList).2 ++ Text.pieces '.' q.toList) := by
    rw [String.toList_append, String.toList_append, List.append_assoc]
    exact Text.cut_append '.' p.toList q.toList
  rw [bind_eq_ok_iff_follows, hcut]
  dsimp only [Text.pieces]
  constructor
  · rintro ⟨rfl, first, hfirst, hfollows⟩
    obtain ⟨front, middle, key, next, back, hfront, htype, hnext, hback, hthrough⟩ :=
      (follows_append_iff ..).mp hfollows
    refine ⟨⟨r.owner, front, middle⟩, key, ⟨key, back, r.last⟩, ?_, htype, ?_, ?_⟩
    · exact (bind_eq_ok_iff_follows ..).mpr ⟨rfl, first, hfirst, hfront⟩
    · exact (bind_eq_ok_iff_follows ..).mpr ⟨rfl, next, hnext, hback⟩
    · unfold joined
      rw [← hthrough]
  · rintro ⟨front, key, back, hfront, htype, hback, rfl⟩
    obtain ⟨howner, first, hfirst, hfollows⟩ := (bind_eq_ok_iff_follows ..).mp hfront
    obtain ⟨-, next, hnext, hrest⟩ := (bind_eq_ok_iff_follows ..).mp hback
    refine ⟨howner, first, hfirst, (follows_append_iff ..).mpr ?_⟩
    exact ⟨front.through, front.last, key, next, back.through, hfollows, htype, hnext, hrest, rfl⟩

theorem bind_dot (owner : TypeKey) (p q : String) :
    ((∃ r : Property α, bind owner (p ++ "." ++ q) = .ok r) ↔
      ∃ (front : Property α) (key : TypeKey) (back : Property α),
        bind owner p = .ok front ∧ front.type = .object key ∧ bind key q = .ok back) ∧
    ∀ (r front : Property α) (key : TypeKey) (back : Property α),
      bind owner (p ++ "." ++ q) = .ok r → bind owner p = .ok front →
      front.type = .object key → bind key q = .ok back →
        r.owner = owner ∧ r.chain = front.chain ++ back.chain ∧ r.type = back.type ∧
          ∀ a, r.read a =
            match front.read a with
            | .object next => back.read next
            | _ => .null := by
  constructor
  · constructor
    · rintro ⟨r, hr⟩
      obtain ⟨front, key, back, hfront, htype, hback, -⟩ := (bind_dot_eq_ok_iff ..).mp hr
      exact ⟨front, key, back, hfront, htype, hback⟩
    · rintro ⟨front, key, back, hfront, htype, hback⟩
      exact ⟨_, (bind_dot_eq_ok_iff ..).mpr ⟨front, key, back, hfront, htype, hback, rfl⟩⟩
  · intro r front key back hr hfront htype hback
    have hjoined : bind owner (p ++ "." ++ q) = .ok (front.joined back) :=
      (bind_dot_eq_ok_iff ..).mpr ⟨front, key, back, hfront, htype, hback, rfl⟩
    obtain rfl : r = front.joined back := Except.ok.inj (hr.symm.trans hjoined)
    obtain ⟨howner, -⟩ := (bind_eq_ok_iff_follows ..).mp hfront
    exact ⟨howner, chain_joined front back, rfl, read_joined front back⟩

/-- a link of gadgets -/
def gadgetLink (i : Fin World.gadgetProperties.length) : Link World.Entity :=
  ⟨.named "Gadget", i⟩

/-- gadgets refer to gadgets: the name of the grandparent's maker, and null where there is no
grandparent -/
theorem bind_dot_grandparent :
    ∃ r : Property World.Entity,
      bind (.named "Gadget") ("parent . PARENT" ++ "." ++ "Maker.name") = .ok r ∧
      r.chain = [gadgetLink ⟨21, by decide⟩, gadgetLink ⟨21, by decide⟩,
        gadgetLink ⟨22, by decide⟩, ⟨.named "Character", ⟨0, by decide⟩⟩] ∧
      r.read (.gadget (.mk {} (some (.mk {} (some (.mk {} none (some { name := "Ada" }))) none))
        none)) = .text "Ada" ∧
      r.read (.gadget (.mk {} (some (.mk {} none none)) none)) = .null := by
  have hfront : bind (.named "Gadget") "parent . PARENT" =
      .ok (⟨.named "Gadget", [gadgetLink ⟨21, by decide⟩], gadgetLink ⟨21, by decide⟩⟩ :
        Property World.Entity) := by decide +kernel
  have hback : bind (.named "Gadget") "Maker.name" =
      .ok (⟨.named "Gadget", [gadgetLink ⟨22, by decide⟩],
        ⟨.named "Character", ⟨0, by decide⟩⟩⟩ : Property World.Entity) := by decide +kernel
  have hdot := bind_dot (α := World.Entity) (.named "Gadget") "parent . PARENT" "Maker.name"
  obtain ⟨r, hr⟩ := hdot.1.mpr ⟨_, _, _, hfront, rfl, hback⟩
  obtain ⟨-, hchain, -, hread⟩ := hdot.2 r _ _ _ hr hfront rfl hback
  exact ⟨r, hr, hchain, hread _, hread _⟩

end Property
end ObjectFilter
