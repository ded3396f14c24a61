import ObjectFilter.Property

/-!
# Where a property leads

Reading a property follows its links from object to object.  `Leads` says which object is reached, and the
two laws of reading say what comes out at the end:

* `read_of_leads`      the value that the last link reads from the object reached;
* `read_of_nullLink`   null, if a link on the way reads null.
-/

namespace ObjectFilter

variable {α : Type} [Schema α]

/-- following the links, each of which refers to an object, leads from one object to another -/
inductive Leads : List (Link α) → α → α → Prop
  | nil (a : α) : Leads [] a a
  | cons {link : Link α} {rest : List (Link α)} {a b c : α}
      (h : link.read a = .object b) (hrest : Leads rest b c) : Leads (link :: rest) a c

namespace Property

/-- a link on the way reads null -/
def HasNullLink (p : Property α) (a : α) : Prop :=
  ∃ before link after b, p.through = before ++ link :: after ∧ Leads before a b ∧
    link.read b = .null

/-- the links that lead to an object drop out of the reading -/
theorem readThrough_append {last : Link α} {links : List (Link α)} {a b : α}
    (h : Leads links a b) (rest : List (Link α)) :
    readThrough last (links ++ rest) a = readThrough last rest b := by
  induction h with
  | nil a => rfl
  | cons h hrest ih =>
    rw [List.cons_append, readThrough, h]
    exact ih

theorem read_of_leads {p : Property α} {a b : α} (h : Leads p.through a b) :
    p.read a = p.last.read b := by
  have hread : readThrough p.last (p.through ++ []) a = readThrough p.last [] b :=
    readThrough_append h []
  rw [List.append_nil] at hread
  exact hread

theorem read_of_nullLink {p : Property α} {a : α} (h : p.HasNullLink a) : p.read a = .null := by
  obtain ⟨before, link, after, b, hthrough, hleads, hnull⟩ := h
  rw [read, hthrough, readThrough_append hleads, readThrough, hnull]

end Property
end ObjectFilter
