import EventPipeline.Proofs.Document.Undone

/-!
# Edits that are independent

Giving an event another name, other code or another position changes one thing about the first node
of an id. Such an edit leaves the ids of the nodes as they are, so it makes no difference to where
another edit finds its node: two edits of different ids can change places, and two edits of one id
that change different things can (`modifyNode_comm`). Neither does it make a difference to
connections, which go by ids, nor to a removal that leaves its node alone
(`removeEvents_modifyNode`). Ids may be repeated.

All of it comes from what is known of lists in which the first item of a property is changed.
-/

namespace EventPipeline

/-! ## The first item of a property -/

section First

variable {α : Type} {p q : α → Bool} {f g : α → α}

/-- The list with the first item of a property changed, or as it is if there is none. -/
def modifyFirst (p : α → Bool) (f : α → α) (l : List α) : List α :=
  (updateFirst p f l).getD l

/-- The first item is changed if it has the property, and the others are gone through otherwise. -/
lemma modifyFirst_cons (p : α → Bool) (f : α → α) (a : α) (rest : List α) :
    modifyFirst p f (a :: rest) = if p a then f a :: rest else a :: modifyFirst p f rest := by
  rw [modifyFirst, modifyFirst, updateFirst]
  split
  · rfl
  · cases updateFirst p f rest <;> rfl

/-- The first item of the property is changed where it stands. -/
lemma modifyFirst_append {front back : List α} {a : α} (hfront : ∀ b ∈ front, p b = false)
    (ha : p a = true) : modifyFirst p f (front ++ a :: back) = front ++ f a :: back := by
  rw [modifyFirst, updateFirst_append f front back hfront ha, Option.getD_some]

/-- Two changes can change places if neither makes a difference to where the other one finds its
item, and if they can on an item that both find. -/
lemma modifyFirst_comm (hf : ∀ a, q (f a) = q a) (hg : ∀ a, p (g a) = p a)
    (hfg : ∀ a, p a = true → q a = true → f (g a) = g (f a)) (l : List α) :
    modifyFirst p f (modifyFirst q g l) = modifyFirst q g (modifyFirst p f l) := by
  induction l with
  | nil => rfl
  | cons a rest ih =>
    rw [modifyFirst_cons q g a, modifyFirst_cons p f a]
    by_cases hp : p a = true <;> by_cases hq : q a = true
    · rw [if_pos hp, if_pos hq, modifyFirst_cons, modifyFirst_cons, hf, hg, if_pos hp, if_pos hq,
        hfg a hp hq]
    · rw [if_pos hp, if_neg hq, modifyFirst_cons, modifyFirst_cons, hf, if_pos hp, if_neg hq]
    · rw [if_neg hp, if_pos hq, modifyFirst_cons, modifyFirst_cons, hg, if_neg hp, if_pos hq]
    · rw [if_neg hp, if_neg hq, modifyFirst_cons, modifyFirst_cons, if_neg hp, if_neg hq, ih]

/-- A change of an item that is kept, and is kept when it is changed, makes no difference to which
items are kept. -/
lemma filter_modifyFirst (hf : ∀ a, q (f a) = q a) (hpq : ∀ a, p a = true → q a = true)
    (l : List α) : (modifyFirst p f l).filter q = modifyFirst p f (l.filter q) := by
  induction l with
  | nil => rfl
  | cons a rest ih =>
    rw [modifyFirst_cons]
    by_cases hp : p a = true
    · have hq := hpq a hp
      rw [if_pos hp, List.filter_cons_of_pos ((hf a).trans hq), List.filter_cons_of_pos hq,
        modifyFirst_cons, if_pos hp]
    · rw [if_neg hp]
      by_cases hq : q a = true
      · rw [List.filter_cons_of_pos hq, List.filter_cons_of_pos hq, modifyFirst_cons, if_neg hp, ih]
      · rw [List.filter_cons_of_neg hq, List.filter_cons_of_neg hq, ih]

end First

/-! ## Edits of a node -/

/-- An edit of a node. -/
inductive NodeEdit
  /-- The event gets another name. -/
  | rename (name : EventName)
  /-- The event gets other code. -/
  | recode (code : Text)
  /-- The node is put elsewhere, or nowhere. -/
  | move (position : Option Position)

namespace NodeEdit

/-- What an edit changes. -/
inductive Aspect
  /-- The name of the event. -/
  | name
  /-- The code of the event. -/
  | code
  /-- The position of the node. -/
  | position

/-- What an edit changes. -/
def aspect : NodeEdit → Aspect
  | rename _ => .name
  | recode _ => .code
  | move _ => .position

/-- The edited node. -/
def apply : NodeEdit → Node → Node
  | rename name, n => { n with event := { n.event with name := name } }
  | recode code, n => { n with event := { n.event with code := code } }
  | move position, n => { n with position := position }

/-- An edited node has the same id. -/
@[simp] lemma id_apply (e : NodeEdit) (n : Node) : (e.apply n).id = n.id := by
  cases e <;> rfl

/-- Edits that change different things can change places. -/
lemma apply_comm {e e' : NodeEdit} (h : e.aspect ≠ e'.aspect) (n : Node) :
    e.apply (e'.apply n) = e'.apply (e.apply n) := by
  cases e <;> cases e' <;> first | rfl | exact absurd rfl h

end NodeEdit

namespace Document

variable {d : Document} {id id' : Text}

/-- The document with the first node of an id edited, or as it is if there is none. -/
def editNode (d : Document) (id : Text) (e : NodeEdit) : Document :=
  { d with nodes := modifyFirst (fun n => n.id = id) e.apply d.nodes }

/-- Editing a node leaves the ids of the nodes as they are. -/
@[simp] lemma nodeIds_editNode (d : Document) (id : Text) (e : NodeEdit) :
    (d.editNode id e).nodeIds = d.nodeIds := by
  rw [nodeIds, nodeIds, editNode, modifyFirst]
  cases hnodes : updateFirst (fun n : Node => n.id = id) e.apply d.nodes with
  | none => rfl
  | some nodes => exact map_updateFirst e.id_apply hnodes

/-- A node that there is is edited where it stands, and the document changes in nothing else. -/
lemma editNode_eq {n : Node} (h : d.node? id = some n) (e : NodeEdit) :
    ∃ front back, d.nodes = front ++ n :: back ∧ (∀ m ∈ front, m.id ≠ id) ∧
      d.updateNode? id e.apply = some (d.editNode id e) ∧
      d.editNode id e = { d with nodes := front ++ e.apply n :: back } := by
  obtain ⟨front, back, hnodes, hfront, hupdate⟩ := updateNode?_of_node? h e.apply
  have hedited : d.editNode id e = (d.updateNode? id e.apply).getD d := by
    rw [editNode, modifyFirst, updateNode?]
    cases updateFirst (fun n : Node => n.id = id) e.apply d.nodes <;> rfl
  rw [hupdate, Option.getD_some] at hedited
  exact ⟨front, back, hnodes, hfront, hupdate.trans (congrArg some hedited.symm), hedited⟩

/-- Edits of nodes can change places if the nodes have different ids or the edits change different
things. -/
lemma editNode_comm {e e' : NodeEdit} (h : id ≠ id' ∨ e.aspect ≠ e'.aspect) (d : Document) :
    (d.editNode id' e').editNode id e = (d.editNode id e).editNode id' e' := by
  have hnodes := modifyFirst_comm (p := fun n : Node => n.id = id) (q := fun n : Node => n.id = id')
    (f := e.apply) (g := e'.apply) (by simp) (by simp) (fun n hp hq => ?_) d.nodes
  · exact congrArg (fun nodes => { d with nodes := nodes }) hnodes
  · rcases h with hid | haspect
    · exact absurd ((of_decide_eq_true hp).symm.trans (of_decide_eq_true hq)) hid
    · exact NodeEdit.apply_comm haspect n

/-- A node that is not removed is edited alike before and after others are. -/
lemma removeEvents_editNode {ids : List Text} (h : id ∉ ids) (d : Document) (e : NodeEdit) :
    (d.editNode id e).removeEvents ids = (d.removeEvents ids).editNode id e := by
  have hnodes : (modifyFirst (fun n => n.id = id) e.apply d.nodes).filter
      (fun n => !ids.contains n.id) =
      modifyFirst (fun n => n.id = id) e.apply (d.nodes.filter fun n => !ids.contains n.id) := by
    refine filter_modifyFirst (fun n => by rw [e.id_apply]) (fun n hn => ?_) d.nodes
    rw [of_decide_eq_true hn]
    simpa using h
  rw [removeEvents, editNode, hnodes]
  rfl

/-- Whether a node is there is not changed by removing others. -/
lemma mem_nodeIds_removeEvents {ids : List Text} (h : id ∉ ids) (d : Document) :
    id ∈ (d.removeEvents ids).nodeIds ↔ id ∈ d.nodeIds := by
  rw [nodeIds_removeEvents, List.mem_filter, and_iff_left]
  simpa using h

/-- Removing some events and then others is removing all of them. -/
lemma removeEvents_removeEvents {ids ids' both : List Text}
    (h : ∀ id, id ∈ both ↔ id ∈ ids ∨ id ∈ ids') (d : Document) :
    (d.removeEvents ids).removeEvents ids' = d.removeEvents both := by
  have hkept : ∀ id, both.contains id = (ids.contains id || ids'.contains id) := by
    intro id
    rw [Bool.eq_iff_iff, Bool.or_eq_true, List.contains_iff_mem, List.contains_iff_mem,
      List.contains_iff_mem]
    exact h id
  simp only [removeEvents, List.filter_filter, hkept, Bool.not_or]
  congr 2
  · funext n
    exact Bool.and_comm _ _
  · funext c
    cases ids.contains c.source <;> cases ids.contains c.target <;> simp

end Document

end EventPipeline
