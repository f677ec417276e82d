import Mathlib.Data.List.FinRange
import Mathlib.Logic.Function.Basic
import EventPipeline.Proofs.Document.Independent

/-!
# Documents that are made of objects

Editors do not hold documents as values. A document refers to node objects, each of which refers to
an event object, and an edit assigns to the object that it finds: a new name or new code to the
event of the first node of an id, a new position to the node. References may lead to one object. An
edit then changes every node that refers to it.

As long as no two nodes refer to one event, an edit of objects shows as the edit of the first node
(`shown_edit`), and such documents remain such. Every document is shown by one whose nodes have
objects of their own (`shown_ofDocument`).
-/

namespace EventPipeline

/-- A node as an object. -/
structure NodeObject (E : Type) where
  /-- The id of the node. -/
  id : Text
  /-- The kind of the node. -/
  kind : Text
  /-- Where the node stands, unless it is off the canvas. -/
  position : Option Position
  /-- The object of its event. -/
  event : E

/-- A document as objects: references to nodes, and what there is behind the references to nodes and
to events. -/
structure DocumentObjects (N E : Type) where
  /-- The configuration, if there is one. -/
  config : Option Config
  /-- The nodes in order. -/
  nodes : List N
  /-- What each node object holds. -/
  node : N → NodeObject E
  /-- What each event object holds. -/
  event : E → Event
  /-- The connections in order. -/
  edges : List Connection

namespace DocumentObjects

variable {N E : Type}

/-! ## What objects show -/

/-- What a node object shows. -/
def value (o : DocumentObjects N E) (n : N) : Node where
  id := (o.node n).id
  kind := (o.node n).kind
  position := (o.node n).position
  event := o.event (o.node n).event

/-- A node shows the id of its object. -/
@[simp] lemma id_value (o : DocumentObjects N E) (n : N) : (o.value n).id = (o.node n).id :=
  rfl

/-- The document that objects show. -/
def shown (o : DocumentObjects N E) : Document where
  config := o.config
  nodes := o.nodes.map o.value
  edges := o.edges

/-- The first node object of an id. -/
def node? (o : DocumentObjects N E) (id : Text) : Option N :=
  o.nodes.find? fun n => (o.node n).id = id

/-- The nodes have event objects of their own: they do not share one, and no node object stands
twice. -/
def Unshared (o : DocumentObjects N E) : Prop :=
  (o.nodes.map fun n => (o.node n).event).Nodup

/-- The node that a document shows for an id is that of its first node object. -/
lemma node?_shown (o : DocumentObjects N E) (id : Text) :
    o.shown.node? id = (o.node? id).map o.value := by
  rw [Document.node?, shown, List.find?_map]
  rfl

/-- Objects that show a document, one of each kind for every node. -/
def ofDocument (d : Document) : DocumentObjects (Fin d.nodes.length) (Fin d.nodes.length) where
  config := d.config
  nodes := List.finRange d.nodes.length
  node i := ⟨d.nodes[i].id, d.nodes[i].kind, d.nodes[i].position, i⟩
  event i := d.nodes[i].event
  edges := d.edges

/-- The objects of a document show it. -/
theorem shown_ofDocument (d : Document) : (ofDocument d).shown = d := by
  have hnodes : (List.finRange d.nodes.length).map (ofDocument d).value = d.nodes :=
    d.nodes.map_getElem_finRange
  exact congrArg (fun nodes => { d with nodes := nodes }) hnodes

/-- The objects of a document are not shared. -/
theorem unshared_ofDocument (d : Document) : (ofDocument d).Unshared := by
  have hevents : ((List.finRange d.nodes.length).map fun i => i).Nodup := by
    rw [List.map_id']
    exact List.nodup_finRange d.nodes.length
  exact hevents

/-! ## What is removed and connected -/

/-- The objects without some nodes and the connections that touch them. -/
def remove (o : DocumentObjects N E) (ids : List Text) : DocumentObjects N E :=
  { o with
    nodes := o.nodes.filter fun n => !ids.contains (o.node n).id
    edges := o.edges.filter fun c => !ids.contains c.source && !ids.contains c.target }

/-- The objects with other connections. -/
def withEdges (o : DocumentObjects N E) (edges : List Connection) : DocumentObjects N E :=
  { o with edges := edges }

/-- Removing nodes shows as removing their events. -/
lemma shown_remove (o : DocumentObjects N E) (ids : List Text) :
    (o.remove ids).shown = o.shown.removeEvents ids := by
  rw [shown, Document.removeEvents, shown, List.filter_map]
  rfl

/-- The nodes that are left have events of their own. -/
lemma Unshared.remove {o : DocumentObjects N E} (h : o.Unshared) (ids : List Text) :
    (o.remove ids).Unshared :=
  h.sublist (List.filter_sublist.map _)

/-! ## Edits of objects -/

variable [DecidableEq N] [DecidableEq E]

/-- The objects with a node edited, by assigning to it or to its event. -/
def assign (o : DocumentObjects N E) (n : N) : NodeEdit → DocumentObjects N E
  | .rename name =>
    let event := o.event (o.node n).event
    { o with event := Function.update o.event (o.node n).event { event with name := name } }
  | .recode code =>
    let event := o.event (o.node n).event
    { o with event := Function.update o.event (o.node n).event { event with code := code } }
  | .move position =>
    { o with node := Function.update o.node n { o.node n with position := position } }

variable {o : DocumentObjects N E} {n : N} {id : Text}

/-- An edit leaves the references to nodes as they are. -/
@[simp] lemma nodes_assign (o : DocumentObjects N E) (n : N) (e : NodeEdit) :
    (o.assign n e).nodes = o.nodes := by
  cases e <;> rfl

/-- An edit leaves the references to events as they are. -/
@[simp] lemma event_node_assign (o : DocumentObjects N E) (n : N) (e : NodeEdit) (m : N) :
    ((o.assign n e).node m).event = (o.node m).event := by
  cases e with
  | rename name => rfl
  | recode code => rfl
  | move position =>
    by_cases hm : m = n
    · subst hm
      simp [assign]
    · simp [assign, Function.update_of_ne hm]

/-- A node that is edited shows the edit. -/
lemma value_assign_self (o : DocumentObjects N E) (n : N) (e : NodeEdit) :
    (o.assign n e).value n = e.apply (o.value n) := by
  cases e <;> simp [assign, value, NodeEdit.apply]

/-- A node that refers to another event shows what it showed. -/
lemma value_assign_of_ne {m : N} (h : (o.node m).event ≠ (o.node n).event) (e : NodeEdit) :
    (o.assign n e).value m = o.value m := by
  have hm : m ≠ n := fun hm => h (by rw [hm])
  cases e with
  | rename name => simp [assign, value, Function.update_of_ne h]
  | recode code => simp [assign, value, Function.update_of_ne h]
  | move position => simp [assign, value, Function.update_of_ne hm]

/-- Edits leave nodes with events of their own such. -/
lemma Unshared.assign (h : o.Unshared) (n : N) (e : NodeEdit) : (o.assign n e).Unshared := by
  simpa only [Unshared, nodes_assign, event_node_assign] using h

/-- An edit of a node whose event no other node refers to shows in the place of the node, and nowhere
else. -/
theorem Unshared.shown_assign (h : o.Unshared) (hn : o.node? id = some n) (e : NodeEdit) :
    (o.assign n e).shown = o.shown.editNode id e := by
  obtain ⟨hid, front, back, hnodes, hfront⟩ := List.find?_eq_some_iff_append.1 hn
  have hapart : (o.node n).event ∉ (front ++ back).map fun m => (o.node m).event := by
    rw [Unshared, hnodes, List.map_append, List.map_cons, List.nodup_middle, List.nodup_cons,
      ← List.map_append] at h
    exact h.1
  have hothers : ∀ m ∈ front ++ back, (o.assign n e).value m = o.value m := by
    intro m hm
    have hm' := List.mem_map_of_mem (f := fun m => (o.node m).event) hm
    exact value_assign_of_ne (ne_of_mem_of_not_mem hm' hapart) e
  have hassigned : o.nodes.map (o.assign n e).value =
      front.map o.value ++ e.apply (o.value n) :: back.map o.value := by
    rw [hnodes, List.map_append, List.map_cons, value_assign_self,
      List.map_congr_left fun m hm => hothers m (List.mem_append_left back hm),
      List.map_congr_left fun m hm => hothers m (List.mem_append_right front hm)]
  have hskipped : ∀ m ∈ front.map o.value, decide (m.id = id) = false := by
    intro m hm
    obtain ⟨r, hr, rfl⟩ := List.mem_map.1 hm
    have hid' : (o.node r).id ≠ id := by simpa using hfront r hr
    exact decide_eq_false hid'
  have hedited : modifyFirst (fun m => m.id = id) e.apply (o.nodes.map o.value) =
      front.map o.value ++ e.apply (o.value n) :: back.map o.value := by
    rw [hnodes, List.map_append, List.map_cons]
    exact modifyFirst_append hskipped hid
  rw [Document.editNode, shown, nodes_assign, hassigned, shown, hedited]
  cases e <;> rfl

end DocumentObjects

end EventPipeline
