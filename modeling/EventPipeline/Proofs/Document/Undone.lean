import EventPipeline.Proofs.Document.Connection
import EventPipeline.Proofs.Document.RoundTrip
import EventPipeline.Proofs.Document.WellFormed

/-!
# Edits that are undone

An edit that adds something is undone by removing what has the id of it, since removals go by ids:
nothing else is removed as long as nothing else has that id, and what was there keeps its order. A
connection has a new id by itself (`removeConnection_newConnection`), an event that is new to all
nodes and connections does (`removeEvents_addEvent`). Nothing is asked of the ids that were there,
which may be repeated or stand for nothing.

Giving an event another name is undone by giving it the old one back (`rename?_undone`), since both
edits touch the first node of the id. None of these edits changes the configuration, which is what
decides whether a document can be written (`isWritable_congr`).
-/

namespace EventPipeline.Document

variable {d d' : Document}

/-! ## Additions -/

/-- A connection whose id is new is removed again by its id. -/
lemma removeConnection_addConnection {c : Connection} (h : c.id ∉ d.edgeIds) :
    (d.addConnection c).removeConnection c.id = d := by
  have hkept : d.edges.filter (fun e => e.id ≠ c.id) = d.edges := by
    apply List.filter_eq_self.2
    intro e he
    exact decide_eq_true (ne_of_mem_of_not_mem (List.mem_map_of_mem he) h)
  have hedges : (d.edges ++ [c]).filter (fun e => e.id ≠ c.id) = d.edges := by
    rw [List.filter_append, hkept]
    simp
  rw [removeConnection, addConnection, hedges]

/-- Connecting two ids and removing that connection by its id gives the document back. -/
lemma removeConnection_newConnection (d : Document) (source target : Text) :
    (d.addConnection (d.newConnection source target)).removeConnection
      (d.newConnection source target).id = d :=
  removeConnection_addConnection (connectionId_not_mem source target d.edgeIds)

/-- A connection that was added is found. -/
lemma isSome_connection?_addConnection (d : Document) (c : Connection) :
    ((d.addConnection c).connection? c.id).isSome = true := by
  rw [connection?, List.find?_isSome]
  exact ⟨c, List.mem_append_right d.edges (List.mem_singleton_self c), decide_eq_true rfl⟩

/-- An event whose id neither a node nor an end of a connection has is removed again by its id. -/
lemma removeEvents_addEvent {e : Event} (hnodes : e.id ∉ d.nodeIds)
    (hends : ∀ c ∈ d.edges, c.source ≠ e.id ∧ c.target ≠ e.id) (position : Position) :
    (d.addEvent e position).removeEvents [e.id] = d := by
  have hkept : d.nodes.filter (fun n => !([e.id].contains n.id)) = d.nodes := by
    apply List.filter_eq_self.2
    intro n hn
    have hne : n.id ≠ e.id := ne_of_mem_of_not_mem (List.mem_map_of_mem hn) hnodes
    simpa using hne
  have hadded : (d.nodes ++ [Node.ofEvent e position]).filter (fun n => !([e.id].contains n.id)) =
      d.nodes := by
    rw [List.filter_append, hkept]
    simp [Node.ofEvent]
  have hedges : d.edges.filter
      (fun c => !([e.id].contains c.source) && !([e.id].contains c.target)) = d.edges := by
    apply List.filter_eq_self.2
    intro c hc
    simpa using hends c hc
  simp only [removeEvents, addEvent, hadded, hedges]

/-! ## Names -/

/-- Changing the first item of a property twice, where the first change keeps the property, is one
change by both. -/
lemma updateFirst_updateFirst {α : Type} {p : α → Bool} {f : α → α} {l l' : List α}
    (h : updateFirst p f l = some l') (hf : ∀ a, p (f a) = p a) (g : α → α) :
    updateFirst p g l' = updateFirst p (g ∘ f) l := by
  induction l generalizing l' with
  | nil => contradiction
  | cons a rest ih =>
    rw [updateFirst] at h
    split at h
    · rename_i ha
      obtain rfl := Option.some.inj h
      rw [updateFirst, hf, if_pos ha, updateFirst, if_pos ha]
      rfl
    · rename_i ha
      obtain ⟨rest', hrest, rfl⟩ := Option.map_eq_some_iff.1 h
      rw [updateFirst, if_neg ha, ih hrest, updateFirst, if_neg ha]

/-- Behind such a change the first item of the property is the changed one. -/
lemma find?_updateFirst {α : Type} {p : α → Bool} {f : α → α} {l l' : List α}
    (h : updateFirst p f l = some l') (hf : ∀ a, p (f a) = p a) :
    l'.find? p = (l.find? p).map f := by
  induction l generalizing l' with
  | nil => contradiction
  | cons a rest ih =>
    rw [updateFirst] at h
    split at h
    · rename_i ha
      obtain rfl := Option.some.inj h
      rw [List.find?_cons_of_pos (by rw [hf, ha]), List.find?_cons_of_pos ha, Option.map_some]
    · rename_i ha
      obtain ⟨rest', hrest, rfl⟩ := Option.map_eq_some_iff.1 h
      rw [List.find?_cons_of_neg ha, List.find?_cons_of_neg ha, ih hrest]

/-- Of two names that are given to an event one after the other the second one counts. -/
lemma rename?_rename? {id : Text} {name : EventName} (h : d.rename? id name = some d')
    (other : EventName) : d'.rename? id other = d.rename? id other := by
  obtain ⟨nodes, hnodes, rfl⟩ := Option.map_eq_some_iff.1 h
  exact congrArg (Option.map _) (updateFirst_updateFirst hnodes (fun _ => rfl) _)

/-- The first node of an id is changed where it stands. -/
lemma updateNode?_of_node? {id : Text} {n : Node} (h : d.node? id = some n) (f : Node → Node) :
    ∃ front back, d.nodes = front ++ n :: back ∧ (∀ m ∈ front, m.id ≠ id) ∧
      d.updateNode? id f = some { d with nodes := front ++ f n :: back } := by
  obtain ⟨hid, front, back, hnodes, hfront⟩ := List.find?_eq_some_iff_append.1 h
  have hskip : ∀ m ∈ front, decide (m.id = id) = false := fun m hm => by simpa using hfront m hm
  refine ⟨front, back, hnodes, fun m hm => of_decide_eq_false (hskip m hm), ?_⟩
  rw [updateNode?, hnodes, updateFirst_append f front back hskip hid, Option.map_some]

/-- Giving the first event of an id the name that it has changes nothing. -/
lemma rename?_self {id : Text} {n : Node} (h : d.node? id = some n) :
    d.rename? id n.event.name = some d := by
  obtain ⟨front, back, hnodes, -, hupdate⟩ := updateNode?_of_node? h
    fun m => { m with event := { m.event with name := n.event.name } }
  rw [rename?, hupdate]
  show some { d with nodes := front ++ n :: back } = some d
  rw [← hnodes]

/-- The event of an id that was given another name is found under its id. -/
lemma node?_rename? {id : Text} {name : EventName} (h : d.rename? id name = some d') :
    d'.node? id = (d.node? id).map fun n => { n with event := { n.event with name := name } } := by
  obtain ⟨nodes, hnodes, rfl⟩ := Option.map_eq_some_iff.1 h
  exact find?_updateFirst hnodes fun _ => rfl

/-- Giving the first event of an id another name and then its old one gives the document back. -/
lemma rename?_undone {id : Text} {n : Node} (hn : d.node? id = some n) {name : EventName}
    (h : d.rename? id name = some d') : d'.rename? id n.event.name = some d :=
  (rename?_rename? h n.event.name).trans (rename?_self hn)

/-! ## Writing -/

/-- Whether a document can be written is seen from its configuration. -/
lemma isWritable_congr (h : d.config = d'.config) : d.isWritable = d'.isWritable := by
  rw [Bool.eq_iff_iff, isWritable_iff, isWritable_iff, h]

/-- A change of name leaves the configuration as it is. -/
lemma config_rename? {id : Text} {name : EventName} (h : d.rename? id name = some d') :
    d'.config = d.config := by
  obtain ⟨nodes, -, rfl⟩ := Option.map_eq_some_iff.1 h
  rfl

end EventPipeline.Document
