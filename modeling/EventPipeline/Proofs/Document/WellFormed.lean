import EventPipeline.Document.Edit
import EventPipeline.Dot
import EventPipeline.Proofs.Pointy.Reading
import EventPipeline.Proofs.Pointy.RoundTrip
import Mathlib.Data.List.Nodup

/-!
# Well-formed documents

In a well-formed document no two nodes have the same id, every node has the id of its event, and
both ends of every connection are nodes. Of such a document nothing is left out when it is drawn or
written as pointy text (`IsWellFormed.edges_dot`, `IsWellFormed.links_eq_map`).

Editing keeps documents well-formed, if a new event brings an id of its own. A document that was
read is well-formed unless the text connects events that it does not declare
(`isWellFormed_of_read`).
-/

namespace EventPipeline

/-- Changing an item in a way that some view of it does not show leaves the view of the list as it
was. -/
lemma map_updateFirst {α β : Type} {p : α → Bool} {f : α → α} {g : α → β} (hg : ∀ a, g (f a) = g a)
    {l l' : List α} (h : updateFirst p f l = some l') : l'.map g = l.map g := by
  induction l generalizing l' with
  | nil => contradiction
  | cons a rest ih =>
    rw [updateFirst] at h
    split at h
    · rw [← Option.some.inj h, List.map_cons, List.map_cons, hg]
    · obtain ⟨rest', hrest, rfl⟩ := Option.map_eq_some_iff.1 h
      rw [List.map_cons, List.map_cons, ih hrest]

namespace Document

/-- The ids of the nodes in order. -/
def nodeIds (d : Document) : List Text :=
  d.nodes.map Node.id

/-- A document in which ids tell nodes apart, nodes have the ids of their events, and connections
are between nodes. -/
structure IsWellFormed (d : Document) : Prop where
  /-- No two nodes have the same id. -/
  nodup : d.nodeIds.Nodup
  /-- Every node has the id of its event. -/
  own : ∀ n ∈ d.nodes, n.id = n.event.id
  /-- The ends of every connection are nodes. -/
  ends : ∀ c ∈ d.edges, c.source ∈ d.nodeIds ∧ c.target ∈ d.nodeIds

variable {d d' : Document}

/-- There is a node of an id just if the id is among those of the nodes. -/
lemma isSome_node?_iff (d : Document) (id : Text) :
    (d.node? id).isSome = true ↔ id ∈ d.nodeIds := by
  rw [node?, List.find?_isSome, nodeIds, List.mem_map]
  simp only [decide_eq_true_eq]

/-- The id of a node that was found is among those of the nodes. -/
lemma mem_nodeIds_of_node? {id : Text} {n : Node} (h : d.node? id = some n) : id ∈ d.nodeIds :=
  (d.isSome_node?_iff id).1 (Option.isSome_of_mem h)

/-! ## Edits -/

/-- A document without events is well-formed. -/
lemma isWellFormed_empty (config : Config) : (Document.empty config).IsWellFormed :=
  ⟨List.nodup_nil, fun _ hn => absurd hn List.not_mem_nil, fun _ hc => absurd hc List.not_mem_nil⟩

/-- Another configuration leaves a document well-formed. -/
lemma IsWellFormed.withConfig (h : d.IsWellFormed) (config : Option Config) :
    (d.withConfig config).IsWellFormed :=
  ⟨h.nodup, h.own, h.ends⟩

/-- Changing a node but for its id and that of its event leaves a document well-formed, and the ids
of its nodes as they were. -/
lemma IsWellFormed.updateNode? (h : d.IsWellFormed) {id : Text} {f : Node → Node}
    (hf : ∀ n, (f n).id = n.id ∧ (f n).event.id = n.event.id) (hd : d.updateNode? id f = some d') :
    d'.IsWellFormed ∧ d'.nodeIds = d.nodeIds := by
  obtain ⟨nodes, hnodes, rfl⟩ := Option.map_eq_some_iff.1 hd
  have hids : nodeIds { d with nodes := nodes } = d.nodeIds :=
    map_updateFirst (fun n => (hf n).1) hnodes
  have hpairs : (nodes.map fun n => (n.id, n.event.id)) = d.nodes.map fun n => (n.id, n.event.id) :=
    map_updateFirst (fun n => Prod.ext (hf n).1 (hf n).2) hnodes
  refine ⟨⟨hids ▸ h.nodup, fun n hn => ?_, by rw [hids]; exact h.ends⟩, hids⟩
  have hmem : (n.id, n.event.id) ∈ d.nodes.map fun n => (n.id, n.event.id) :=
    hpairs ▸ List.mem_map_of_mem hn
  obtain ⟨m, hm, heq⟩ := List.mem_map.1 hmem
  obtain ⟨hid, hevent⟩ := Prod.mk.inj heq
  rw [← hid, ← hevent]
  exact h.own m hm

/-- Another name for an event leaves a document well-formed. -/
lemma IsWellFormed.rename? (h : d.IsWellFormed) {id : Text} {name : EventName}
    (hd : d.rename? id name = some d') : d'.IsWellFormed ∧ d'.nodeIds = d.nodeIds :=
  h.updateNode? (f := fun n => { n with event := { n.event with name := name } })
    (fun _ => ⟨rfl, rfl⟩) hd

/-- Other code for an event leaves a document well-formed. -/
lemma IsWellFormed.recode? (h : d.IsWellFormed) {id code : Text}
    (hd : d.recode? id code = some d') : d'.IsWellFormed ∧ d'.nodeIds = d.nodeIds :=
  h.updateNode? (f := fun n => { n with event := { n.event with code := code } })
    (fun _ => ⟨rfl, rfl⟩) hd

/-- An event elsewhere leaves a document well-formed. -/
lemma IsWellFormed.move? (h : d.IsWellFormed) {id : Text} {position : Option Position}
    (hd : d.move? id position = some d') : d'.IsWellFormed ∧ d'.nodeIds = d.nodeIds :=
  h.updateNode? (f := fun n => { n with position := position }) (fun _ => ⟨rfl, rfl⟩) hd

/-- A new event with an id that no node has leaves a document well-formed. -/
lemma IsWellFormed.addEvent (h : d.IsWellFormed) {e : Event} (he : e.id ∉ d.nodeIds)
    (position : Position) : (d.addEvent e position).IsWellFormed := by
  have hids : (d.addEvent e position).nodeIds = d.nodeIds ++ [e.id] := List.map_append
  refine ⟨?_, fun n hn => ?_, fun c hc => ?_⟩
  · rw [hids]
    refine List.nodup_append.2 ⟨h.nodup, List.nodup_singleton _, fun id hid id' hid' => ?_⟩
    rw [List.mem_singleton.1 hid']
    exact ne_of_mem_of_not_mem hid he
  · rcases List.mem_append.1 hn with hn | hn
    · exact h.own n hn
    · rw [List.mem_singleton.1 hn]
      rfl
  · rw [hids]
    obtain ⟨hsource, htarget⟩ := h.ends c hc
    exact ⟨List.mem_append_left _ hsource, List.mem_append_left _ htarget⟩

/-- The ids of the nodes that are left when some are removed. -/
lemma nodeIds_removeEvents (d : Document) (ids : List Text) :
    (d.removeEvents ids).nodeIds = d.nodeIds.filter fun id => !ids.contains id := by
  rw [nodeIds, nodeIds, removeEvents, List.filter_map]
  rfl

/-- Removing events with the connections that touch them leaves a document well-formed. -/
lemma IsWellFormed.removeEvents (h : d.IsWellFormed) (ids : List Text) :
    (d.removeEvents ids).IsWellFormed := by
  refine ⟨?_, fun n hn => h.own n (List.mem_filter.1 hn).1, fun c hc => ?_⟩
  · rw [nodeIds_removeEvents]
    exact h.nodup.filter _
  · obtain ⟨hmem, hkept⟩ := List.mem_filter.1 hc
    obtain ⟨hsource, htarget⟩ := Bool.and_eq_true_iff.1 hkept
    rw [nodeIds_removeEvents]
    exact ⟨List.mem_filter.2 ⟨(h.ends c hmem).1, hsource⟩,
      List.mem_filter.2 ⟨(h.ends c hmem).2, htarget⟩⟩

/-- A connection between nodes leaves a document well-formed. -/
lemma IsWellFormed.addConnection (h : d.IsWellFormed) {c : Connection}
    (hsource : c.source ∈ d.nodeIds) (htarget : c.target ∈ d.nodeIds) :
    (d.addConnection c).IsWellFormed := by
  refine ⟨h.nodup, h.own, fun c' hc' => ?_⟩
  rcases List.mem_append.1 hc' with hc' | hc'
  · exact h.ends c' hc'
  · rw [List.mem_singleton.1 hc']
    exact ⟨hsource, htarget⟩

/-- Removing connections leaves a document well-formed. -/
lemma IsWellFormed.removeConnection (h : d.IsWellFormed) (id : Text) :
    (d.removeConnection id).IsWellFormed :=
  ⟨h.nodup, h.own, fun c hc => h.ends c (List.mem_filter.1 hc).1⟩

/-! ## Drawing and writing -/

/-- The names of the nodes are known under the ids of the nodes. -/
lemma mem_keys_names_iff (d : Document) (id : Text) : id ∈ d.names.keys ↔ id ∈ d.nodeIds := by
  rw [← Dictionary.contains_iff_mem_keys, Dictionary.contains, get?_names, Option.isSome_map,
    isSome_node?_iff]

/-- Every pair of connected nodes of a well-formed document is drawn. -/
lemma IsWellFormed.edges_dot (h : d.IsWellFormed) :
    Dot.edges d = (d.edges.map fun c => (c.source, c.target)).eraseDups := by
  have hends : ∀ e ∈ d.edges.map fun c => (c.source, c.target),
      (d.names.keys.contains e.1 && d.names.keys.contains e.2) = true := by
    intro e he
    obtain ⟨c, hc, rfl⟩ := List.mem_map.1 he
    simpa [mem_keys_names_iff] using h.ends c hc
  exact congrArg List.eraseDups (List.filter_eq_self.2 hends)

/-- Every connection of a well-formed document is written, if no name is null. -/
lemma IsWellFormed.links_eq_map (h : d.IsWellFormed)
    (hnull : ∀ e ∈ d.events, e.name.isNull = false) :
    Pointy.links d =
      d.edges.map fun c => (Pointy.nameOfNode d c.source, Pointy.nameOfNode d c.target) := by
  rw [Pointy.links_eq hnull, List.filter_eq_self.2]
  intro c hc
  obtain ⟨hsource, htarget⟩ := h.ends c hc
  rw [(d.isSome_node?_iff _).2 hsource, (d.isSome_node?_iff _).2 htarget]
  rfl

/-- No connection of a well-formed document is noted as left out, if no name is null. -/
lemma IsWellFormed.droppedNotes_eq_nil (h : d.IsWellFormed)
    (hnull : ∀ e ∈ d.events, e.name.isNull = false) : Pointy.droppedNotes d = [] := by
  have hkept : ∀ c ∈ d.edges, ¬ (Pointy.endNames? d.names c).isNone = true := by
    intro c hc
    obtain ⟨hsource, htarget⟩ := h.ends c hc
    rw [Pointy.endNames?, Pointy.endName?_names hnull, Pointy.endName?_names hnull,
      if_pos ((d.isSome_node?_iff _).2 hsource), if_pos ((d.isSome_node?_iff _).2 htarget)]
    exact Bool.false_ne_true
  rw [Pointy.droppedNotes, List.filter_eq_nil_iff.2 hkept, List.map_nil]

end Document

/-! ## Documents that were read -/

namespace Pointy

section Read

variable {strict : Bool} {grid : Grid} {s : Text} {reading : Reading}

/-- The nodes of a document that was read have the ids of the names of its events. -/
lemma nodeIds_of_read (h : read strict grid s = .ok reading) :
    reading.document.nodeIds = (events strict (entries s)).keys.map eventIdOfName := by
  have hnames : reading.document.nodes.map (fun n => n.event.name) =
      (events strict (entries s)).keys.map .given := by
    rw [← map_name_events_of_read h, Document.events, List.map_map]
    rfl
  calc reading.document.nodeIds
      = reading.document.nodes.map fun n => eventIdOfName n.event.name.text :=
        List.map_congr_left fun n hn => id_eq_of_mem_nodes_of_read h hn
    _ = (reading.document.nodes.map fun n => n.event.name).map fun name =>
          eventIdOfName name.text := by
        rw [List.map_map]
        rfl
    _ = (events strict (entries s)).keys.map eventIdOfName := by
        rw [hnames, List.map_map]
        rfl

/-- The names of the events of a text are identifiers. -/
lemma isIdentifier_of_mem_keys {name : Text} (h : name ∈ (events strict (entries s)).keys) :
    isIdentifier name = true := by
  obtain ⟨e, he, rfl⟩ := List.mem_map.1 h
  exact (isSettled_of_mem_blocks (mem_blocks_of_mem_events he)).name

/-- The ends of a connection that is not remarked on are declared. -/
lemma declared_of_read (h : read strict grid s = .ok reading)
    (hdeclared : ∀ r ∈ reading.diagnostics, ∀ name, r.concern ≠ .undeclared name)
    {source target : Text} (hc : (source, target) ∈ connections (entries s)) :
    source ∈ (events strict (entries s)).keys ∧ target ∈ (events strict (entries s)).keys := by
  obtain ⟨⟨line, item⟩, he, hitem⟩ := List.mem_filterMap.1 hc
  obtain ⟨seen, hseen⟩ := exists_seen_of_read h he
  cases item with
  | connection source' target' =>
    obtain ⟨rfl, rfl⟩ := Prod.mk.inj (Option.some.inj hitem)
    have hend : ∀ name ∈ endpoints source' target', name ∈ (events strict (entries s)).keys := by
      intro name hname
      by_contra hnot
      refine hdeclared _ (hseen (.undeclared name) ?_) name rfl
      exact List.mem_map_of_mem (List.mem_filter.2 ⟨hname, by simpa using hnot⟩)
    have hends : source' ∈ endpoints source' target' ∧ target' ∈ endpoints source' target' := by
      unfold endpoints
      split <;> simp [*]
    exact ⟨hend _ hends.1, hend _ hends.2⟩
  | _ => contradiction

/-- A document that was read is well-formed if no connection is remarked on. -/
lemma isWellFormed_of_read (h : read strict grid s = .ok reading)
    (hdeclared : ∀ r ∈ reading.diagnostics, ∀ name, r.concern ≠ .undeclared name) :
    reading.document.IsWellFormed := by
  refine ⟨?_, fun n hn => ?_, fun c hc => ?_⟩
  · rw [nodeIds_of_read h]
    exact List.Nodup.map (fun _ _ => List.append_cancel_left) (nodup_keys_events strict (entries s))
  · obtain ⟨positions, -, -, hdocument, -⟩ := exists_positions_of_read h
    rw [hdocument] at hn
    obtain ⟨⟨e, p⟩, -, rfl⟩ := List.mem_map.1 hn
    rfl
  · rw [edges_of_read h] at hc
    obtain ⟨⟨source, target⟩, hmem, rfl⟩ := List.mem_map.1 hc
    obtain ⟨hsource, htarget⟩ := declared_of_read h hdeclared hmem
    rw [nodeIds_of_read h]
    exact ⟨List.mem_map_of_mem hsource, List.mem_map_of_mem htarget⟩

end Read

end Pointy

end EventPipeline
