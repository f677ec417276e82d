import EventPipeline.Proofs.Pointy.Warnings

/-!
# Writing and reading a document that was read

A document that was read is written as a text from which it is read again, but for two things: the
connections with an end that is no event are left out, and a pair of carriage return and line feed
that is left in code is joined (`read_write_read`).

Such a pair is left where a carriage return stands in front of a pair: reading joins the pair, and
the carriage return makes another one with the line feed. Code is written as it is, so the next
reading joins that one. A text without carriage returns in front of pairs therefore comes to rest
after one reading, and others need not (`not_forall_read_write_read`).
-/

namespace EventPipeline

/-- The node with the pairs of carriage return and line feed in its code joined. -/
def Node.joined (n : Node) : Node :=
  { n with event := { n.event with code := n.event.code.joinCrLf } }

/-- A node whose code holds no pair is as it was when pairs are joined. -/
lemma Node.joined_eq_self {n : Node} (h : ¬ Text.pair <:+: n.event.code) : n.joined = n := by
  rw [Node.joined, (Text.joinCrLf_eq_self_iff _).2 h]

namespace Pointy

/-! ## Connections that are left out -/

/-- Leaving out the connections with an end that is no node does not change what is written, when no
name is null. -/
lemma write_filter_edges {d d' : Document} (h : ∀ e ∈ d.events, e.name.isNull = false)
    (hnodes : d'.nodes = d.nodes)
    (hedges : d'.edges =
      d.edges.filter fun c => (d.node? c.source).isSome && (d.node? c.target).isSome) :
    write d' = write d := by
  have hevents : d'.events = d.events := congrArg (List.map Node.event) hnodes
  have hnode : d'.node? = d.node? := by
    funext id
    rw [Document.node?, Document.node?, hnodes]
  have hname : nameOfNode d' = nameOfNode d := by
    funext id
    rw [nameOfNode, nameOfNode, hnode]
  have hlinks : links d' = links d := by
    rw [links_eq (hevents ▸ h), links_eq h, hedges, hnode, hname, List.filter_filter]
    simp only [Bool.and_self]
  rw [write, write, hevents, hlinks]

/-! ## Documents that were read -/

section Read

variable {strict : Bool} {grid : Grid} {s : Text} {reading : Reading}

/-- The node of the id of a name has that name. -/
lemma nameOfNode_of_read (h : read strict grid s = .ok reading) {name : Text}
    (hsome : (reading.document.node? (eventIdOfName name)).isSome = true) :
    nameOfNode reading.document (eventIdOfName name) = name := by
  obtain ⟨n, hn⟩ := Option.isSome_iff_exists.1 hsome
  have hid : n.id = eventIdOfName name := by simpa using List.find?_some hn
  have hfrom := id_eq_of_mem_nodes_of_read h (List.mem_of_find?_eq_some hn)
  rw [nameOfNode, hn, Option.map_some, Option.getD_some]
  exact List.append_cancel_left (hfrom.symm.trans hid)

/-- A connection that was read and whose ends are nodes is carried as it is. -/
lemma carriedConnection_of_read (h : read strict grid s = .ok reading) {c : Connection}
    (hc : c ∈ reading.document.edges)
    (hends : ((reading.document.node? c.source).isSome &&
      (reading.document.node? c.target).isSome) = true) :
    carriedConnection reading.document c = c := by
  rw [edges_of_read h] at hc
  obtain ⟨⟨source, target⟩, -, rfl⟩ := List.mem_map.1 hc
  obtain ⟨hsource, htarget⟩ := Bool.and_eq_true_iff.1 hends
  have hs : nameOfNode reading.document (connectionOf source target).source = source :=
    nameOfNode_of_read h hsource
  have ht : nameOfNode reading.document (connectionOf source target).target = target :=
    nameOfNode_of_read h htarget
  rw [carriedConnection, hs, ht]
  rfl

/-- The connections that are carried of a document that was read are those between its nodes. -/
lemma carriedEdges_of_read (h : read strict grid s = .ok reading) :
    carriedEdges reading.document = reading.document.edges.filter fun c =>
      (reading.document.node? c.source).isSome && (reading.document.node? c.target).isSome := by
  rw [carriedEdges]
  refine (List.map_congr_left fun c hc => ?_).trans (List.map_id _)
  obtain ⟨hmem, hends⟩ := List.mem_filter.1 hc
  exact carriedConnection_of_read h hmem hends

/-- The text of a document that was read carries its events. -/
lemma carries_of_read (h : read strict grid s = .ok reading) :
    ∀ e ∈ reading.document.events, Carries e := fun _ he =>
  (isReadable_of_mem_events_of_read h he).carries

/-- The events of a document that was read are read again, with the pairs in their code joined. -/
lemma events_write_of_read (h : read strict grid s = .ok reading) (again : Bool) :
    events again (entries (write reading.document)) =
      (events strict (entries s)).map fun e => (e.1, e.2.joinCrLf) := by
  rw [events_write_of_isReadable (fun e he => isReadable_of_mem_events_of_read h he)
    (nodup_names_of_read h), events_of_read h, List.map_map]
  refine List.map_congr_left fun e he => ?_
  have htrim := (isSettled_of_mem_blocks (mem_blocks_of_mem_events he)).trim
  exact Prod.ext rfl (Text.trim_joinCrLf htrim)

/-- Other code for events changes the code of their nodes. -/
lemma placeEvents_joinCrLf (es : Dictionary Text Text) (positions : List Position) :
    placeEvents (es.map fun e => (e.1, e.2.joinCrLf)) positions =
      (placeEvents es positions).map Node.joined := by
  rw [placeEvents, placeEvents, List.zip_map_left, List.map_map, List.map_map]
  rfl

/-- Reading what was written for a document that was read gives the same nodes, with the pairs in
their code joined, and the connections between them. -/
lemma read_write_of_read (h : read strict grid s = .ok reading) (again : Bool) :
    ∃ reread, read again grid (write reading.document) = .ok reread ∧
      reread.document.nodes = reading.document.nodes.map Node.joined ∧
      reread.document.edges = reading.document.edges.filter fun c =>
        (reading.document.node? c.source).isSome && (reading.document.node? c.target).isSome := by
  obtain ⟨positions, hpositions, -, hdocument, -⟩ := exists_positions_of_read h
  have hevents := events_write_of_read h again
  have hconnections := map_connectionOf_entries_write (carries_of_read h)
  rw [carriedEdges_of_read h] at hconnections
  have hgrid : grid.positions (events again (entries (write reading.document))).length =
      .ok positions := by
    rw [hevents, List.length_map, hpositions]
  have hnodes : placeEvents (events again (entries (write reading.document))) positions =
      reading.document.nodes.map Node.joined := by
    rw [hevents, placeEvents_joinCrLf, hdocument]
  rw [read_eq, documentOf, hgrid]
  exact ⟨_, rfl, hnodes, hconnections⟩

/-- A node that was read holds no pair in its code unless the text has a carriage return in front of
one. -/
lemma not_pair_of_mem_nodes_of_read (h : read strict grid s = .ok reading)
    (hs : ¬ '\r' :: Text.pair <:+: s) {n : Node} (hn : n ∈ reading.document.nodes) :
    ¬ Text.pair <:+: n.event.code := by
  have hevent : n.event ∈ reading.document.events := List.mem_map_of_mem hn
  rw [events_of_read h] at hevent
  obtain ⟨e, he, heq⟩ := List.mem_map.1 hevent
  rw [← heq]
  exact not_pair_of_mem_blocks hs (mem_blocks_of_mem_events he)

end Read

/-- Reading what was written for a document that was read gives its nodes again, with the pairs of
carriage return and line feed joined that are left in their code, and exactly the connections
between them. If none is left, the nodes are the same, and writing again gives the same text. None
is left of a text that has no carriage return in front of a pair. -/
theorem read_write_read (strict again : Bool) (s : Text) :
    (∀ grid reading, read strict grid s = .ok reading →
      (∃ reread, read again grid (write reading.document) = .ok reread ∧
        reread.document.nodes = reading.document.nodes.map Node.joined ∧
        (reread.document.edges = reading.document.edges.filter fun c =>
          (reading.document.node? c.source).isSome && (reading.document.node? c.target).isSome) ∧
        ((∀ n ∈ reading.document.nodes, ¬ Text.pair <:+: n.event.code) →
          reread.document.nodes = reading.document.nodes ∧
            write reread.document = write reading.document)) ∧
      (¬ '\r' :: Text.pair <:+: s →
        ∀ n ∈ reading.document.nodes, ¬ Text.pair <:+: n.event.code)) ∧
    (s.length < 10 ^ 300 → ∃ reading, read strict Grid.standard s = .ok reading) := by
  refine ⟨fun grid reading h => ⟨?_, fun hs n hn => not_pair_of_mem_nodes_of_read h hs hn⟩,
    exists_read strict⟩
  obtain ⟨reread, hreread, hnodes, hedges⟩ := read_write_of_read h again
  refine ⟨reread, hreread, hnodes, hedges, fun hpairs => ?_⟩
  have hsame : reread.document.nodes = reading.document.nodes := by
    rw [hnodes]
    exact (List.map_congr_left fun n hn => Node.joined_eq_self (hpairs n hn)).trans
      (List.map_id _)
  have hnull : ∀ e ∈ reading.document.events, e.name.isNull = false := fun e he =>
    (carries_of_read h e he).isNull
  exact ⟨hsame, write_filter_edges hnull hsame hedges⟩

/-- A text with pairs and a connection to nowhere. -/
def dangling : Text :=
  ['f', '{', '\r', '\n', 'x', '\r', '\n', '}', '\n', 'f', '-', '>', 'g', '\n', 'f', '-', '>', 'f']

/-- Nothing but the connection to nowhere is lost of a text whose pairs stand after other
characters. -/
theorem read_write_read_dangling :
    dangling.length < 10 ^ 300 ∧ ¬ '\r' :: Text.pair <:+: dangling ∧
      ∃ reading, read true Grid.standard dangling = .ok reading ∧
        (∀ n ∈ reading.document.nodes, ¬ Text.pair <:+: n.event.code) ∧
        ∃ reread, read false Grid.standard (write reading.document) = .ok reread ∧
          reread.document.nodes = reading.document.nodes ∧
          (reread.document.edges = reading.document.edges.filter fun c =>
            (reading.document.node? c.source).isSome && (reading.document.node? c.target).isSome) ∧
          write reread.document = write reading.document := by
  have hlength : dangling.length < 10 ^ 300 := length_lt_of_short (by decide)
  have hreturn : ¬ '\r' :: Text.pair <:+: dangling := by decide
  obtain ⟨hread, hexists⟩ := read_write_read true false dangling
  obtain ⟨reading, hreading⟩ := hexists hlength
  obtain ⟨⟨reread, hreread, -, hedges, hsame⟩, hnone⟩ := hread _ reading hreading
  obtain ⟨hnodes, hwrite⟩ := hsame (hnone hreturn)
  exact ⟨hlength, hreturn, reading, hreading, hnone hreturn, reread, hreread, hnodes, hedges,
    hwrite⟩

/-- A text with a carriage return in front of a pair in a block. -/
def doubled : Text :=
  ['e', ' ', '{', '\n', 'a', '\r', '\r', '\n', 'b', '\n', '}']

/-- The document of one event with some code. -/
def lone (code : Text) : Document where
  config := none
  nodes := [Node.ofEvent (eventOf ['e'] code) (Grid.standardPosition 0)]
  edges := []

/-- Neither the nodes nor the text need be the same after a second reading. -/
theorem not_forall_read_write_read :
    (¬ ∀ s reading reread, read false Grid.standard s = .ok reading →
        read false Grid.standard (write reading.document) = .ok reread →
          reread.document.nodes = reading.document.nodes) ∧
      ¬ ∀ s reading reread, read false Grid.standard s = .ok reading →
        read false Grid.standard (write reading.document) = .ok reread →
          write reread.document = write reading.document := by
  have hposition : Grid.standard.positions 1 = .ok [Grid.standardPosition 0] := by
    have hpow : ∀ m, 1 ≤ 10 ^ m := fun m => Nat.one_le_pow m 10 (by decide)
    exact Grid.standard_positions (hpow 300)
  have hread : read false Grid.standard doubled = .ok ⟨lone ['a', '\r', '\n', 'b'], [], []⟩ := by
    rw [read_eq, documentOf, show (events false (entries doubled)).length = 1 by decide, hposition]
    rfl
  have hreread : read false Grid.standard (write (lone ['a', '\r', '\n', 'b'])) =
      .ok ⟨lone ['a', '\n', 'b'], [], []⟩ := by
    rw [read_eq, documentOf,
      show (events false (entries (write (lone ['a', '\r', '\n', 'b'])))).length = 1 by decide,
      hposition]
    rfl
  constructor
  · intro h
    have hcodes := congrArg (List.map fun n => n.event.code) (h _ _ _ hread hreread)
    exact absurd hcodes (by decide)
  · intro h
    exact absurd (h _ _ _ hread hreread) (by decide)

end Pointy

end EventPipeline
