import EventPipeline.Proofs.Pointy.Carried
import EventPipeline.Proofs.Pointy.Grid
import EventPipeline.Proofs.Pointy.Sorting
import Mathlib.Data.List.Basic

/-!
# Reading a written document

What pointy text carries of a document: the distinct names of its events, each with one code, and
the connections between its nodes, by the names of their ends. `carriedDocument` puts that together,
and the main statement is that reading the text of a document gives just that document. The default
layout places the events; it hands out positions only as long as the coordinates are numbers of
double precision, which is so for far more events than a document can have.
-/

namespace EventPipeline

/-- The names of node ids are taken in node by node. -/
lemma Document.names_eq_foldl (d : Document) :
    d.names = (d.nodes.map fun n => (n.id, n.event.name)).foldl
      (fun (names : Dictionary Text EventName) b => names.putNew b.1 b.2) [] := by
  rw [Document.names, List.foldl_map]

/-- The name of a node id is that of the first node that has it. -/
lemma Document.get?_names (d : Document) (id : Text) :
    d.names.get? id = (d.node? id).map fun n => n.event.name := by
  rw [d.names_eq_foldl, Dictionary.get?_foldl_putNew, List.find?_map, Option.map_map]
  rfl

namespace Pointy

/-! ## What is carried -/

/-- The names of the events in the order in which they first occur. -/
def carriedNames (d : Document) : List Text :=
  (d.events.map fun e => e.name.text).eraseDups

/-- The event that gives a name its code: the last one of the name, or in strict mode the first. -/
def carrier? (strict : Bool) (d : Document) (name : Text) : Option Event :=
  (if strict then d.events else d.events.reverse).find? fun e => e.name.text = name

/-- The node of a name at a position. -/
def carriedNode (strict : Bool) (d : Document) (name : Text) (position : Position) : Node where
  id := "event-".toList ++ name
  kind := "event".toList
  position := some position
  event :=
    { id := "event-".toList ++ name
      name := .given name
      code := ((carrier? strict d name).map fun e => carriedCode e.code).getD [] }

/-- The name of the first node of an id. -/
def nameOfNode (d : Document) (id : Text) : Text :=
  ((d.node? id).map fun n => n.event.name.text).getD []

/-- A connection by the names of its ends. -/
def carriedConnection (d : Document) (c : Connection) : Connection where
  id := nameOfNode d c.source ++ '-' :: nameOfNode d c.target
  source := "event-".toList ++ nameOfNode d c.source
  target := "event-".toList ++ nameOfNode d c.target

/-- The connections between nodes of the document, by the names of their ends. -/
def carriedEdges (d : Document) : List Connection :=
  (d.edges.filter fun c => (d.node? c.source).isSome && (d.node? c.target).isSome).map
    (carriedConnection d)

/-- The document that pointy text carries, with its events at the given positions. -/
def carriedDocument (strict : Bool) (d : Document) (positions : List Position) : Document where
  config := none
  nodes := List.zipWith (carriedNode strict d) (carriedNames d) positions
  edges := carriedEdges d

/-- The remarks on events whose name has been seen before, from a line on. -/
def repeatRemarks : (seen : List Text) → (number : Nat) → List Event → List Diagnostic
  | _, _, [] => []
  | seen, number, e :: rest =>
    (if seen.contains e.name.text then [⟨.duplicate e.name.text, number⟩] else []) ++
      repeatRemarks (e.name.text :: seen) (number + e.code.lines.length + 3) rest

/-! ## The ends of connections -/

/-- The name of an id is that of its first node, if there is one, when no name is null. -/
lemma endName?_names {d : Document} (h : ∀ e ∈ d.events, e.name.isNull = false) (id : Text) :
    endName? d.names id = if (d.node? id).isSome then some (nameOfNode d id) else none := by
  rw [endName?, Document.get?_names, nameOfNode]
  cases hn : d.node? id with
  | none => rfl
  | some n =>
    have hmem : n.event ∈ d.events := List.mem_map_of_mem (List.mem_of_find?_eq_some hn)
    simp [h n.event hmem]

/-- The connections that are written are those between nodes, by the names of their ends, when no
name is null. -/
lemma links_eq {d : Document} (h : ∀ e ∈ d.events, e.name.isNull = false) :
    links d =
      (d.edges.filter fun c => (d.node? c.source).isSome && (d.node? c.target).isSome).map
        fun c => (nameOfNode d c.source, nameOfNode d c.target) := by
  rw [links, ← List.filterMap_eq_map, List.filterMap_filter]
  refine List.filterMap_congr fun c _ => ?_
  rw [endNames?, endName?_names h, endName?_names h]
  cases (d.node? c.source).isSome <;> cases (d.node? c.target).isSome <;> rfl

/-- The name of a node of the document is among those that are carried. -/
lemma nameOfNode_mem_carriedNames {d : Document} {id : Text} (h : (d.node? id).isSome = true) :
    nameOfNode d id ∈ d.events.map fun e => e.name.text := by
  obtain ⟨n, hn⟩ := Option.isSome_iff_exists.1 h
  have hmem : n.event ∈ d.events := List.mem_map_of_mem (List.mem_of_find?_eq_some hn)
  rw [nameOfNode, hn]
  exact List.mem_map_of_mem hmem

/-- The ends of the connections that are written are names of events. -/
lemma mem_of_mem_links {d : Document} (h : ∀ e ∈ d.events, Carries e) {l : Text × Text}
    (hl : l ∈ links d) :
    l.1 ∈ d.events.map (fun e => e.name.text) ∧ l.2 ∈ d.events.map fun e => e.name.text := by
  rw [links_eq fun e he => (h e he).isNull] at hl
  obtain ⟨c, hc, rfl⟩ := List.mem_map.1 hl
  have hends := (List.mem_filter.1 hc).2
  rw [Bool.and_eq_true] at hends
  exact ⟨nameOfNode_mem_carriedNames hends.1, nameOfNode_mem_carriedNames hends.2⟩

/-- A name of an event that can be carried is an identifier. -/
lemma isIdentifier_of_mem_names {es : List Event} (h : ∀ e ∈ es, Carries e) {name : Text}
    (hn : name ∈ es.map fun e => e.name.text) : isIdentifier name = true := by
  obtain ⟨e, he, rfl⟩ := List.mem_map.1 hn
  exact (h e he).isIdentifier

/-- A document whose events can be carried is written as a text that says just what is carried. -/
lemma entries_write {d : Document} (h : ∀ e ∈ d.events, Carries e) :
    entries (write d) =
      blockEntries 1 d.events ++ linkEntries (1 + blockHeight d.events) (links d) :=
  entries_blocks_links h fun _ hl =>
    ⟨isIdentifier_of_mem_names h (mem_of_mem_links h hl).1,
      isIdentifier_of_mem_names h (mem_of_mem_links h hl).2⟩

/-! ## Events and connections that are read back -/

/-- The blocks of two lists of entries are those of both. -/
lemma blocks_append (es es' : List Entry) : blocks (es ++ es') = blocks es ++ blocks es' :=
  List.filterMap_append

/-- The connections of two lists of entries are those of both. -/
lemma connections_append (es es' : List Entry) :
    connections (es ++ es') = connections es ++ connections es' :=
  List.filterMap_append

/-- The blocks that are written for events. -/
lemma blocks_blockEntries (number : Nat) (es : List Event) :
    blocks (blockEntries number es) = es.map fun e => (e.name.text, carriedCode e.code) := by
  induction es generalizing number with
  | nil => rfl
  | cons e es ih => exact congrArg _ (ih _)

/-- Connections are no blocks. -/
lemma blocks_linkEntries (number : Nat) (ls : List (Text × Text)) :
    blocks (linkEntries number ls) = [] := by
  induction ls generalizing number with
  | nil => rfl
  | cons l ls ih => exact ih _

/-- Blocks are no connections. -/
lemma connections_blockEntries (number : Nat) (es : List Event) :
    connections (blockEntries number es) = [] := by
  induction es generalizing number with
  | nil => rfl
  | cons e es ih => exact ih _

/-- The connections that are written. -/
lemma connections_linkEntries (number : Nat) (ls : List (Text × Text)) :
    connections (linkEntries number ls) = ls := by
  induction ls generalizing number with
  | nil => rfl
  | cons l ls ih => exact congrArg _ (ih _)

/-- The blocks of a written document. -/
lemma blocks_entries_write {d : Document} (h : ∀ e ∈ d.events, Carries e) :
    blocks (entries (write d)) = d.events.map fun e => (e.name.text, carriedCode e.code) := by
  rw [entries_write h, blocks_append, blocks_blockEntries, blocks_linkEntries, List.append_nil]

/-- The connections of a written document. -/
lemma connections_entries_write {d : Document} (h : ∀ e ∈ d.events, Carries e) :
    connections (entries (write d)) = links d := by
  rw [entries_write h, connections_append, connections_blockEntries, connections_linkEntries,
    List.nil_append]

/-- The names of a written document. -/
lemma names_entries_write {d : Document} (h : ∀ e ∈ d.events, Carries e) :
    (((blocks (entries (write d))).map Prod.fst).eraseDups) = carriedNames d := by
  rw [blocks_entries_write h, List.map_map]
  rfl

/-- The block of a written document that counts for a name is that of its carrier. -/
lemma countingBlock?_entries_write {d : Document} (h : ∀ e ∈ d.events, Carries e) (strict : Bool)
    (name : Text) :
    (countingBlock? strict (entries (write d)) name).map Prod.snd =
      (carrier? strict d name).map fun e => carriedCode e.code := by
  rw [countingBlock?, blocks_entries_write h, carrier?]
  cases strict
  · simp only [Bool.false_eq_true, if_false, ← List.map_reverse, List.find?_map, Option.map_map]
    rfl
  · simp only [if_true, List.find?_map, Option.map_map]
    rfl

/-- The events of a written document are its names with the code of their carriers. -/
lemma events_entries_write {d : Document} (h : ∀ e ∈ d.events, Carries e) (strict : Bool) :
    events strict (entries (write d)) = (carriedNames d).map fun name =>
      (name, ((carrier? strict d name).map fun e => carriedCode e.code).getD []) := by
  rw [events_eq_map, names_entries_write h]
  exact List.map_congr_left fun name _ => by rw [countingBlock?_entries_write h]

/-! ## Remarks -/

/-- The remarks on blocks and on what stands behind them: in strict mode those on repeated names,
and else none. -/
lemma diagnosticsFrom_blockEntries (strict : Bool) (declared seen : List Text) (number : Nat)
    (es : List Event) (rest : List Entry) :
    ∃ seen', diagnosticsFrom strict declared seen (blockEntries number es ++ rest) =
      (if strict then repeatRemarks seen number es else []) ++
        diagnosticsFrom strict declared seen' rest := by
  induction es generalizing number seen with
  | nil => exact ⟨seen, by cases strict <;> rfl⟩
  | cons e es ih =>
    obtain ⟨seen', ih⟩ := ih (e.name.text :: seen) (number + e.code.lines.length + 3)
    refine ⟨seen', ?_⟩
    rw [blockEntries, List.cons_append, diagnosticsFrom, Item.declare, ih]
    cases strict
    · rfl
    · cases hs : seen.contains e.name.text <;> simp only [concerns, repeatRemarks, hs] <;> rfl

/-- There is nothing to remark on connections between declared names. -/
lemma diagnosticsFrom_linkEntries {declared : List Text} {ls : List (Text × Text)}
    (h : ∀ l ∈ ls, l.1 ∈ declared ∧ l.2 ∈ declared) (strict : Bool) (seen : List Text)
    (number : Nat) : diagnosticsFrom strict declared seen (linkEntries number ls) = [] := by
  induction ls generalizing number with
  | nil => rfl
  | cons l ls ih =>
    obtain ⟨hs, ht⟩ := h l List.mem_cons_self
    have hends : (endpoints l.1 l.2).filter (fun name => !declared.contains name) = [] := by
      rw [List.filter_eq_nil_iff]
      intro name hname
      unfold endpoints at hname
      split at hname <;> simp at hname <;> rcases hname with rfl | rfl <;> simp [hs, ht]
    rw [linkEntries, diagnosticsFrom, concerns, hends]
    exact ih (fun l' hl' => h l' (List.mem_cons_of_mem l hl')) _

/-- The remarks on a written document are in strict mode those on repeated names, and else none. -/
lemma diagnostics_entries_write {d : Document} (h : ∀ e ∈ d.events, Carries e) (strict : Bool) :
    diagnostics strict (entries (write d)) =
      if strict then repeatRemarks [] 1 d.events else [] := by
  have hkeys : (events strict (entries (write d))).keys = carriedNames d := by
    rw [keys_events, names_entries_write h]
  have hlinks : ∀ l ∈ links d, l.1 ∈ carriedNames d ∧ l.2 ∈ carriedNames d := by
    intro l hl
    simpa only [carriedNames, List.mem_eraseDups] using mem_of_mem_links h hl
  rw [diagnostics, hkeys, entries_write h]
  obtain ⟨seen', hblocks⟩ := diagnosticsFrom_blockEntries strict (carriedNames d) [] 1 d.events
    (linkEntries (1 + blockHeight d.events) (links d))
  rw [hblocks, diagnosticsFrom_linkEntries hlinks, List.append_nil]

/-! ## The round trip -/

/-- The nodes of a written document are its names at their positions. -/
lemma placeEvents_entries_write {d : Document} (h : ∀ e ∈ d.events, Carries e) (strict : Bool)
    (positions : List Position) :
    placeEvents (events strict (entries (write d))) positions =
      List.zipWith (carriedNode strict d) (carriedNames d) positions := by
  rw [placeEvents, events_entries_write h, List.zip_map_left, List.map_map, List.zip,
    List.map_zipWith]
  rfl

/-- The connections of a written document are the carried ones. -/
lemma map_connectionOf_entries_write {d : Document} (h : ∀ e ∈ d.events, Carries e) :
    ((connections (entries (write d))).map fun c => connectionOf c.1 c.2) = carriedEdges d := by
  rw [connections_entries_write h, links_eq fun e he => (h e he).isNull, List.map_map]
  rfl

/-- The document of a written text is what pointy text carries, at the positions of the grid. -/
lemma documentOf_entries_write {d : Document} (h : ∀ e ∈ d.events, Carries e) (strict : Bool)
    (grid : Grid) :
    documentOf strict grid (entries (write d)) =
      (grid.positions (carriedNames d).length).map (carriedDocument strict d) := by
  have hlength : (events strict (entries (write d))).length = (carriedNames d).length := by
    rw [events_entries_write h, List.length_map]
  simp only [documentOf, hlength, placeEvents_entries_write h, map_connectionOf_entries_write h]
  rfl

/-- Reading the text of a document whose names are identifiers and whose code closes no block gives
the document that pointy text carries. The events stand at the positions of the standard grid, which
are in closed form. There is nothing to remark but, in strict mode, every repetition of a name. -/
theorem read_write {d : Document} (h : ∀ e ∈ d.events, Carries e) (strict : Bool) :
    (∃ log, read strict Grid.standard (write d) =
      (Grid.standard.positions (carriedNames d).length).map fun positions =>
        { document := carriedDocument strict d positions
          diagnostics := if strict then repeatRemarks [] 1 d.events else []
          log := log }) ∧
    ((carriedNames d).length ≤ 10 ^ 300 →
      Grid.standard.positions (carriedNames d).length =
        .ok ((List.range (carriedNames d).length).map Grid.standardPosition)) := by
  refine ⟨⟨notesFrom strict [] (entries (write d)), ?_⟩, Grid.standard_positions⟩
  rw [read_eq, documentOf_entries_write h, diagnostics_entries_write h]
  cases Grid.standard.positions (carriedNames d).length <;> rfl

/-- A document with a repeated name, a repeated id, a comment line, carriage returns and a
connection to nowhere. -/
def crowded : Document where
  config := none
  nodes :=
    [⟨['a'], Node.eventKind, none,
        ⟨['a'], .given ['f'], ['x', '\r', '\n', '/', '/', '\n', 'y', '\r']⟩⟩,
      ⟨['a'], Node.eventKind, none, ⟨['a'], .given ['g'], ['f', ' ', '{']⟩⟩,
      ⟨['b'], Node.eventKind, none, ⟨['b'], .given ['f'], ['z']⟩⟩]
  edges := [⟨['1'], ['b'], ['a']⟩, ⟨['2'], ['a'], ['c']⟩]

/-- The first code of a repeated name counts in strict mode, and the repetition is remarked on. -/
theorem read_write_crowded :
    (∀ e ∈ crowded.events, Carries e) ∧ ∃ log, read true Grid.standard (write crowded) = .ok
      { document :=
          { config := none
            nodes :=
              [Node.ofEvent (eventOf ['f'] ['x', '\n', 'y']) (Grid.standardPosition 0),
                Node.ofEvent (eventOf ['g'] ['f', ' ', '{']) (Grid.standardPosition 1)]
            edges := [connectionOf ['f'] ['f']] }
        diagnostics := [⟨.duplicate ['f'], 11⟩]
        log := log } := by
  have h : ∀ e ∈ crowded.events, Carries e := by
    intro e he
    simp only [crowded, Document.events, List.map_cons, List.map_nil, List.mem_cons,
      List.not_mem_nil, or_false] at he
    rcases he with rfl | rfl | rfl <;> exact ⟨by decide, by decide⟩
  obtain ⟨⟨log, hread⟩, hpositions⟩ := read_write h true
  have hnames : carriedNames crowded = [['f'], ['g']] := by decide
  have hcount : (carriedNames crowded).length ≤ 10 ^ 300 := by
    have hpow : ∀ m, 1 ≤ m → 2 ≤ 10 ^ m := fun m hm =>
      Nat.one_lt_pow (Nat.ne_of_gt hm) (by decide)
    rw [show (carriedNames crowded).length = 2 by rw [hnames]; rfl]
    exact hpow 300 (by decide)
  refine ⟨h, log, ?_⟩
  rw [hread, hpositions hcount, hnames]
  rfl

end Pointy

end EventPipeline
