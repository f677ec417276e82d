import EventPipeline.Proofs.Pointy.Warnings

/-!
# The form of a document that was read

Whatever a text is, the document that is read from it has one and the same form (`IsRegular`). It
has no configuration; its events have distinct identifiers for names, ids that are made of the
names, and code that is trimmed and loses no line; its nodes stand on the grid in their order; and
its connections are named after their ends. So writing it warns of nothing.

A reading fails for no other reason than that the grid has no position for an event, so the theorem
says for which texts and grids there is a document (`isRegular_of_read`).
-/

namespace EventPipeline

namespace Pointy

/-! ## Connections -/

/-- The ends of a connection that a text says are identifiers. -/
lemma isIdentifier_of_mem_connections {current : Option Block} {number : Nat} {ls : List Text}
    {c : Text × Text} (hc : c ∈ connections (entriesFrom current number ls)) :
    isIdentifier c.1 = true ∧ isIdentifier c.2 = true := by
  fun_induction entriesFrom current number ls with
  | case1 => contradiction
  | case2 => contradiction
  | case3 b number line rest hclosing ih => exact ih hc
  | case4 b number line rest hclosing ih => exact ih hc
  | case5 number line rest hline ih => exact ih hc
  | case6 number line rest name hline ih => exact ih hc
  | case7 number line rest source target hline ih =>
    rcases List.mem_cons.1 hc with rfl | hc
    · have hnames := hasIdentifiers_ofText line
      rw [hline] at hnames
      exact hnames
    · exact ih hc
  | case8 number line rest hline ih => exact ih hc

/-! ## Documents -/

/-- A document of the form that reading gives, with its events on a grid. -/
structure IsRegular (grid : Grid) (d : Document) : Prop where
  /-- There is no configuration. -/
  config : d.config = none
  /-- The names of the events are identifiers. -/
  name : ∀ n ∈ d.nodes, ∃ name, n.event.name = .given name ∧ isIdentifier name = true
  /-- No two events have the same name. -/
  distinct : (d.nodes.map fun n => n.event.name).Nodup
  /-- The nodes are of the kind that wraps an event. -/
  kind : ∀ n ∈ d.nodes, n.kind = "event".toList
  /-- A node and its event have one id, which is made of the name. -/
  id : ∀ n ∈ d.nodes, n.id = n.event.id ∧ n.event.id = "event-".toList ++ n.event.name.text
  /-- The nodes stand at the positions of the grid, in their order. -/
  position : ∀ k (h : k < d.nodes.length),
    ∃ p, grid.positionAt k = .ok p ∧ d.nodes[k].position = some p
  /-- The code of an event is trimmed, and none of its lines is lost when it is written. -/
  code : ∀ n ∈ d.nodes, n.event.code.trim = n.event.code ∧ unreadableLines n.event.code = []
  /-- A connection is between ids that are made of identifiers, and its own id is made of both. -/
  edge : ∀ c ∈ d.edges, ∃ source target,
    isIdentifier source = true ∧ isIdentifier target = true ∧
      c = ⟨source ++ '-' :: target, "event-".toList ++ source, "event-".toList ++ target⟩

section Read

variable {strict : Bool} {grid : Grid} {s : Text} {reading : Reading}

/-- Every node of a document that was read is that of a block of the text, at a position. -/
lemma exists_block_of_mem_nodes_of_read (h : read strict grid s = .ok reading) {n : Node}
    (hn : n ∈ reading.document.nodes) :
    ∃ block position, block ∈ blocks (entries s) ∧
      n = Node.ofEvent (eventOf block.1 block.2) position := by
  obtain ⟨positions, -, -, hdocument, -⟩ := exists_positions_of_read h
  rw [hdocument] at hn
  obtain ⟨⟨block, position⟩, hmem, rfl⟩ := List.mem_map.1 hn
  exact ⟨block, position, mem_blocks_of_mem_events (List.of_mem_zip hmem).1, rfl⟩

/-- The nodes of a document that was read stand on the grid in their order. -/
lemma position_of_read (h : read strict grid s = .ok reading) {k : Nat}
    (hk : k < reading.document.nodes.length) :
    ∃ p, grid.positionAt k = .ok p ∧ reading.document.nodes[k].position = some p := by
  obtain ⟨positions, hpositions, hlength, hdocument, -⟩ := exists_positions_of_read h
  obtain ⟨-, hat⟩ := Grid.positions_eq_ok_iff.1 hpositions
  simp only [hdocument, placeEvents, List.length_map, List.length_zip, Nat.lt_min] at hk
  refine ⟨positions[k], hat k hk.2, ?_⟩
  simp only [hdocument, placeEvents, List.getElem_map, List.getElem_zip]
  rfl

end Read

/-- A document that was read is regular, and writing it warns of nothing. There is one just if the
grid has a position for every event of the text. -/
theorem isRegular_of_read (strict : Bool) (grid : Grid) (s : Text) :
    (∀ reading, read strict grid s = .ok reading →
      IsRegular grid reading.document ∧
        ∀ r ∈ writeLog reading.document, r.level ≠ .warning) ∧
    ((∃ reading, read strict grid s = .ok reading) ↔
      ∀ k < (events strict (entries s)).length, ∃ p, grid.positionAt k = .ok p) := by
  constructor
  · intro reading h
    refine ⟨?_, (writeLog_silent_iff_isReadable _).2 fun e he =>
      isReadable_of_mem_events_of_read h he⟩
    constructor
    case config =>
      obtain ⟨positions, -, -, hdocument, -⟩ := exists_positions_of_read h
      rw [hdocument]
    case name =>
      intro n hn
      obtain ⟨block, position, hblock, rfl⟩ := exists_block_of_mem_nodes_of_read h hn
      exact ⟨block.1, rfl, (isSettled_of_mem_blocks hblock).name⟩
    case distinct =>
      have hnames : reading.document.nodes.map (fun n => n.event.name) =
          reading.document.events.map Event.name := by
        rw [Document.events, List.map_map]
        rfl
      rw [hnames, map_name_events_of_read h]
      exact (nodup_keys_events strict (entries s)).map fun _ _ => EventName.given.inj
    case kind =>
      intro n hn
      obtain ⟨block, position, -, rfl⟩ := exists_block_of_mem_nodes_of_read h hn
      rfl
    case id =>
      intro n hn
      obtain ⟨block, position, -, rfl⟩ := exists_block_of_mem_nodes_of_read h hn
      exact ⟨rfl, rfl⟩
    case position => exact fun k hk => position_of_read h hk
    case code =>
      intro n hn
      obtain ⟨block, position, hblock, rfl⟩ := exists_block_of_mem_nodes_of_read h hn
      have hsettled := isSettled_of_mem_blocks hblock
      exact ⟨hsettled.trim, hsettled.readable⟩
    case edge =>
      intro c hc
      rw [edges_of_read h] at hc
      obtain ⟨⟨source, target⟩, hmem, rfl⟩ := List.mem_map.1 hc
      obtain ⟨hsource, htarget⟩ := isIdentifier_of_mem_connections hmem
      exact ⟨source, target, hsource, htarget, rfl⟩
  · rw [← Grid.exists_positions_iff]
    constructor
    · rintro ⟨reading, h⟩
      obtain ⟨positions, hpositions, -⟩ := exists_positions_of_read h
      exact ⟨positions, hpositions⟩
    · rintro ⟨positions, hpositions⟩
      rw [read_eq, documentOf, hpositions]
      exact ⟨_, rfl⟩

/-- A grid of two columns to the left of the origin, whose rows begin at a truth value. -/
def leftward : Grid where
  originX := .int (-3)
  originY := .bool true
  columnSpacing := .int 2
  rowSpacing := .int 5
  maxX := .int 0

/-- A text of three events, in which blanks of all kinds stand around a comment, a brace that closes
nothing and one that does. -/
def blanked : Text :=
  ['f', '{', '\n', '\u3000', '/', '/', '\n', '\u2003', 'x', ' ', '}', '\r', '\r', '\n', '\u0085',
    '}', '\n', 'g', '{', '\n', '}', '\n', 'h', '{', '\n', '}', '\n', 'f', '-', '>', 'k']

/-- Code keeps a brace that stands behind something else, and loses the blanks around itself. -/
theorem isRegular_of_read_blanked :
    (∀ k < (events false (entries blanked)).length, ∃ p, leftward.positionAt k = .ok p) ∧
      ∃ reading, read false leftward blanked = .ok reading ∧
        IsRegular leftward reading.document ∧
        (∀ r ∈ writeLog reading.document, r.level ≠ .warning) ∧
        reading.document.events.map Event.code = [['x', ' ', '}'], [], []] := by
  have hpositions : ∀ k < (events false (entries blanked)).length,
      ∃ p, leftward.positionAt k = .ok p := by
    have hcount : (events false (entries blanked)).length = 3 := by decide
    have hsome : ∀ k < 3, (leftward.positionAt k).toOption.isSome = true := by decide +kernel
    intro k hk
    cases hp : leftward.positionAt k with
    | ok p => exact ⟨p, rfl⟩
    | error e =>
      have hnone := hsome k (hcount ▸ hk)
      rw [hp] at hnone
      exact absurd hnone Bool.false_ne_true
  obtain ⟨hform, hexists⟩ := isRegular_of_read false leftward blanked
  obtain ⟨reading, hreading⟩ := hexists.2 hpositions
  obtain ⟨hregular, hsilent⟩ := hform reading hreading
  refine ⟨hpositions, reading, hreading, hregular, hsilent, ?_⟩
  rw [events_of_read hreading]
  decide

end Pointy

end EventPipeline
