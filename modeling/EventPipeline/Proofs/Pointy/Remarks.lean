import EventPipeline.Proofs.Document.WellFormed
import EventPipeline.Proofs.Pointy.Concatenation
import EventPipeline.Proofs.Pointy.Stability

/-!
# What the remarks account for

Whether something of a text is lost is seen from its lines, without reading it. Every line is met in
a block or outside of all (`metLines`), and the lines before it alone decide that. A text is
lossless if it ends outside a block, every line outside is understood, no name is closed twice, and
every connection is between names that are closed somewhere (`IsLossless`).

Reading meets the lines in the same blocks, so its entries are what the met lines say
(`outline_entriesFrom`), and in strict mode nothing is remarked on just if the text is lossless
(`isLossless_iff_of_read`). Then every header line gives an event, and every connection line a
connection that is also written. The remarks come in the order of the lines (`order_diagnostics`).
-/

namespace EventPipeline.Pointy

/-! ## Lines and the blocks in which they are met -/

/-- The name of the block that is open behind a line, given that of the one that is open before. -/
def openBehind : (current : Option Text) → (line : Text) → Option Text
  | some name, line => if isClosing line.trim then none else some name
  | none, line =>
    match Line.ofText line with
    | .header name => some name
    | _ => none

/-- The name of the block that is open behind the last line. -/
def leftOpen (current : Option Text) (ls : List Text) : Option Text :=
  ls.foldl openBehind current

/-- The lines, each with the name of the block in which it is met. -/
def metLines : (current : Option Text) → List Text → List (Option Text × Text)
  | _, [] => []
  | current, line :: rest => (current, line) :: metLines (openBehind current line) rest

/-- The lines that are met outside of blocks. -/
def outerLines (current : Option Text) (ls : List Text) : List Text :=
  (metLines current ls).filterMap fun l => if l.1.isNone then some l.2 else none

/-- The names of the blocks that are closed. -/
def closedNames (current : Option Text) (ls : List Text) : List Text :=
  (metLines current ls).filterMap fun l => if isClosing l.2.trim then l.1 else none

/-- The name in a header line. -/
def headerName? (line : Text) : Option Text :=
  match Line.ofText line with
  | .header name => some name
  | _ => none

/-- The names of the ends in a connection line. -/
def connectionEnds? (line : Text) : Option (Text × Text) :=
  match Line.ofText line with
  | .connection source target => some (source, target)
  | _ => none

/-- A line that is blank, a comment, a header or a connection. -/
def IsUnderstood (line : Text) : Prop :=
  line.trim = [] ∨ isComment line.trim = true ∨ (headerName? line).isSome = true ∨
    (connectionEnds? line).isSome = true

/-- A line says nothing just if it is blank or a comment. -/
lemma ofText_eq_silent_iff (line : Text) :
    Line.ofText line = .silent ↔ line.trim = [] ∨ isComment line.trim = true := by
  have hnot : ∀ ts, Line.ofTokens ts ≠ .silent := by
    intro ts
    unfold Line.ofTokens
    split <;> exact nofun
  rw [Line.ofText]
  by_cases h : (line.trim.isEmpty || isComment line.trim) = true
  · rw [if_pos h]
    simpa using h
  · rw [if_neg h]
    simpa [hnot] using h

/-- A line is understood just if reading understands it. -/
lemma isUnderstood_iff (line : Text) : IsUnderstood line ↔ Line.ofText line ≠ .unrecognized := by
  rw [IsUnderstood, ← or_assoc, ← ofText_eq_silent_iff, headerName?, connectionEnds?]
  cases Line.ofText line <;> simp

/-- The names in the header lines of a text that are met outside of blocks. -/
def headerNames (s : Text) : List Text :=
  (outerLines none s.joinCrLf.lines).filterMap headerName?

/-- The connection lines of a text that are met outside of blocks, by the names of their ends. -/
def connectionLines (s : Text) : List (Text × Text) :=
  (outerLines none s.joinCrLf.lines).filterMap connectionEnds?

/-- A text of which nothing is lost when it is read. -/
structure IsLossless (s : Text) : Prop where
  /-- No block is left open. -/
  closed : leftOpen none s.joinCrLf.lines = none
  /-- Every line outside of blocks is understood. -/
  understood : ∀ line ∈ outerLines none s.joinCrLf.lines, IsUnderstood line
  /-- No two blocks have the same name. -/
  distinct : (closedNames none s.joinCrLf.lines).Nodup
  /-- The ends of every connection are names of blocks. -/
  declared : ∀ c ∈ connectionLines s,
    c.1 ∈ closedNames none s.joinCrLf.lines ∧ c.2 ∈ closedNames none s.joinCrLf.lines

section Met

variable (current : Option Text) (line : Text) (rest : List Text)

/-- A line in front that is met in a block is no line outside of blocks. -/
lemma outerLines_cons_some (name : Text) :
    outerLines (some name) (line :: rest) = outerLines (openBehind (some name) line) rest :=
  rfl

/-- A line in front that is met outside of blocks is one of those. -/
lemma outerLines_cons_none :
    outerLines none (line :: rest) = line :: outerLines (openBehind none line) rest :=
  rfl

/-- A line in front that closes its block adds the name of that. -/
lemma closedNames_cons :
    closedNames current (line :: rest) =
      (if isClosing line.trim then current else none).toList ++
        closedNames (openBehind current line) rest := by
  rw [closedNames, metLines, List.filterMap_cons]
  cases h : (if isClosing line.trim then current else none) <;> simp [closedNames]

end Met

/-- What is left open behind some lines and then others. -/
lemma leftOpen_append (current : Option Text) (front back : List Text) :
    leftOpen current (front ++ back) = leftOpen (leftOpen current front) back :=
  List.foldl_append

/-- The blocks that are closed by some lines and then by others. -/
lemma closedNames_append (current : Option Text) (front back : List Text) :
    closedNames current (front ++ back) =
      closedNames current front ++ closedNames (leftOpen current front) back := by
  induction front generalizing current with
  | nil => rfl
  | cons line rest ih =>
    rw [List.cons_append, closedNames_cons, ih, closedNames_cons, List.append_assoc]
    rfl

/-- Whether a block is left open is seen from the trimmed lines. -/
lemma leftOpen_map_trim (current : Option Text) (ls : List Text) :
    leftOpen current (ls.map Text.trim) = leftOpen current ls := by
  have htrim : ∀ current line, openBehind current (Text.trim line) = openBehind current line := by
    intro current line
    cases current with
    | none => simp only [openBehind, ofText_congr (Text.trim_trim line)]
    | some name => simp only [openBehind, Text.trim_trim]
  rw [leftOpen, List.foldl_map]
  simp only [htrim]
  rfl

/-- Every name that is opened is closed, but for one that is left open. -/
lemma headers_append_eq (current : Option Text) (ls : List Text) :
    current.toList ++ (outerLines current ls).filterMap headerName? =
      closedNames current ls ++ (leftOpen current ls).toList := by
  induction ls generalizing current with
  | nil => simp [outerLines, metLines, closedNames, leftOpen]
  | cons line rest ih =>
    have hleft : leftOpen current (line :: rest) = leftOpen (openBehind current line) rest := rfl
    rw [closedNames_cons, hleft, List.append_assoc, ← ih]
    cases current with
    | none =>
      have hopened : headerName? line = openBehind none line := rfl
      rw [outerLines_cons_none, List.filterMap_cons, hopened]
      cases openBehind none line <;> simp
    | some name =>
      rw [outerLines_cons_some, openBehind]
      split <;> rfl

/-! ## Entries of the met lines -/

/-- An item without the code of a block and the text of a line that is not understood. -/
def Item.outline : Item → Item
  | .event name _ => .event name []
  | .unrecognized _ => .unrecognized []
  | item => item

/-- The outlines of what is said, in order. -/
def outline (es : List Entry) : List Item :=
  es.map fun e => e.item.outline

/-- The name of a block. -/
def Item.eventName? : Item → Option Text
  | .event name _ => some name
  | _ => none

/-- The names of the ends of a connection. -/
def Item.ends? : Item → Option (Text × Text)
  | .connection source target => some (source, target)
  | _ => none

/-- The outline of what a line says in the block in which it is met. -/
def said : Option Text × Text → Option Item
  | (some name, line) => if isClosing line.trim then some (.event name []) else none
  | (none, line) =>
    match Line.ofText line with
    | .connection source target => some (.connection source target)
    | .unrecognized => some (.unrecognized [])
    | _ => none

/-- The outline of what lines say, when a block of some name may be open. -/
def outlineOfLines (current : Option Text) (ls : List Text) : List Item :=
  (metLines current ls).filterMap said ++ ((leftOpen current ls).map Item.unterminated).toList

/-- What lines say is what the first of them says, and what the others say behind it. -/
lemma outlineOfLines_cons (current : Option Text) (line : Text) (rest : List Text) :
    outlineOfLines current (line :: rest) =
      (said (current, line)).toList ++ outlineOfLines (openBehind current line) rest := by
  rw [outlineOfLines, metLines, List.filterMap_cons]
  cases said (current, line) <;> rfl

/-- Entries are what the lines say in the blocks in which they are met. -/
lemma outline_entriesFrom (current : Option Block) (number : Nat) (ls : List Text) :
    outline (entriesFrom current number ls) = outlineOfLines (current.map Block.name) ls := by
  fun_induction entriesFrom current number ls with
  | case1 => rfl
  | case2 => rfl
  | case3 b number line rest hclosing ih =>
    rw [Option.map_some, outlineOfLines_cons, said, openBehind, if_pos hclosing, if_pos hclosing]
    exact congrArg (.event b.name [] :: ·) ih
  | case4 b number line rest hclosing ih =>
    have hname : (b.add line).name = b.name := (foldl_add_name_line [line] b).1
    rw [Option.map_some, outlineOfLines_cons, said, openBehind, if_neg hclosing, if_neg hclosing,
      ih, Option.map_some, hname]
    rfl
  | case5 number line rest hline ih =>
    rw [Option.map_none, outlineOfLines_cons, said, openBehind, hline]
    exact ih
  | case6 number line rest name hline ih =>
    rw [Option.map_none, outlineOfLines_cons, said, openBehind, hline]
    exact ih
  | case7 number line rest source target hline ih =>
    rw [Option.map_none, outlineOfLines_cons, said, openBehind, hline]
    exact congrArg (.connection source target :: ·) ih
  | case8 number line rest hline ih =>
    rw [Option.map_none, outlineOfLines_cons, said, openBehind, hline]
    exact congrArg (.unrecognized [] :: ·) ih

/-- The entries of a text are what its lines say. -/
lemma outline_entries (s : Text) : outline (entries s) = outlineOfLines none s.joinCrLf.lines :=
  outline_entriesFrom none 1 _

/-- What is picked of the outlines of entries, where it is of what the lines say and nothing is of a
block that is left open. -/
lemma filterMap_outlineOfLines {α : Type} {pick : Item → Option α}
    (hpick : ∀ name, pick (.unterminated name) = none) (current : Option Text) (ls : List Text) :
    (outlineOfLines current ls).filterMap pick =
      (metLines current ls).filterMap fun l => (said l).bind pick := by
  rw [outlineOfLines, List.filterMap_append, List.filterMap_filterMap]
  cases leftOpen current ls <;> simp [hpick]

/-- The names of blocks are seen from the outlines. -/
lemma map_fst_blocks (es : List Entry) :
    (blocks es).map Prod.fst = (outline es).filterMap Item.eventName? := by
  rw [blocks, outline, List.map_filterMap, List.filterMap_map]
  refine List.filterMap_congr fun e _ => ?_
  rw [Function.comp_apply]
  cases e.item <;> rfl

/-- The connections are seen from the outlines. -/
lemma connections_eq_filterMap_outline (es : List Entry) :
    connections es = (outline es).filterMap Item.ends? := by
  rw [connections, outline, List.filterMap_map]
  refine List.filterMap_congr fun e _ => ?_
  rw [Function.comp_apply]
  cases e.item <;> rfl

/-- The names of the blocks that lines say are those of the blocks that they close. -/
lemma map_fst_blocks_entriesFrom (current : Option Block) (number : Nat) (ls : List Text) :
    (blocks (entriesFrom current number ls)).map Prod.fst =
      closedNames (current.map Block.name) ls := by
  rw [map_fst_blocks, outline_entriesFrom, filterMap_outlineOfLines fun _ => rfl, closedNames]
  refine List.filterMap_congr fun (current, line) _ => ?_
  cases current with
  | none =>
    rw [said, ite_self]
    cases Line.ofText line <;> rfl
  | some name =>
    rw [said]
    split <;> rfl

/-- The names of the blocks of a text are those of the blocks that its lines close. -/
lemma map_fst_blocks_entries (s : Text) :
    (blocks (entries s)).map Prod.fst = closedNames none s.joinCrLf.lines :=
  map_fst_blocks_entriesFrom none 1 _

/-- The connections of a text are those of its lines outside of blocks. -/
lemma connections_entries (s : Text) : connections (entries s) = connectionLines s := by
  rw [connections_eq_filterMap_outline, outline_entries, filterMap_outlineOfLines fun _ => rfl,
    connectionLines, outerLines, List.filterMap_filterMap]
  refine List.filterMap_congr fun (current, line) _ => ?_
  cases current with
  | none =>
    rw [said, Option.isNone_none, if_pos rfl, Option.bind_some, connectionEnds?]
    cases Line.ofText line <;> rfl
  | some name =>
    rw [said]
    split <;> rfl

/-! ## Entries without remarks -/

/-- An item on which nothing is remarked, unless it repeats a name. -/
def Item.IsSound (declared : List Text) : Item → Prop
  | .event _ _ => True
  | .connection source target => source ∈ declared ∧ target ∈ declared
  | .unrecognized _ => False
  | .unterminated _ => False

/-- In strict mode nothing is remarked on an item that is sound and repeats no name. -/
lemma concerns_eq_nil_iff (declared seen : List Text) (item : Item) :
    concerns true declared seen item = [] ↔
      item.IsSound declared ∧ ∀ name ∈ item.eventName?, name ∉ seen := by
  cases item with
  | event name code => simp [concerns, Item.IsSound, Item.eventName?]
  | connection source target =>
    simp only [concerns, endpoints, Item.IsSound, Item.eventName?]
    split <;> simp_all
  | unrecognized line => simp [concerns, Item.IsSound]
  | unterminated name => simp [concerns, Item.IsSound]

/-- In strict mode nothing is remarked on entries that are sound and whose names are distinct. -/
lemma diagnosticsFrom_eq_nil_iff (declared seen : List Text) (es : List Entry) :
    diagnosticsFrom true declared seen es = [] ↔
      (∀ item ∈ outline es, item.IsSound declared) ∧
        ((outline es).filterMap Item.eventName?).Nodup ∧
          ∀ name ∈ (outline es).filterMap Item.eventName?, name ∉ seen := by
  induction es generalizing seen with
  | nil => simp [diagnosticsFrom, outline]
  | cons e rest ih =>
    have hsound : e.item.outline.IsSound declared ↔ e.item.IsSound declared := by
      cases e.item <;> exact Iff.rfl
    have hname : e.item.outline.eventName? = e.item.eventName? := by
      cases e.item <;> rfl
    have hcons : outline (e :: rest) = e.item.outline :: outline rest := rfl
    rw [diagnosticsFrom, List.append_eq_nil_iff, List.map_eq_nil_iff, concerns_eq_nil_iff, ih,
      hcons, List.forall_mem_cons, hsound, List.filterMap_cons, hname]
    cases he : e.item with
    | event name code =>
      simp only [Item.declare, Item.eventName?, List.nodup_cons, List.forall_mem_cons]
      simp only [Option.mem_def, Option.some.injEq, forall_eq', List.mem_cons, not_or]
      grind
    | _ => simp [Item.declare, Item.eventName?, and_assoc]

/-- What a line says outside of blocks is sound just if the line is understood, and the ends of its
connection are declared. -/
lemma isSound_said_none_iff (declared : List Text) (line : Text) :
    (∀ item ∈ (said (none, line)).toList, item.IsSound declared) ↔
      IsUnderstood line ∧ ∀ c ∈ connectionEnds? line, c.1 ∈ declared ∧ c.2 ∈ declared := by
  rw [isUnderstood_iff, said, connectionEnds?]
  cases Line.ofText line <;> simp [Item.IsSound]

/-- What a line says in a block is sound. -/
lemma isSound_said_some (declared : List Text) (name line : Text) :
    ∀ item ∈ (said (some name, line)).toList, item.IsSound declared := by
  rw [said]
  split <;> simp [Item.IsSound]

/-- What lines say is sound just if no block is left open, every line outside of blocks is
understood, and the ends of connections are declared. -/
lemma isSound_outlineOfLines_iff (declared : List Text) (current : Option Text) (ls : List Text) :
    (∀ item ∈ outlineOfLines current ls, item.IsSound declared) ↔
      leftOpen current ls = none ∧ (∀ line ∈ outerLines current ls, IsUnderstood line) ∧
        ∀ c ∈ (outerLines current ls).filterMap connectionEnds?,
          c.1 ∈ declared ∧ c.2 ∈ declared := by
  induction ls generalizing current with
  | nil => cases current <;> simp [outlineOfLines, metLines, leftOpen, outerLines, Item.IsSound]
  | cons line rest ih =>
    have hleft : leftOpen current (line :: rest) = leftOpen (openBehind current line) rest := rfl
    rw [outlineOfLines_cons, List.forall_mem_append, ih, hleft]
    cases current with
    | none =>
      rw [isSound_said_none_iff, outerLines_cons_none]
      simp only [List.forall_mem_cons, List.filterMap_cons]
      cases connectionEnds? line <;> simp <;> tauto
    | some name =>
      rw [outerLines_cons_some]
      exact and_iff_right (isSound_said_some declared name line)

/-- In strict mode nothing is remarked on just if the text is lossless. -/
lemma diagnostics_eq_nil_iff (s : Text) : diagnostics true (entries s) = [] ↔ IsLossless s := by
  have hdeclared : ∀ name, name ∈ (events true (entries s)).keys ↔
      name ∈ closedNames none s.joinCrLf.lines := fun name => by
    rw [keys_events, List.mem_eraseDups, map_fst_blocks_entries]
  rw [diagnostics, diagnosticsFrom_eq_nil_iff, ← map_fst_blocks, map_fst_blocks_entries,
    outline_entries, isSound_outlineOfLines_iff]
  simp only [hdeclared]
  constructor
  · rintro ⟨⟨hclosed, hunderstood, hends⟩, hdistinct, -⟩
    exact ⟨hclosed, hunderstood, hdistinct, hends⟩
  · rintro ⟨hclosed, hunderstood, hdistinct, hends⟩
    exact ⟨⟨hclosed, hunderstood, hends⟩, hdistinct, fun _ _ => List.not_mem_nil⟩

/-! ## The order of remarks -/

/-- The remarks on a text come in the order of its lines. -/
lemma order_diagnostics (strict : Bool) (s : Text) :
    (diagnostics strict (entries s)).Pairwise (fun r r' => r.line ≤ r'.line) ∧
      ∀ r ∈ diagnostics strict (entries s), 1 ≤ r.line ∧ r.line ≤ s.lines.length := by
  have hlines : ((entries s).map Entry.line).Sublist (List.range' 1 s.lines.length) := by
    rw [← Text.length_ended, ← Text.lines_joinCrLf]
    exact map_line_entriesFrom none 1 _
  have hrising := List.Pairwise.sublist hlines List.pairwise_lt_range'
  refine ⟨pairwise_line_diagnosticsFrom hrising _ _ _, fun r hr => ?_⟩
  have hmem := hlines.subset (line_mem_of_mem_diagnosticsFrom hr)
  rw [List.mem_range'_1] at hmem
  omega

/-! ## Documents -/

section Read

variable {strict : Bool} {grid : Grid} {s : Text} {reading : Reading}

/-- A lossless text has the names of its header lines for events, and its connections are all
written. -/
lemma document_of_read_isLossless (h : read true grid s = .ok reading) (hs : IsLossless s) :
    reading.document.nodes.map (fun n => n.event.name) = (headerNames s).map .given ∧
      links reading.document = connectionLines s ∧ droppedNotes reading.document = [] := by
  have hnone : reading.diagnostics = [] := by
    obtain ⟨-, -, -, -, hdiagnostics⟩ := exists_positions_of_read h
    rw [hdiagnostics, diagnostics_eq_nil_iff]
    exact hs
  have hwell : reading.document.IsWellFormed := isWellFormed_of_read h (by simp [hnone])
  have hnull : ∀ e ∈ reading.document.events, e.name.isNull = false := fun e he =>
    (carries_of_read h e he).isNull
  have hheaders : headerNames s = closedNames none s.joinCrLf.lines := by
    have := headers_append_eq none s.joinCrLf.lines
    rwa [hs.closed, Option.toList_none, List.nil_append, List.append_nil] at this
  refine ⟨?_, ?_, hwell.droppedNotes_eq_nil hnull⟩
  · have hnames : reading.document.nodes.map (fun n => n.event.name) =
        reading.document.events.map Event.name := by
      rw [Document.events, List.map_map]
      rfl
    rw [hnames, map_name_events_of_read h, keys_events, map_fst_blocks_entries,
      Dictionary.eraseDups_of_nodup hs.distinct, hheaders]
  · have hends := hwell.ends
    rw [edges_of_read h, List.forall_mem_map, connections_entries] at hends
    rw [hwell.links_eq_map hnull, edges_of_read h, List.map_map, connections_entries]
    refine (List.map_congr_left fun c hc => ?_).trans (List.map_id _)
    obtain ⟨hsource, htarget⟩ := hends c hc
    exact Prod.ext (nameOfNode_of_read h ((Document.isSome_node?_iff _ _).2 hsource))
      (nameOfNode_of_read h ((Document.isSome_node?_iff _ _).2 htarget))

end Read

/-- In strict mode nothing of a text is remarked on just if the text is lossless: it ends outside a
block, every line outside of blocks is understood, no two blocks have the same name, and the ends of
every connection are names of blocks. Then the document has one node for each header line and one
edge for each connection line, in order, and all edges are written. In both modes the remarks are in
the order of the lines of the text. -/
theorem isLossless_iff_of_read (s : Text) :
    (∀ grid reading, read true grid s = .ok reading →
      (reading.diagnostics = [] ↔ IsLossless s) ∧
      (IsLossless s →
        reading.document.nodes.map (fun n => n.event.name) = (headerNames s).map .given ∧
          (reading.document.edges = (connectionLines s).map fun c => connectionOf c.1 c.2) ∧
          links reading.document = connectionLines s ∧ droppedNotes reading.document = [])) ∧
    (∀ strict grid reading, read strict grid s = .ok reading →
      reading.diagnostics.Pairwise (fun r r' => r.line ≤ r'.line) ∧
        ∀ r ∈ reading.diagnostics, 1 ≤ r.line ∧ r.line ≤ s.lines.length) ∧
    (s.length < 10 ^ 300 → ∀ strict, ∃ reading, read strict Grid.standard s = .ok reading) := by
  refine ⟨fun grid reading h => ⟨?_, fun hs => ?_⟩, fun strict grid reading h => ?_,
    fun h strict => exists_read strict h⟩
  · obtain ⟨-, -, -, -, hdiagnostics⟩ := exists_positions_of_read h
    rw [hdiagnostics, diagnostics_eq_nil_iff]
  · obtain ⟨hnames, hlinks, hnotes⟩ := document_of_read_isLossless h hs
    refine ⟨hnames, ?_, hlinks, hnotes⟩
    rw [edges_of_read h, connections_entries]
  · obtain ⟨-, -, -, -, hdiagnostics⟩ := exists_positions_of_read h
    rw [hdiagnostics]
    exact order_diagnostics strict s

/-- A text that connects events before it declares them. -/
def foretold : Text :=
  ['f', '-', '>', 'g', '\r', '\n', 'g', ' ', '{', ' ', '}', '\n', 'f', '{', '\n', '}', ' ',
    '\r', '\n', '/', '/', '\n', 'f', '{', '\n', 'g', '-', '>', 'f', '\n', '}', '\r']

/-- What stands behind the brace of a header is not read, and the block goes on to the next line
that is only a brace. -/
theorem isLossless_iff_of_read_foretold :
    foretold.length < 10 ^ 300 ∧
      ∃ reading, read true Grid.standard foretold = .ok reading ∧ reading.diagnostics = [] ∧
        reading.document.nodes.map (fun n => n.event.name) = [.given ['g'], .given ['f']] ∧
        reading.document.edges = [connectionOf ['f'] ['g']] ∧
        links reading.document = [(['f'], ['g'])] ∧ droppedNotes reading.document = [] := by
  have hlength : foretold.length < 10 ^ 300 := length_lt_of_short (by decide)
  obtain ⟨hstrict, -, hexists⟩ := isLossless_iff_of_read foretold
  obtain ⟨reading, hreading⟩ := hexists hlength true
  obtain ⟨hiff, hdocument⟩ := hstrict _ reading hreading
  have hlossless : IsLossless foretold := (diagnostics_eq_nil_iff foretold).1 (by decide)
  obtain ⟨hnames, hedges, hlinks, hnotes⟩ := hdocument hlossless
  exact ⟨hlength, reading, hreading, hiff.2 hlossless, hnames, hedges, hlinks, hnotes⟩

end EventPipeline.Pointy
