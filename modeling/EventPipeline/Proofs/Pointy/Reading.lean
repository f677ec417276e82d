import EventPipeline.Proofs.Pointy.Carried
import EventPipeline.Proofs.Pointy.Grid
import EventPipeline.Proofs.Pointy.Sorting
import EventPipeline.Proofs.Result
import EventPipeline.Proofs.Text.Pairs

/-!
# What was read from a text

Whatever a text is, what is read from it has a form of its own. A block is made of lines of the text
that neither close a block nor are comments (`exists_body_of_mem_blocks`). So its name is an
identifier, and its code is trimmed and holds no line that would be lost if it were written and read
again (`IsSettled`). It holds a pair of carriage return and line feed only where the text has a
carriage return in front of a pair (`not_pair_of_mem_blocks`).

The document is that of the events and connections, one node for each name
(`exists_positions_of_read`), and any text of a length that a text can have is read (`exists_read`).
-/

namespace EventPipeline

/-- A grid hands out as many positions as it is asked for. -/
lemma Grid.length_positionsFrom {g : Grid} {p : Grid.Point} {count : Nat}
    {positions : List Position} (h : g.positionsFrom p count = .ok positions) :
    positions.length = count := by
  fun_induction Grid.positionsFrom g p count generalizing positions with
  | case1 =>
    rw [← Except.ok.inj h, List.length_nil]
  | case2 p =>
    obtain ⟨q, -, rfl⟩ := map_eq_ok_iff.1 h
    rfl
  | case3 => contradiction
  | case4 => contradiction
  | case5 p count _ q _ p' _ ih =>
    obtain ⟨rest, hrest, rfl⟩ := map_eq_ok_iff.1 h
    rw [List.length_cons, ih hrest]

namespace Pointy

/-! ## Lines that are lost -/

/-- Whether a line is lost is seen from its trimmed form. -/
lemma isUnreadable_trim (line : Text) : isUnreadable line.trim = isUnreadable line := by
  rw [isUnreadable, isUnreadable, Text.trim_trim]

/-- No line of code is lost just if none of its lines is. -/
lemma unreadableLines_eq_nil_iff (code : Text) :
    unreadableLines code = [] ↔ ∀ line ∈ code.lines, isUnreadable line = false := by
  have hfrom : ∀ (ls : List Text) (number : Nat),
      unreadableFrom number ls = [] ↔ ∀ line ∈ ls, isUnreadable line = false := by
    intro ls
    induction ls with
    | nil => simp [unreadableFrom]
    | cons line rest ih =>
      intro number
      cases hline : isUnreadable line <;> simp [unreadableFrom, hline, ih]
  exact hfrom code.lines 1

/-- No line of code is lost just if none of those is that are not blank. -/
lemma unreadableLines_eq_nil_iff_filledLines (code : Text) :
    unreadableLines code = [] ↔ ∀ line ∈ code.filledLines, isUnreadable line = false := by
  rw [unreadableLines_eq_nil_iff]
  constructor
  · intro h line hline
    obtain ⟨line, hmem, rfl⟩ := List.mem_map.1 (List.mem_filter.1 hline).1
    rw [isUnreadable_trim]
    exact h line hmem
  · intro h line hline
    rw [← isUnreadable_trim]
    by_cases hblank : line.trim = []
    · rw [hblank]
      rfl
    · exact h _ (List.mem_filter.2 ⟨List.mem_map_of_mem hline, by simpa using hblank⟩)

/-- Code loses no line just if it loses none when its pairs are joined and it is trimmed. -/
lemma unreadableLines_trim_joinCrLf (code : Text) :
    unreadableLines code.joinCrLf.trim = [] ↔ unreadableLines code = [] := by
  rw [unreadableLines_eq_nil_iff_filledLines, Text.filledLines_trim, Text.filledLines_joinCrLf,
    ← unreadableLines_eq_nil_iff_filledLines]

/-! ## The code of lines -/

section Lines

variable {ls : List Text}

/-- The code of lines none of which is lost loses no line. -/
lemma unreadableLines_codeOfLines (hn : ∀ line ∈ ls, '\n' ∉ line)
    (h : ∀ line ∈ ls, isUnreadable line = false) : unreadableLines (codeOfLines ls) = [] := by
  rw [unreadableLines_eq_nil_iff_filledLines, codeOfLines_eq_trim_unlines, Text.filledLines_trim]
  intro line hline
  cases ls with
  | nil => contradiction
  | cons first rest =>
    rw [Text.filledLines, Text.lines_unlines (List.cons_ne_nil first rest) hn] at hline
    obtain ⟨line, hmem, rfl⟩ := List.mem_map.1 (List.mem_filter.1 hline).1
    rw [isUnreadable_trim]
    exact h line hmem

/-- The code of lines none of which ends with a carriage return holds no pair. -/
lemma not_pair_codeOfLines (hn : ∀ line ∈ ls, '\n' ∉ line)
    (h : ∀ line ∈ ls, Text.withoutReturn line = line) : ¬ Text.pair <:+: codeOfLines ls := by
  have hunlines : ¬ Text.pair <:+: Text.unlines ls := by
    rw [← Text.joinCrLf_eq_self_iff]
    cases ls with
    | nil => rfl
    | cons first rest =>
      rw [Text.joinCrLf_eq_self_iff_lines, Text.lines_unlines (List.cons_ne_nil first rest) hn]
      exact fun line hline => h line (List.mem_of_mem_dropLast hline)
  obtain ⟨front, back, -, -, htrim⟩ := (Text.unlines ls).exists_eq_append_trim
  rw [codeOfLines_eq_trim_unlines]
  intro hpair
  refine hunlines (hpair.trans ⟨front, back, ?_⟩)
  rw [List.append_assoc, ← htrim]

end Lines

/-! ## Blocks -/

/-- A block under an identifier whose lines so far have a property and are not lost. -/
structure Block.IsMadeOf (P : Text → Prop) (b : Block) : Prop where
  /-- The name is an identifier. -/
  name : isIdentifier b.name = true
  /-- The lines have the property. -/
  body : ∀ line ∈ b.body, P line
  /-- No line is lost. -/
  readable : ∀ line ∈ b.body, isUnreadable line = false

/-- Another line that has the property and does not close the block leaves it so. -/
lemma Block.IsMadeOf.add {P : Text → Prop} {b : Block} (h : b.IsMadeOf P) {line : Text}
    (hline : P line) (hclosing : isClosing line.trim = false) : (b.add line).IsMadeOf P := by
  unfold Block.add
  split
  · exact h
  · rename_i hcomment
    have hreadable : isUnreadable line = false := by
      rw [isUnreadable, hclosing, Bool.eq_false_iff.2 hcomment, Bool.or_self]
    exact ⟨h.name, List.forall_mem_cons.2 ⟨hline, h.body⟩,
      List.forall_mem_cons.2 ⟨hreadable, h.readable⟩⟩

/-- A block that is said was closed, so it is under an identifier and has the code of lines in front
of the last one that are not lost. -/
lemma exists_body_of_mem_blocks {P : Text → Prop} {current : Option Block} {number : Nat}
    {ls : List Text} (hls : ∀ line ∈ ls.dropLast, P line) (hcurrent : ∀ b ∈ current, b.IsMadeOf P)
    {block : Text × Text} (hblock : block ∈ blocks (entriesFrom current number ls)) :
    isIdentifier block.1 = true ∧ ∃ body, block.2 = codeOfLines body ∧
      ∀ line ∈ body, P line ∧ isUnreadable line = false := by
  have htail : ∀ {line : Text} {rest : List Text}, (∀ l ∈ (line :: rest).dropLast, P l) →
      ∀ l ∈ rest.dropLast, P l := by
    intro line rest h l hl
    cases rest with
    | nil => contradiction
    | cons next rest => exact h l (List.mem_cons_of_mem line hl)
  fun_induction entriesFrom current number ls with
  | case1 => contradiction
  | case2 => contradiction
  | case3 b number line rest hclosing ih =>
    rcases List.mem_cons.1 hblock with rfl | hblock
    · have hb := hcurrent b rfl
      refine ⟨hb.name, b.body.reverse, rfl, fun l hl => ?_⟩
      rw [List.mem_reverse] at hl
      exact ⟨hb.body l hl, hb.readable l hl⟩
    · exact ih (htail hls) (by simp) hblock
  | case4 b number line rest hclosing ih =>
    cases rest with
    | nil => contradiction
    | cons next rest =>
      refine ih (htail hls) (fun b' hb' => ?_) hblock
      obtain rfl := Option.some.inj hb'
      exact (hcurrent b rfl).add (hls line List.mem_cons_self) (Bool.eq_false_iff.2 hclosing)
  | case5 number line rest hline ih => exact ih (htail hls) (by simp) hblock
  | case6 number line rest name hline ih =>
    refine ih (htail hls) (fun b hb => ?_) hblock
    obtain rfl := Option.some.inj hb
    have hname := hasIdentifiers_ofText line
    rw [hline] at hname
    exact ⟨hname, List.forall_mem_nil _, List.forall_mem_nil _⟩
  | case7 number line rest source target hline ih => exact ih (htail hls) (by simp) hblock
  | case8 number line rest hline ih => exact ih (htail hls) (by simp) hblock

/-- A name and a code as blocks have them: the name is an identifier, and the code is trimmed and
loses no line when it is read again. -/
structure IsSettled (block : Text × Text) : Prop where
  /-- The name is an identifier. -/
  name : isIdentifier block.1 = true
  /-- The code is trimmed. -/
  trim : block.2.trim = block.2
  /-- The code loses no line. -/
  readable : unreadableLines block.2 = []

/-- The blocks of a text are settled. -/
lemma isSettled_of_mem_blocks {s : Text} {block : Text × Text} (h : block ∈ blocks (entries s)) :
    IsSettled block := by
  have hls : ∀ line ∈ s.joinCrLf.lines.dropLast, '\n' ∉ line := fun line hline =>
    Text.newline_not_mem_of_mem_lines (List.mem_of_mem_dropLast hline)
  obtain ⟨hname, body, hcode, hbody⟩ := exists_body_of_mem_blocks hls (by simp) h
  refine ⟨hname, ?_, ?_⟩
  · rw [hcode, codeOfLines, Text.trim_trim]
  · rw [hcode]
    exact unreadableLines_codeOfLines (fun l hl => (hbody l hl).1) fun l hl => (hbody l hl).2

/-- The code of a block of a text holds no pair of carriage return and line feed unless the text has
a carriage return in front of one. -/
lemma not_pair_of_mem_blocks {s : Text} (hs : ¬ '\r' :: Text.pair <:+: s) {block : Text × Text}
    (h : block ∈ blocks (entries s)) : ¬ Text.pair <:+: block.2 := by
  have hjoined : s.joinCrLf.joinCrLf = s.joinCrLf := by
    rwa [Text.joinCrLf_eq_self_iff, Text.pair_joinCrLf_iff]
  rw [Text.joinCrLf_eq_self_iff_lines] at hjoined
  have hls : ∀ line ∈ s.joinCrLf.lines.dropLast, '\n' ∉ line ∧ Text.withoutReturn line = line :=
    fun line hline =>
      ⟨Text.newline_not_mem_of_mem_lines (List.mem_of_mem_dropLast hline), hjoined line hline⟩
  obtain ⟨-, body, hcode, hbody⟩ := exists_body_of_mem_blocks hls (by simp) h
  rw [hcode]
  exact not_pair_codeOfLines (fun l hl => (hbody l hl).1.1) fun l hl => (hbody l hl).1.2

/-! ## Events -/

/-- An event is one of the blocks. -/
lemma mem_blocks_of_mem_events {strict : Bool} {es : List Entry} {e : Text × Text}
    (he : e ∈ events strict es) : e ∈ blocks es := by
  rw [events_eq_map] at he
  obtain ⟨name, hname, rfl⟩ := List.mem_map.1 he
  have hsome : (countingBlock? strict es name).isSome = true :=
    countingBlock?_isSome (List.mem_eraseDups.1 hname)
  obtain ⟨block, hblock⟩ := Option.isSome_iff_exists.1 hsome
  have hmem : block ∈ blocks es := by
    have := List.mem_of_find?_eq_some hblock
    cases strict
    · exact List.mem_reverse.1 this
    · exact this
  have hfirst : block.1 = name := by simpa using List.find?_some hblock
  rw [hblock]
  exact hfirst ▸ hmem

/-- The names of the events are distinct. -/
lemma nodup_keys_events (strict : Bool) (es : List Entry) : (events strict es).keys.Nodup := by
  rw [keys_events]
  exact Dictionary.nodup_eraseDups _

/-! ## Documents -/

/-- The events of nodes at positions. -/
lemma map_event_placeEvents {es : Dictionary Text Text} {positions : List Position}
    (h : positions.length = es.length) :
    (placeEvents es positions).map Node.event = es.map fun e => eventOf e.1 e.2 := by
  have hfirst : (es.zip positions).map Prod.fst = es := List.map_fst_zip h.ge
  conv_rhs => rw [← hfirst]
  rw [placeEvents, List.map_map, List.map_map]
  rfl

/-- Whatever is looked at of what was read is that of the document and the remarks. -/
lemma map_read {α : Type} (f : Document → List Diagnostic → α) (strict : Bool) (grid : Grid)
    (s : Text) :
    ((read strict grid s).map fun r => f r.document r.diagnostics) =
      (documentOf strict grid (entries s)).map fun d => f d (diagnostics strict (entries s)) := by
  rw [read_eq]
  cases documentOf strict grid (entries s) <;> rfl

section Read

variable {strict : Bool} {grid : Grid} {s : Text} {reading : Reading}

/-- A document that was read has its events at the positions that the grid hands out for them, and
the connections that the text says. -/
lemma exists_positions_of_read (h : read strict grid s = .ok reading) :
    ∃ positions, grid.positions (events strict (entries s)).length = .ok positions ∧
      positions.length = (events strict (entries s)).length ∧
      reading.document =
        { config := none
          nodes := placeEvents (events strict (entries s)) positions
          edges := (connections (entries s)).map fun c => connectionOf c.1 c.2 } ∧
      reading.diagnostics = diagnostics strict (entries s) := by
  rw [read_eq] at h
  obtain ⟨d, hd, rfl⟩ := map_eq_ok_iff.1 h
  obtain ⟨positions, hpositions, rfl⟩ := map_eq_ok_iff.1 hd
  exact ⟨positions, hpositions, Grid.length_positionsFrom hpositions, rfl, rfl⟩

/-- The events of a document that was read are those of the text. -/
lemma events_of_read (h : read strict grid s = .ok reading) :
    reading.document.events = (events strict (entries s)).map fun e => eventOf e.1 e.2 := by
  obtain ⟨positions, -, hlength, hdocument, -⟩ := exists_positions_of_read h
  rw [hdocument]
  exact map_event_placeEvents hlength

/-- The connections of a document that was read. -/
lemma edges_of_read (h : read strict grid s = .ok reading) :
    reading.document.edges = (connections (entries s)).map fun c => connectionOf c.1 c.2 := by
  obtain ⟨positions, -, -, hdocument, -⟩ := exists_positions_of_read h
  rw [hdocument]

/-- The names of the events of a document that was read. -/
lemma map_name_events_of_read (h : read strict grid s = .ok reading) :
    reading.document.events.map Event.name = (events strict (entries s)).keys.map .given := by
  rw [events_of_read h, List.map_map, Dictionary.keys, List.map_map]
  rfl

/-- The names of the events of a document that was read are distinct. -/
lemma nodup_names_of_read (h : read strict grid s = .ok reading) :
    (reading.document.events.map fun e => e.name.text).Nodup := by
  rw [events_of_read h, List.map_map]
  exact nodup_keys_events strict (entries s)

/-- The id of a node that was read is that of its name. -/
lemma id_eq_of_mem_nodes_of_read (h : read strict grid s = .ok reading) {n : Node}
    (hn : n ∈ reading.document.nodes) : n.id = eventIdOfName n.event.name.text := by
  obtain ⟨positions, -, -, hdocument, -⟩ := exists_positions_of_read h
  rw [hdocument] at hn
  obtain ⟨⟨e, p⟩, -, rfl⟩ := List.mem_map.1 hn
  rfl

/-- What is remarked on an entry of a text is among the remarks on the text. -/
lemma exists_seen_of_read (h : read strict grid s = .ok reading) {e : Entry}
    (he : e ∈ entries s) :
    ∃ seen, ∀ c ∈ concerns strict (events strict (entries s)).keys seen e.item,
      ⟨c, e.line⟩ ∈ reading.diagnostics := by
  obtain ⟨positions, -, -, -, hdiagnostics⟩ := exists_positions_of_read h
  rw [hdiagnostics]
  exact exists_seen_of_mem he strict _ []

end Read

/-! ## Reading succeeds -/

/-- Every block has a line that closes it. -/
lemma length_blocks_le (current : Option Block) (number : Nat) (ls : List Text) :
    (blocks (entriesFrom current number ls)).length ≤ ls.length := by
  fun_induction entriesFrom current number ls with
  | case1 => exact le_rfl
  | case2 => exact le_rfl
  | case3 b number line rest hclosing ih => exact Nat.succ_le_succ ih
  | case4 b number line rest hclosing ih => exact ih.trans (Nat.le_succ _)
  | case5 number line rest hline ih => exact ih.trans (Nat.le_succ _)
  | case6 number line rest name hline ih => exact ih.trans (Nat.le_succ _)
  | case7 number line rest source target hline ih => exact ih.trans (Nat.le_succ _)
  | case8 number line rest hline ih => exact ih.trans (Nat.le_succ _)

/-- A text has at most one event more than it has characters. -/
lemma length_events_entries_le (strict : Bool) (s : Text) :
    (events strict (entries s)).length ≤ s.length + 1 := by
  calc (events strict (entries s)).length
      = ((blocks (entries s)).map Prod.fst).eraseDups.length := by
        rw [← keys_events strict, Dictionary.keys, List.length_map]
    _ ≤ (blocks (entries s)).length := by
        rw [← List.length_map Prod.fst]
        exact (Dictionary.eraseDups_sublist _).length_le
    _ ≤ s.joinCrLf.lines.length := length_blocks_le none 1 _
    _ = s.lines.length := by rw [Text.lines_joinCrLf, Text.length_ended]
    _ ≤ s.length + 1 := s.length_lines_le

/-- Any text of a length that a text can have is read, with its events on the standard grid. -/
lemma exists_read (strict : Bool) {s : Text} (h : s.length < 10 ^ 300) :
    ∃ reading, read strict Grid.standard s = .ok reading := by
  have hpositions := Grid.standard_positions ((length_events_entries_le strict s).trans h)
  rw [read_eq, documentOf, hpositions]
  exact ⟨_, rfl⟩

/-- A short text is of such a length. -/
lemma length_lt_of_short {s : Text} (h : s.length < 10 ^ 2) : s.length < 10 ^ 300 := by
  have hpow : ∀ m, 2 ≤ m → s.length < 10 ^ m := fun m hm =>
    h.trans_le (Nat.pow_le_pow_right (by decide) hm)
  exact hpow 300 (by decide)

end Pointy

end EventPipeline
