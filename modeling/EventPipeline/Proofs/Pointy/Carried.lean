import EventPipeline.Pointy.Writer
import EventPipeline.Proofs.Pointy.Entries
import EventPipeline.Proofs.Pointy.Line

/-!
# What a written text says

A document whose names are identifiers and whose code holds no line that closes a block is written
as a text that says exactly the following, in this order: a block for every event, with the code
that pointy text carries (`carriedCode`), and a connection for every connection between nodes of the
document. `entries_write` gives the entries with their lines.

Code is written as it is, so the proof has to see that nothing around it is changed by it: it may
end with a carriage return, which then meets the line feed behind it, and it may hold anything that
looks like a header or a connection, which is of no account inside a block.
-/

namespace EventPipeline.Pointy

/-! ## Code -/

/-- The code that pointy text carries: carriage returns in front of line feeds go, comment lines are
left out, and the whole is trimmed. -/
def carriedCode (code : Text) : Text :=
  (Text.unlines (code.joinCrLf.lines.filter fun line => !isComment line.trim)).trim

/-- The code of lines is their text, trimmed. -/
lemma codeOfLines_eq_trim_unlines (ls : List Text) : codeOfLines ls = (Text.unlines ls).trim := by
  have hjoin : ∀ l (ls : List Text),
      (l :: ls).flatMap (· ++ ['\n']) = Text.unlines (l :: ls) ++ ['\n'] := by
    intro l ls
    induction ls generalizing l with
    | nil => simp [Text.unlines]
    | cons next rest ih =>
      rw [List.flatMap_cons, ih next]
      simp [Text.unlines, List.intercalate_cons_cons]
  cases ls with
  | nil => rfl
  | cons l ls => rw [codeOfLines, hjoin, Text.trim_append_newline]

/-- A carriage return at the end of the last line does not count for the code of lines. -/
lemma codeOfLines_append_withoutReturn (ls : List Text) (l : Text) :
    codeOfLines (ls ++ [Text.withoutReturn l]) = codeOfLines (ls ++ [l]) := by
  simp only [codeOfLines, List.flatMap_append, List.flatMap_singleton]
  rw [← List.append_assoc, Text.trim_append_newline, Text.trim_append_withoutReturn,
    ← Text.trim_append_newline, List.append_assoc]

/-- The code of lines that have all lost a carriage return at their end is the carried code. -/
lemma codeOfLines_withoutReturn (code : Text) :
    codeOfLines ((code.lines.map Text.withoutReturn).filter fun l => !isComment l.trim) =
      carriedCode code := by
  obtain ⟨front, last, hl⟩ : ∃ front last, code.lines = front ++ [last] :=
    ⟨_, _, (List.dropLast_concat_getLast (Text.lines_ne_nil code)).symm⟩
  rw [carriedCode, Text.lines_joinCrLf, ← codeOfLines_eq_trim_unlines, hl, List.map_append,
    Text.ended_append (List.cons_ne_nil last []), List.filter_append, List.filter_append,
    List.map_singleton]
  by_cases hc : isComment last.trim = true
  · simp [Text.ended, Text.trim_withoutReturn, hc]
  · simpa [Text.ended, Text.trim_withoutReturn, hc] using codeOfLines_append_withoutReturn _ last

/-! ## Lines -/

/-- The line that opens the block of an event. -/
def headerLine (e : Event) : Text :=
  e.name.text ++ [' ', '{']

/-- The line of a connection between two names. -/
def linkLine (ends : Text × Text) : Text :=
  ends.1 ++ [' ', '-', '>', ' '] ++ ends.2

/-- The lines of the block of an event and the empty one behind it. -/
def blockLines (e : Event) : List Text :=
  headerLine e :: (e.code.lines ++ ['}'] :: [[]])

/-- An event that pointy text can carry: its name is an identifier, and no line of its code closes
a block. -/
structure Carries (e : Event) : Prop where
  /-- The name is an identifier. -/
  name : e.name.isIdentifier = true
  /-- No line of the code is only a closing brace. -/
  code : ∀ line ∈ e.code.lines, isClosing line.trim = false

/-- The name of an event that can be carried is an identifier as a text. -/
lemma Carries.isIdentifier {e : Event} (h : Carries e) : isIdentifier e.name.text = true := by
  have hn := h.name
  cases hname : e.name with
  | given name =>
    rw [hname] at hn
    exact hn
  | blank value =>
    rw [hname] at hn
    contradiction

/-- The name of an event that can be carried is not null. -/
lemma Carries.isNull {e : Event} (h : Carries e) : e.name.isNull = false := by
  have hn := h.name
  cases hname : e.name with
  | given name => rfl
  | blank value =>
    rw [hname] at hn
    contradiction

/-- A text behind the block of an event begins on a line of its own. -/
lemma lines_block_append {e : Event} (h : Carries e) (rest : Text) :
    (block e ++ rest).lines = blockLines e ++ rest.lines := by
  have hheader : '\n' ∉ headerLine e := by
    simpa [headerLine] using newline_not_mem_of_isIdentifier h.isIdentifier
  have hblock : block e ++ rest =
      headerLine e ++ '\n' :: (e.code ++ '\n' :: (['}'] ++ '\n' :: ([] ++ '\n' :: rest))) := by
    simp [block, headerLine]
  rw [hblock]
  simp only [Text.lines_append_newline]
  rw [Text.lines_of_not_mem hheader]
  simp [blockLines, Text.lines_of_not_mem]

/-- A text behind a connection line begins on a line of its own. -/
lemma lines_link_append {ends : Text × Text} (h : '\n' ∉ linkLine ends) (rest : Text) :
    (link ends.1 ends.2 ++ rest).lines = linkLine ends :: rest.lines := by
  have hlink : link ends.1 ends.2 ++ rest = linkLine ends ++ '\n' :: rest := by
    simp [link, linkLine]
  rw [hlink, Text.lines_append_newline, Text.lines_of_not_mem h, List.singleton_append]

/-- A text behind blocks begins on a line of its own. -/
lemma lines_blocks_append {es : List Event} (h : ∀ e ∈ es, Carries e) (rest : Text) :
    Text.lines (es.flatMap block ++ rest) = es.flatMap blockLines ++ rest.lines := by
  induction es with
  | nil => rfl
  | cons e es ih =>
    rw [List.flatMap_cons, List.append_assoc, lines_block_append (h e List.mem_cons_self),
      ih fun e' he' => h e' (List.mem_cons_of_mem e he'), List.flatMap_cons, List.append_assoc]

/-- The text of connection lines ends with an empty line. -/
lemma lines_links {ls : List (Text × Text)} (h : ∀ l ∈ ls, '\n' ∉ linkLine l) :
    Text.lines (ls.flatMap fun l => link l.1 l.2) = ls.map linkLine ++ [[]] := by
  induction ls with
  | nil => rfl
  | cons l ls ih =>
    rw [List.flatMap_cons, lines_link_append (h l List.mem_cons_self),
      ih fun l' hl' => h l' (List.mem_cons_of_mem l hl'), List.map_cons, List.cons_append]

/-! ## Entries -/

/-- The entries of blocks of events from a line on. -/
def blockEntries : (number : Nat) → List Event → List Entry
  | _, [] => []
  | number, e :: rest =>
    ⟨number, .event e.name.text (carriedCode e.code)⟩ ::
      blockEntries (number + e.code.lines.length + 3) rest

/-- The entries of connections from a line on. -/
def linkEntries : (number : Nat) → List (Text × Text) → List Entry
  | _, [] => []
  | number, l :: rest => ⟨number, .connection l.1 l.2⟩ :: linkEntries (number + 1) rest

/-- The number of lines of the blocks of events. -/
def blockHeight : List Event → Nat
  | [] => 0
  | e :: rest => e.code.lines.length + 3 + blockHeight rest

/-- The block of an event, with carriage returns taken off its lines, is one entry. -/
lemma entriesFrom_blockLines {e : Event} (h : Carries e) (number : Nat) (rest : List Text) :
    entriesFrom none number ((blockLines e).map Text.withoutReturn ++ rest) =
      ⟨number, .event e.name.text (carriedCode e.code)⟩ ::
        entriesFrom none (number + e.code.lines.length + 3) rest := by
  have hopen : Line.ofText (headerLine e) = .header e.name.text := ofText_header h.isIdentifier
  have hheader : Text.withoutReturn (headerLine e) = headerLine e :=
    Text.withoutReturn_of_getLast?_ne (by simp [headerLine])
  have hbody : ∀ l ∈ e.code.lines.map Text.withoutReturn, isClosing l.trim = false := by
    intro l hl
    obtain ⟨line, hline, rfl⟩ := List.mem_map.1 hl
    rw [Text.trim_withoutReturn]
    exact h.code line hline
  have hlines : (blockLines e).map Text.withoutReturn ++ rest =
      headerLine e :: (e.code.lines.map Text.withoutReturn ++ ['}'] :: ([] :: rest)) := by
    simp only [blockLines, List.map_cons, List.map_append, List.map_nil, hheader]
    simp [Text.withoutReturn]
  rw [hlines, entriesFrom_block hopen hbody (by decide),
    codeOfLines_withoutReturn, entriesFrom_nil_line, List.length_map]

/-- Blocks of events, with carriage returns taken off their lines, are one entry each. -/
lemma entriesFrom_blocks {es : List Event} (h : ∀ e ∈ es, Carries e) (number : Nat)
    (rest : List Text) :
    entriesFrom none number ((es.flatMap blockLines).map Text.withoutReturn ++ rest) =
      blockEntries number es ++ entriesFrom none (number + blockHeight es) rest := by
  induction es generalizing number with
  | nil => rfl
  | cons e es ih =>
    rw [List.flatMap_cons, List.map_append, List.append_assoc,
      entriesFrom_blockLines (h e List.mem_cons_self),
      ih fun e' he' => h e' (List.mem_cons_of_mem e he')]
    simp only [blockEntries, blockHeight, List.cons_append]
    congr 3
    omega

/-- Connection lines between identifiers are one entry each. -/
lemma entriesFrom_links {ls : List (Text × Text)}
    (h : ∀ l ∈ ls, isIdentifier l.1 = true ∧ isIdentifier l.2 = true) (number : Nat) :
    entriesFrom none number (ls.map linkLine ++ [[]]) = linkEntries number ls := by
  induction ls generalizing number with
  | nil => rw [List.map_nil, List.nil_append, entriesFrom_nil_line]; rfl
  | cons l ls ih =>
    obtain ⟨hs, ht⟩ := h l List.mem_cons_self
    have hl : Line.ofText (linkLine l) = .connection l.1 l.2 := ofText_connection hs ht
    rw [List.map_cons, List.cons_append, entriesFrom_connection hl,
      ih fun l' hl' => h l' (List.mem_cons_of_mem l hl')]
    rfl

/-- A connection line between identifiers holds no line feed. -/
lemma newline_not_mem_linkLine {l : Text × Text}
    (h : isIdentifier l.1 = true ∧ isIdentifier l.2 = true) : '\n' ∉ linkLine l := by
  simp [linkLine, newline_not_mem_of_isIdentifier h.1, newline_not_mem_of_isIdentifier h.2]

/-- A connection line between identifiers does not end with a carriage return. -/
lemma withoutReturn_linkLine {l : Text × Text}
    (h : isIdentifier l.1 = true ∧ isIdentifier l.2 = true) :
    Text.withoutReturn (linkLine l) = linkLine l := by
  refine Text.withoutReturn_of_getLast?_ne fun hr => ?_
  have hmem : '\r' ∈ linkLine l := List.mem_of_getLast? hr
  simp only [linkLine, List.mem_append] at hmem
  rcases hmem with (hmem | hmem) | hmem
  · exact absurd (isIdentifierPart_of_mem h.1 hmem) (by decide)
  · exact absurd hmem (by decide)
  · exact absurd (isIdentifierPart_of_mem h.2 hmem) (by decide)

/-- The text of events that can be carried and of connections between identifiers says just that. -/
lemma entries_blocks_links {es : List Event} (hes : ∀ e ∈ es, Carries e) {ls : List (Text × Text)}
    (hls : ∀ l ∈ ls, isIdentifier l.1 = true ∧ isIdentifier l.2 = true) :
    entries (es.flatMap block ++ ls.flatMap fun l => link l.1 l.2) =
      blockEntries 1 es ++ linkEntries (1 + blockHeight es) ls := by
  have hlinks : (ls.map linkLine).map Text.withoutReturn = ls.map linkLine := by
    rw [List.map_map]
    exact List.map_congr_left fun l hl => withoutReturn_linkLine (hls l hl)
  rw [entries, Text.lines_joinCrLf, lines_blocks_append hes,
    lines_links fun l hl => newline_not_mem_linkLine (hls l hl), ← List.append_assoc,
    Text.ended_append (List.cons_ne_nil [] []), List.map_append, List.append_assoc, hlinks,
    entriesFrom_blocks hes]
  congr 1
  exact entriesFrom_links hls _

end EventPipeline.Pointy
