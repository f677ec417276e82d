import EventPipeline.Proofs.Pointy.Remarks
import EventPipeline.Proofs.Pointy.Token

/-!
# Which lines are recognized

The reader cuts a line into tokens and looks at their kinds. Here the lines that it recognizes are
described by their characters alone: a header is an identifier, a gap, an opening brace and anything
(`IsHeaderLine`), a connection is two identifiers with an arrow between them and gaps around it
(`IsConnectionLine`), where a gap is any run of the three characters that are passed over between
tokens. Both descriptions are equivalences (`ofText_eq_header_iff`, `ofText_eq_connection_iff`).
They rest on what is known of a first token: the text is a gap, the characters of the token, and a
rest that the other tokens are cut from (`exists_of_tokensFrom_eq_cons`).

What a line does to the whole reading follows (`entries_line_iff`). A line that is met outside of
blocks opens a block just if it is a header line, says a connection just if it is a connection line,
and otherwise makes one remark and one note: apart from these, the reading is that of the text in
which the line is left empty.
-/

namespace EventPipeline

/-! ## Texts with a line left empty -/

namespace Text

/-- The text with one of its lines, counted from zero, left empty. -/
def blankLine (s : Text) (i : Nat) : Text :=
  unlines (s.lines.set i [])

/-- An empty line has no carriage return to lose. -/
lemma ended_set_nil (ls : List Text) (i : Nat) : ended (ls.set i []) = (ended ls).set i [] := by
  fun_induction ended ls generalizing i with
  | case1 => rfl
  | case2 line => cases i <;> rfl
  | case3 line next rest ih =>
    cases i with
    | zero => rfl
    | succ i =>
      obtain ⟨first, more, hset⟩ : ∃ first more, (next :: rest).set i [] = first :: more := by
        cases i <;> exact ⟨_, _, rfl⟩
      rw [List.set_cons_succ, List.set_cons_succ, ← ih, hset, ended]

/-- All other lines stay when one is left empty. -/
lemma lines_joinCrLf_blankLine (s : Text) (i : Nat) :
    (s.blankLine i).joinCrLf.lines = s.joinCrLf.lines.set i [] := by
  have hne : s.lines.set i [] ≠ [] := by
    rw [Ne, List.set_eq_nil_iff]
    exact lines_ne_nil s
  have hnewline : ∀ line ∈ s.lines.set i [], '\n' ∉ line := by
    intro line hline
    rcases List.mem_or_eq_of_mem_set hline with hline | rfl
    · exact newline_not_mem_of_mem_lines hline
    · exact List.not_mem_nil
  rw [lines_joinCrLf, blankLine, lines_unlines hne hnewline, ended_set_nil, lines_joinCrLf]

end Text

namespace Pointy

/-! ## The grammar of lines -/

/-- A line that opens a block: a name, which is the longest run of letters, digits and underscores
in front and does not begin with a digit, a gap, an opening brace, and anything. -/
def IsHeaderLine (name line : Text) : Prop :=
  name = line.takeWhile isIdentifierPart ∧ name ≠ [] ∧ (∀ c ∈ name.head?, c.isDigit = false) ∧
    ∃ gap rest, IsGap gap ∧ line = name ++ (gap ++ '{' :: rest)

/-- A line that connects: two identifiers with an arrow between them, and gaps around the arrow. -/
def IsConnectionLine (source target line : Text) : Prop :=
  isIdentifier source = true ∧ isIdentifier target = true ∧
    ∃ gap gap', IsGap gap ∧ IsGap gap' ∧
      line = source ++ (gap ++ '-' :: '>' :: (gap' ++ target))

/-! ## Gaps -/

/-- The characters of gaps are blanks. -/
lemma isBlank_of_isGap {gap : Text} (h : IsGap gap) : ∀ c ∈ gap, Text.isBlank c = true := by
  intro c hc
  rcases h c hc with rfl | rfl | rfl <;> decide

/-- No gap goes on with an identifier. -/
lemma isIdentifierPart_head?_gap {gap : Text} (h : IsGap gap) {c : Char} (rest : Text)
    (hc : isIdentifierPart c = false) :
    ∀ d ∈ (gap ++ c :: rest).head?, isIdentifierPart d = false := by
  cases gap with
  | nil => simpa using hc
  | cons first more =>
    rintro d ⟨⟩
    have hblank := isBlank_of_isGap h first List.mem_cons_self
    by_contra hpart
    rw [isBlank_of_isIdentifierPart (Bool.eq_true_of_not_eq_false hpart)] at hblank
    contradiction

/-- A text that does not begin with a blank does not begin with a gap. -/
lemma eq_nil_of_isGap {gap rest : Text} (h : IsGap gap)
    (hhead : ∀ c ∈ (gap ++ rest).head?, Text.isBlank c = false) : gap = [] := by
  cases gap with
  | nil => rfl
  | cons c more =>
    have hblank := isBlank_of_isGap h c List.mem_cons_self
    rw [hhead c rfl] at hblank
    contradiction

/-- A text that does not end with a blank does not end with a gap. -/
lemma eq_nil_of_isGap_right {s gap : Text} (h : IsGap gap)
    (hlast : ∀ c ∈ (s ++ gap).getLast?, Text.isBlank c = false) : gap = [] := by
  rcases List.eq_nil_or_concat' gap with rfl | ⟨front, c, rfl⟩
  · rfl
  · have hblank := isBlank_of_isGap h c List.mem_concat_self
    rw [hlast c (by rw [← List.append_assoc, List.getLast?_concat]; rfl)] at hblank
    contradiction

/-! ## What a line says -/

/-- The tokens of a header are a name and an opening brace, and any others. -/
lemma ofTokens_eq_header_iff (ts : List Token) (name : Text) :
    Line.ofTokens ts = .header name ↔
      ∃ t t' more, ts = t :: t' :: more ∧ t.kind = .identifier ∧ t'.kind = .leftBrace ∧
        t.text = name := by
  constructor
  · intro h
    unfold Line.ofTokens at h
    split at h
    · cases h
      exact ⟨_, _, _, rfl, rfl, rfl, rfl⟩
    · cases h
    · cases h
  · rintro ⟨⟨_, _, _⟩, ⟨_, _, _⟩, more, rfl, rfl, rfl, rfl⟩
    rfl

/-- The tokens of a connection are two names with an arrow between them. -/
lemma ofTokens_eq_connection_iff (ts : List Token) (source target : Text) :
    Line.ofTokens ts = .connection source target ↔
      ∃ t t' t'', ts = [t, t', t''] ∧ t.kind = .identifier ∧ t'.kind = .arrow ∧
        t''.kind = .identifier ∧ t.text = source ∧ t''.text = target := by
  constructor
  · intro h
    unfold Line.ofTokens at h
    split at h
    · cases h
    · cases h
      exact ⟨_, _, _, rfl, rfl, rfl, rfl, rfl, rfl⟩
    · cases h
  · rintro ⟨⟨_, _, _⟩, ⟨_, _, _⟩, ⟨_, _, _⟩, rfl, rfl, rfl, rfl, rfl, rfl⟩
    rfl

section Filled

variable {line : Text} (hfilled : line.trim ≠ []) (hcomment : isComment line.trim = false)

include hfilled hcomment

/-- What a line says that is neither blank nor a comment, its tokens say. -/
lemma ofText_eq_ofTokens : Line.ofText line = Line.ofTokens (tokens line.trim) := by
  have hempty : line.trim.isEmpty = false := by simpa using hfilled
  simp only [Line.ofText, hempty, hcomment, Bool.or_self, Bool.false_eq_true, if_false]

/-- A line opens a block just if it is a header line. -/
lemma ofText_eq_header_iff (name : Text) :
    Line.ofText line = .header name ↔ IsHeaderLine name line.trim := by
  obtain ⟨hhead, -⟩ := Text.ends_trim line
  rw [ofText_eq_ofTokens hfilled hcomment, ofTokens_eq_header_iff, tokens]
  constructor
  · rintro ⟨t, t', others, hts, hkind, hkind', rfl⟩
    obtain ⟨gap, rest, hgap, hline, -, hrest, c, more, ht, hlex⟩ := exists_of_tokensFrom_eq_cons hts
    obtain ⟨gap', rest', hgap', rfl, -, -, c', more', ht', hlex'⟩ :=
      exists_of_tokensFrom_eq_cons hrest
    rw [hkind] at hlex
    rw [hkind'] at hlex'
    rw [hline] at hhead
    obtain rfl := eq_nil_of_isGap hgap hhead
    obtain ⟨hidentifier, hlongest⟩ := identifier_of_lexeme hlex
    obtain ⟨hne, -, hdigit⟩ := (isIdentifier_iff _).1 hidentifier
    rw [ht', leftBrace_of_lexeme hlex'] at hline hlongest
    rw [hline, ht]
    exact ⟨hlongest.symm, hne, hdigit, gap', rest', hgap', rfl⟩
  · rintro ⟨hname, hne, hdigit, gap, rest, hgap, hline⟩
    have hidentifier : isIdentifier name = true := by
      refine (isIdentifier_iff name).2 ⟨hne, fun c hc => ?_, hdigit⟩
      rw [hname] at hc
      exact List.mem_takeWhile_imp hc
    rw [hline, tokensFrom_identifier hidentifier (isIdentifierPart_head?_gap hgap rest rfl),
      tokensFrom_gap hgap]
    exact ⟨_, _, _, rfl, rfl, rfl, rfl⟩

/-- A line connects just if it is a connection line. -/
lemma ofText_eq_connection_iff (source target : Text) :
    Line.ofText line = .connection source target ↔
      IsConnectionLine source target line.trim := by
  obtain ⟨hhead, hlast⟩ := Text.ends_trim line
  rw [ofText_eq_ofTokens hfilled hcomment, ofTokens_eq_connection_iff, tokens]
  constructor
  · rintro ⟨t, t', t'', hts, hkind, hkind', hkind'', rfl, rfl⟩
    obtain ⟨gap, rest, hgap, hline, -, hrest, c, more, ht, hlex⟩ := exists_of_tokensFrom_eq_cons hts
    obtain ⟨gap', rest', hgap', rfl, -, hrest', c', more', ht', hlex'⟩ :=
      exists_of_tokensFrom_eq_cons hrest
    obtain ⟨gap'', rest'', hgap'', rfl, -, hrest'', c'', more'', ht'', hlex''⟩ :=
      exists_of_tokensFrom_eq_cons hrest'
    rw [hkind] at hlex
    rw [hkind'] at hlex'
    rw [hkind''] at hlex''
    rw [hline] at hhead
    obtain rfl := eq_nil_of_isGap hgap hhead
    -- Behind the last name there is only a gap, and a trimmed line does not end with one.
    have hend : rest'' = [] := by
      refine eq_nil_of_isGap_right (isGap_of_tokensFrom_eq_nil hrest'') (s :=
        t.text ++ (gap' ++ (t'.text ++ (gap'' ++ t''.text)))) ?_
      rw [hline] at hlast
      simpa only [List.append_assoc, List.nil_append] using hlast
    rw [hend, List.append_nil, ht', arrow_of_lexeme hlex'] at hline
    rw [ht, ht'']
    refine ⟨(identifier_of_lexeme hlex).1, (identifier_of_lexeme hlex'').1, gap', gap'', hgap',
      hgap'', ?_⟩
    rw [hline, ht, ht'']
    rfl
  · rintro ⟨hsource, htarget, gap, gap', hgap, hgap', hline⟩
    have harrow : ∀ position rest, tokensFrom 0 position ('-' :: '>' :: rest) =
        ⟨.arrow, ['-', '>'], position⟩ :: tokensFrom 0 (position + 2) rest := fun _ _ => rfl
    rw [hline, tokensFrom_identifier hsource (isIdentifierPart_head?_gap hgap _ rfl),
      tokensFrom_gap hgap, harrow, tokensFrom_gap hgap', tokensFrom_singleton htarget]
    exact ⟨_, _, _, rfl, rfl, rfl, rfl, rfl, rfl⟩

end Filled

/-- A line whose trimmed form is a header line opens a block. -/
lemma ofText_of_isHeaderLine {name line : Text} (h : IsHeaderLine name line.trim) :
    Line.ofText line = .header name := by
  have hfirst : ∃ c more, line.trim = c :: more ∧ isIdentifierPart c = true := by
    obtain ⟨hname, hne, -, gap, rest, -, hline⟩ := h
    obtain ⟨c, more, rfl⟩ := List.exists_cons_of_ne_nil hne
    have hmem : c ∈ line.trim.takeWhile isIdentifierPart := hname ▸ List.mem_cons_self
    exact ⟨c, _, hline, List.mem_takeWhile_imp hmem⟩
  obtain ⟨c, more, hline, hpart⟩ := hfirst
  refine (ofText_eq_header_iff ?_ ?_ _).2 h
  · rw [hline]
    exact List.cons_ne_nil c more
  · rw [hline]
    by_contra hcomment
    rw [Bool.not_eq_false] at hcomment
    obtain ⟨tail, htail⟩ := List.isPrefixOf_iff_prefix.1 hcomment
    obtain rfl : '/' = c := (List.cons.inj htail).1
    exact absurd hpart (by decide)

/-! ## What a line does to the entries -/

/-- The name of a block, whether it ends or not. -/
def Item.blockName? : Item → Option Text
  | .event name _ => some name
  | .unterminated name => some name
  | _ => none

/-- The first thing that is said when a block is open is that block. -/
lemma head?_entriesFrom_some (b : Block) (number : Nat) (ls : List Text) :
    (entriesFrom (some b) number ls).head?.bind (fun e => e.item.blockName?) = some b.name := by
  induction ls generalizing b number with
  | nil => rfl
  | cons line rest ih =>
    rw [entriesFrom]
    split
    · rfl
    · have hname : (b.add line).name = b.name := (foldl_add_name_line [line] b).1
      rw [ih, hname]

section Line

variable {line : Text} (hsaid : Line.ofText line ≠ .silent) (number : Nat) (rest : List Text)

include hsaid

/-- A line that says something opens a block just if it is a header. -/
lemma entriesFrom_eq_open_iff (name : Text) :
    entriesFrom none number (line :: rest) =
        entriesFrom (some ⟨name, number, []⟩) (number + 1) rest ↔
      Line.ofText line = .header name := by
  constructor
  · intro h
    have hname := head?_entriesFrom_some ⟨name, number, []⟩ (number + 1) rest
    rw [← h] at hname
    cases hl : Line.ofText line with
    | silent => exact absurd hl hsaid
    | header other =>
      rw [entriesFrom_header hl, head?_entriesFrom_some] at hname
      exact congrArg Line.header (Option.some.inj hname)
    | connection source target =>
      rw [entriesFrom_connection hl] at hname
      cases hname
    | unrecognized =>
      rw [entriesFrom, hl] at hname
      cases hname
  · intro h
    exact entriesFrom_header h number rest

/-- A line that says something says a connection just if it is one. -/
lemma entriesFrom_eq_connection_iff (source target : Text) :
    entriesFrom none number (line :: rest) =
        ⟨number, .connection source target⟩ :: entriesFrom none (number + 1) rest ↔
      Line.ofText line = .connection source target := by
  constructor
  · intro h
    have hhead := congrArg List.head? h
    cases hl : Line.ofText line with
    | silent => exact absurd hl hsaid
    | header name =>
      have hname := head?_entriesFrom_some ⟨name, number, []⟩ (number + 1) rest
      rw [← entriesFrom_header hl, hhead] at hname
      cases hname
    | connection source' target' =>
      rw [entriesFrom_connection hl] at hhead
      cases hhead
      rfl
    | unrecognized =>
      rw [entriesFrom, hl] at hhead
      cases hhead
  · intro h
    exact entriesFrom_connection h number rest

end Line

/-- Lines that leave no block open say no block that does not end. -/
lemma closed_of_leftOpen {ls : List Text} (h : leftOpen none ls = none) (number : Nat) :
    Closed (entriesFrom none number ls) := by
  intro e he name hname
  have hmem : Item.unterminated name ∈ outline (entriesFrom none number ls) := by
    refine List.mem_map.2 ⟨e, he, ?_⟩
    rw [hname]
    rfl
  rw [outline_entriesFrom, outlineOfLines, Option.map_none, h, Option.map_none, Option.toList_none,
    List.append_nil, List.mem_filterMap] at hmem
  obtain ⟨⟨current, line⟩, -, hsaid⟩ := hmem
  cases current with
  | none =>
    rw [said] at hsaid
    split at hsaid <;> cases hsaid
  | some other =>
    rw [said] at hsaid
    split at hsaid <;> cases hsaid

/-- What the lines of a text in front of one, counted from zero, say. -/
def entriesBefore (s : Text) (i : Nat) : List Entry :=
  entriesFrom none 1 (s.joinCrLf.lines.take i)

/-- What the lines of a text behind one, counted from zero, say when a block may be open. -/
def entriesBehind (current : Option Block) (s : Text) (i : Nat) : List Entry :=
  entriesFrom current (i + 2) (s.joinCrLf.lines.drop (i + 1))

section Met

variable {s line : Text} {i : Nat} (hline : s.joinCrLf.lines[i]? = some line)
  (houter : leftOpen none (s.joinCrLf.lines.take i) = none)

include hline houter

/-- Reading begins afresh at a line that is met outside of blocks. -/
lemma entries_eq_before_append :
    entries s =
      entriesBefore s i ++ entriesFrom none (i + 1) (line :: s.joinCrLf.lines.drop (i + 1)) := by
  obtain ⟨hi, hget⟩ := List.getElem?_eq_some_iff.1 hline
  have hsplit : s.joinCrLf.lines =
      s.joinCrLf.lines.take i ++ line :: s.joinCrLf.lines.drop (i + 1) := by
    conv_lhs => rw [← List.take_append_drop i s.joinCrLf.lines, List.drop_eq_getElem_cons hi, hget]
  conv_lhs => rw [entries, hsplit]
  rw [entriesFrom_append (closed_of_leftOpen houter 1), List.length_take_of_le hi.le,
    Nat.add_comm 1]
  rfl

/-- What a text says in which a line that is met outside of blocks is left empty. -/
lemma entries_blankLine :
    entries (s.blankLine i) = entriesBefore s i ++ entriesBehind none s i := by
  have hlines := Text.lines_joinCrLf_blankLine s i
  obtain ⟨hi, -⟩ := List.getElem?_eq_some_iff.1 hline
  have hblank : (s.blankLine i).joinCrLf.lines[i]? = some [] := by
    rw [hlines, List.getElem?_set_self hi]
  have hbefore : (s.blankLine i).joinCrLf.lines.take i = s.joinCrLf.lines.take i := by
    rw [hlines, List.take_set_of_le le_rfl]
  have hbehind : (s.blankLine i).joinCrLf.lines.drop (i + 1) = s.joinCrLf.lines.drop (i + 1) := by
    rw [hlines, List.drop_set_of_lt (Nat.lt_succ_self i)]
  rw [entries_eq_before_append hblank (by rwa [hbefore]), entriesBefore, hbefore, hbehind,
    entriesFrom_nil_line]
  rfl

end Met

/-! ## A line that is not understood -/

/-- The names that are declared once entries have been read. -/
def declaredBy (seen : List Text) (es : List Entry) : List Text :=
  es.foldl (fun seen e => e.item.declare seen) seen

/-- The remarks on two lists of entries are those on both. -/
lemma diagnosticsFrom_append (strict : Bool) (declared seen : List Text) (es es' : List Entry) :
    diagnosticsFrom strict declared seen (es ++ es') =
      diagnosticsFrom strict declared seen es ++
        diagnosticsFrom strict declared (declaredBy seen es) es' := by
  induction es generalizing seen with
  | nil => rfl
  | cons e es ih =>
    rw [List.cons_append, diagnosticsFrom, ih, diagnosticsFrom, List.append_assoc]
    rfl

/-- The notes on two lists of entries are those on both. -/
lemma notesFrom_append (strict : Bool) (seen : List Text) (es es' : List Entry) :
    notesFrom strict seen (es ++ es') =
      notesFrom strict seen es ++ notesFrom strict (declaredBy seen es) es' := by
  induction es generalizing seen with
  | nil => rfl
  | cons e es ih =>
    rw [List.cons_append, notesFrom, ih, notesFrom, List.append_assoc]
    rfl

section Insert

variable (strict : Bool) {e : Entry} (hname : e.item.eventName? = none) (front back : List Entry)

include hname

/-- An entry that is no block is no event. -/
lemma events_insert : events strict (front ++ e :: back) = events strict (front ++ back) := by
  have hblocks : blocks (e :: back) = blocks back := by
    obtain ⟨line, item⟩ := e
    cases item with
    | event name code => contradiction
    | _ => rfl
  rw [events, events, foldl_addEvent, foldl_addEvent, blocks_append, blocks_append, hblocks]

/-- An entry that is neither a block nor a connection is no part of the document. -/
lemma documentOf_insert (hends : e.item.ends? = none) (grid : Grid) :
    documentOf strict grid (front ++ e :: back) = documentOf strict grid (front ++ back) := by
  have hconnections : connections (e :: back) = connections back := by
    obtain ⟨line, item⟩ := e
    cases item with
    | connection source target => contradiction
    | _ => rfl
  rw [documentOf, documentOf, events_insert strict hname, connections_append, connections_append,
    hconnections]

end Insert

section Unrecognized

variable (strict : Bool) (front back : List Entry) (number : Nat) (line : Text)

/-- A line that is not understood is no part of the document. -/
lemma documentOf_unrecognized (grid : Grid) :
    documentOf strict grid (front ++ ⟨number, .unrecognized line⟩ :: back) =
      documentOf strict grid (front ++ back) :=
  documentOf_insert strict rfl front back rfl grid

/-- A line that is not understood makes one remark, and changes no other. -/
lemma diagnostics_unrecognized :
    ∃ before behind, diagnostics strict (front ++ back) = before ++ behind ∧
      diagnostics strict (front ++ ⟨number, .unrecognized line⟩ :: back) =
        before ++ ⟨.unrecognized, number⟩ :: behind := by
  have hevents := events_insert strict (e := ⟨number, .unrecognized line⟩) rfl front back
  rw [diagnostics, diagnostics, hevents, diagnosticsFrom_append, diagnosticsFrom_append]
  exact ⟨_, _, rfl, rfl⟩

/-- A line that is not understood makes one note, and changes no other. -/
lemma notesFrom_unrecognized :
    ∃ before behind note, LogRecord.level note = .debug ∧
      notesFrom strict [] (front ++ back) = before ++ behind ∧
        notesFrom strict [] (front ++ ⟨number, .unrecognized line⟩ :: back) =
          before ++ note :: behind := by
  rw [notesFrom_append, notesFrom_append]
  exact ⟨_, _, _, rfl, rfl, rfl⟩

end Unrecognized

/-- A reading that makes one remark and one note more than another one, and is the same
otherwise. -/
structure Reading.AddsRemark (reading other : Reading) (remark : Diagnostic) : Prop where
  /-- The documents are the same. -/
  document : reading.document = other.document
  /-- The remark is one among those of the other reading. -/
  diagnostics : ∃ before behind, other.diagnostics = before ++ behind ∧
    reading.diagnostics = before ++ remark :: behind
  /-- There is one note among those of the other reading, for somebody who looks for a cause. -/
  log : ∃ before behind note, note.level = .debug ∧ other.log = before ++ behind ∧
    reading.log = before ++ note :: behind

/-! ## Readings -/

/-- A line is recognized by its form. Of the lines of a text, take one that is met outside of blocks
and is neither blank nor a comment. It opens a block of a name just if it is a header line with that
name, and it says a connection just if it is a connection line with those ends. When it is neither,
the reading has one remark on it, and is otherwise the reading of the text in which the line is left
empty. -/
theorem entries_line_iff {s line : Text} {i : Nat} (hline : s.joinCrLf.lines[i]? = some line)
    (houter : leftOpen none (s.joinCrLf.lines.take i) = none) (hfilled : line.trim ≠ [])
    (hcomment : isComment line.trim = false) :
    (∀ name, entries s = entriesBefore s i ++ entriesBehind (some ⟨name, i + 1, []⟩) s i ↔
      IsHeaderLine name line.trim) ∧
    (∀ source target,
      entries s =
          entriesBefore s i ++ ⟨i + 1, .connection source target⟩ :: entriesBehind none s i ↔
        IsConnectionLine source target line.trim) ∧
    ((∀ name, ¬ IsHeaderLine name line.trim) →
      (∀ source target, ¬ IsConnectionLine source target line.trim) →
      Concern.unrecognized.message = "Unrecognized line ignored".toList ∧
      ∀ strict grid,
        (read strict grid s).map Reading.document =
          (read strict grid (s.blankLine i)).map Reading.document ∧
        ∀ reading blank, read strict grid s = .ok reading →
          read strict grid (s.blankLine i) = .ok blank →
            reading.AddsRemark blank ⟨.unrecognized, i + 1⟩) := by
  have hsaid : Line.ofText line ≠ .silent := by
    rw [Ne, ofText_eq_silent_iff, not_or]
    exact ⟨hfilled, by simp [hcomment]⟩
  have hentries := entries_eq_before_append hline houter
  refine ⟨fun name => ?_, fun source target => ?_, fun hheader hconnection => ⟨rfl, ?_⟩⟩
  · rw [← ofText_eq_header_iff hfilled hcomment, hentries, List.append_right_inj]
    exact entriesFrom_eq_open_iff hsaid (i + 1) _ name
  · rw [← ofText_eq_connection_iff hfilled hcomment, hentries, List.append_right_inj]
    exact entriesFrom_eq_connection_iff hsaid (i + 1) _ source target
  · intro strict grid
    have hunrecognized : Line.ofText line = .unrecognized := by
      cases hl : Line.ofText line with
      | silent => exact absurd hl hsaid
      | header name =>
        exact absurd ((ofText_eq_header_iff hfilled hcomment name).1 hl) (hheader name)
      | connection source target =>
        exact absurd ((ofText_eq_connection_iff hfilled hcomment source target).1 hl)
          (hconnection source target)
      | unrecognized => rfl
    have hwith : entries s =
        entriesBefore s i ++ ⟨i + 1, .unrecognized line⟩ :: entriesBehind none s i := by
      rw [hentries, entriesFrom, hunrecognized]
      rfl
    have hwithout := entries_blankLine hline houter
    have hdocument : documentOf strict grid (entries s) =
        documentOf strict grid (entries (s.blankLine i)) := by
      rw [hwith, hwithout, documentOf_unrecognized]
    refine ⟨?_, fun reading blank hreading hblank => ?_⟩
    · simp only [read_eq, hdocument]
      cases documentOf strict grid (entries (s.blankLine i)) <;> rfl
    · rw [read_eq] at hreading hblank
      obtain ⟨d, hd, rfl⟩ := map_eq_ok_iff.1 hreading
      obtain ⟨d', hd', rfl⟩ := map_eq_ok_iff.1 hblank
      refine ⟨?_, ?_, ?_⟩
      · rw [hdocument, hd'] at hd
        exact (Except.ok.inj hd).symm
      · show ∃ before behind, diagnostics strict (entries (s.blankLine i)) = before ++ behind ∧
          diagnostics strict (entries s) = before ++ ⟨.unrecognized, i + 1⟩ :: behind
        rw [hwith, hwithout]
        exact diagnostics_unrecognized strict _ _ _ _
      · show ∃ before behind note, note.level = .debug ∧
          notesFrom strict [] (entries (s.blankLine i)) = before ++ behind ∧
            notesFrom strict [] (entries s) = before ++ note :: behind
        rw [hwith, hwithout]
        exact notesFrom_unrecognized strict _ _ _ _

/-- A text with a block, a connection, and a line that is neither. -/
def mixed : Text :=
  ['a', '\t', '{', ' ', 'x', '\n', '}', '\n', 'a', '\r', '-', '>', 'b', '\n', '9', ' ', '{']

/-- A tab before the brace and a carriage return before the arrow are gaps, and a digit begins no
name. -/
theorem entries_line_iff_mixed :
    IsHeaderLine ['a'] ['a', '\t', '{', ' ', 'x'] ∧
      IsConnectionLine ['a'] ['b'] ['a', '\r', '-', '>', 'b'] ∧
      ∃ reading blank, read true Grid.standard mixed = .ok reading ∧
        read true Grid.standard (mixed.blankLine 3) = .ok blank ∧
        reading.AddsRemark blank ⟨.unrecognized, 4⟩ := by
  have hheader : mixed.joinCrLf.lines[0]? = some ['a', '\t', '{', ' ', 'x'] := by decide
  have hconnection : mixed.joinCrLf.lines[2]? = some ['a', '\r', '-', '>', 'b'] := by decide
  have hneither : mixed.joinCrLf.lines[3]? = some ['9', ' ', '{'] := by decide
  have hno : Line.ofText ['9', ' ', '{'] = .unrecognized := by decide
  obtain ⟨reading, hreading⟩ := exists_read (s := mixed) true (length_lt_of_short (by decide))
  obtain ⟨blank, hblank⟩ := exists_read (s := mixed.blankLine 3) true
    (length_lt_of_short (by decide))
  refine ⟨((entries_line_iff hheader rfl (by decide) rfl).1 ['a']).1 (by decide),
    ((entries_line_iff hconnection rfl (by decide) rfl).2.1 ['a'] ['b']).1 (by decide),
    reading, blank, hreading, hblank, ?_⟩
  obtain ⟨-, hreadings⟩ := (entries_line_iff hneither rfl (by decide) rfl).2.2
    (fun name h => by
      rw [← ofText_eq_header_iff (by decide) rfl, hno] at h
      cases h)
    (fun source target h => by
      rw [← ofText_eq_connection_iff (by decide) rfl, hno] at h
      cases h)
  exact (hreadings true Grid.standard).2 reading blank hreading hblank

end Pointy

end EventPipeline
