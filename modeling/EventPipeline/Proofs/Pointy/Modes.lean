import EventPipeline.Proofs.Pointy.Recognition

/-!
# The two modes of reading

When a name is declared again, strict reading keeps the first code and remarks on the later blocks,
and the other mode keeps the last code and says nothing. This is all that the modes differ in. What
they share does not mention codes: the names of the blocks in order, the positions that these get,
the connections, and every remark that is not about a repeated name (`documentOf_withoutCode`,
`filter_diagnosticsFrom`).

Which code a mode keeps is said of the lines: a block stands among them with a list of lines in
front, which leaves no block open, and a list of lines behind (`ClosesBlock`). Every block that is
said stands so (`exists_blocks_iff`), and strict reading keeps the one in front of which the name is
not closed, the other mode the one behind which it is not (`get?_events_entriesFrom_iff`).
-/

namespace EventPipeline

/-- A node without the code of its event. -/
def Node.withoutCode (n : Node) : Node :=
  { n with event := { n.event with code := [] } }

/-- A document without the codes of its events. -/
def Document.withoutCode (d : Document) : Document :=
  { d with nodes := d.nodes.map Node.withoutCode }

/-- Whether a remark is worded as one on a repeated name. -/
def Diagnostic.isDuplicate (r : Diagnostic) : Bool :=
  r.message.startsWith "Duplicate event".toList

/-- Only remarks on repeated names are worded so. -/
lemma Diagnostic.isDuplicate_eq (r : Diagnostic) :
    r.isDuplicate = match r.concern with
      | .duplicate _ => true
      | _ => false := by
  obtain ⟨concern, line⟩ := r
  cases concern <;> rfl

namespace Pointy

/-! ## Blocks among lines -/

/-- A block that stands among lines: no block is open behind those in front of it, then there is a
header with its name, lines of which those that are no comments make its code, and the line that
closes it. -/
structure ClosesBlock (ls front back : List Text) (name code : Text) : Prop where
  /-- The lines in front leave no block open. -/
  outside : leftOpen none front = none
  /-- The lines are those in front, the header, the body, the closing brace, and those behind. -/
  block : ∃ header body closing, ls = front ++ header :: (body ++ closing :: back) ∧
    Line.ofText header = .header name ∧ (∀ line ∈ body, isClosing line.trim = false) ∧
    isClosing closing.trim = true ∧
    code = codeOfLines (body.filter fun line => !isComment line.trim)

section NoHeader

variable {line : Text} (h : ∀ name, Line.ofText line ≠ .header name)

include h

/-- A line that is no header leaves no block open. -/
lemma leftOpen_singleton : leftOpen none [line] = none := by
  rw [leftOpen, List.foldl_cons, List.foldl_nil, openBehind]
  split
  · rename_i name hline
    exact absurd hline (h name)
  · rfl

/-- A line that is no header says no block. -/
lemma blocks_cons_of_not_header (number : Nat) (rest : List Text) :
    blocks (entriesFrom none number (line :: rest)) =
      blocks (entriesFrom none (number + 1) rest) := by
  rw [entriesFrom]
  split
  · rfl
  · rename_i name hline
    exact absurd hline (h name)
  · rfl
  · rfl

end NoHeader

/-- Lines that do not close the open block leave it open. -/
lemma leftOpen_body {body : List Text} (h : ∀ line ∈ body, isClosing line.trim = false)
    (name : Text) : leftOpen (some name) body = some name := by
  induction body with
  | nil => rfl
  | cons line rest ih =>
    have hopen : openBehind (some name) line = some name := if_neg (by simp [h line])
    rw [leftOpen, List.foldl_cons, hopen]
    exact ih fun l hl => h l (List.mem_cons_of_mem line hl)

section Block

variable {header closing name : Text} {body : List Text}
  (hheader : Line.ofText header = .header name)
  (hbody : ∀ line ∈ body, isClosing line.trim = false) (hclosing : isClosing closing.trim = true)

include hheader hbody hclosing

/-- The lines of a block leave no block open. -/
lemma leftOpen_block : leftOpen none (header :: (body ++ [closing])) = none := by
  have hopen : openBehind none header = some name := by rw [openBehind, hheader]
  rw [leftOpen, List.foldl_cons, hopen, ← leftOpen, leftOpen_append, leftOpen_body hbody]
  exact if_pos hclosing

/-- The lines of a block close that block. -/
lemma closedNames_block : closedNames none (header :: (body ++ [closing])) = [name] := by
  have hblocks := map_fst_blocks_entriesFrom none 1 (header :: (body ++ [closing]))
  rw [entriesFrom_block hheader hbody hclosing] at hblocks
  exact hblocks.symm

end Block

section Stand

variable {ls front back : List Text} {name code : Text}

/-- A block stands so too when there are more lines in front that leave no block open. -/
lemma ClosesBlock.append_left (h : ClosesBlock ls front back name code) {more : List Text}
    (hmore : leftOpen none more = none) :
    ClosesBlock (more ++ ls) (more ++ front) back name code where
  outside := by rw [leftOpen_append, hmore, h.outside]
  block := by
    obtain ⟨header, body, closing, rfl, hblock⟩ := h.block
    exact ⟨header, body, closing, (List.append_assoc _ _ _).symm, hblock⟩

/-- A block that stands among lines is one of those that they say, behind those that the lines in
front say. -/
lemma ClosesBlock.blocks_eq (h : ClosesBlock ls front back name code) (number : Nat) :
    ∃ number', blocks (entriesFrom none number ls) =
      blocks (entriesFrom none number front) ++
        (name, code) :: blocks (entriesFrom none number' back) := by
  obtain ⟨header, body, closing, rfl, hheader, hbody, hclosing, rfl⟩ := h.block
  rw [entriesFrom_append (closed_of_leftOpen h.outside number), blocks_append,
    entriesFrom_block hheader hbody hclosing]
  exact ⟨_, rfl⟩

/-- The names that are closed are those in front of a block, its name, and those behind it. -/
lemma ClosesBlock.closedNames_eq (h : ClosesBlock ls front back name code) :
    closedNames none ls = closedNames none front ++ name :: closedNames none back := by
  obtain ⟨number', hblocks⟩ := h.blocks_eq 1
  have hnames := congrArg (List.map Prod.fst) hblocks
  rwa [List.map_append, List.map_cons, map_fst_blocks_entriesFrom, map_fst_blocks_entriesFrom,
    map_fst_blocks_entriesFrom] at hnames

end Stand

/-- Every block that lines say stands among them, and in front of it and behind it stand the blocks
that are said before and after it. -/
lemma exists_closesBlock {ls : List Text} {number : Nat} {before behind : List (Text × Text)}
    {name code : Text}
    (h : blocks (entriesFrom none number ls) = before ++ (name, code) :: behind) :
    ∃ front back, ClosesBlock ls front back name code ∧
      closedNames none front = before.map Prod.fst ∧
      closedNames none back = behind.map Prod.fst := by
  induction hlength : ls.length using Nat.strong_induction_on generalizing ls number before with
  | _ count ih =>
  subst hlength
  -- Lines in front that leave no block open and close the first of the blocks before.
  have hskip : ∀ {more rest : List Text} {number' : Nat} {first later : List (Text × Text)},
      more ≠ [] → ls = more ++ rest → before = first ++ later → leftOpen none more = none →
      closedNames none more = first.map Prod.fst →
      blocks (entriesFrom none number' rest) = later ++ (name, code) :: behind →
      ∃ front back, ClosesBlock ls front back name code ∧
        closedNames none front = before.map Prod.fst ∧
        closedNames none back = behind.map Prod.fst := by
    rintro more rest number' first later hmore rfl rfl hopen hnames hrest
    have hshort : rest.length < (more ++ rest).length := by
      have := List.length_pos_iff.2 hmore
      rw [List.length_append]
      omega
    obtain ⟨front, back, hstands, hfront, hback⟩ := ih _ hshort hrest rfl
    refine ⟨more ++ front, back, hstands.append_left hopen, ?_, hback⟩
    rw [closedNames_append, hopen, hnames, hfront, List.map_append]
  cases ls with
  | nil => simp [entriesFrom, blocks] at h
  | cons line rest =>
    by_cases hheader : ∃ name, Line.ofText line = .header name
    · obtain ⟨opened, hline⟩ := hheader
      cases hfind : rest.find? fun l => isClosing l.trim with
      | none =>
        have hbody : ∀ l ∈ rest, isClosing l.trim = false := by simpa using hfind
        have hunterminated := entriesFrom_body hbody ⟨opened, number, []⟩ (number + 1) []
        rw [List.append_nil] at hunterminated
        rw [entriesFrom_header hline, hunterminated] at h
        exact absurd h (by simp [entriesFrom, blocks])
      | some closing =>
        obtain ⟨hclosing, body, tail, rfl, hbody⟩ := List.find?_eq_some_iff_append.1 hfind
        simp only [Bool.not_eq_true'] at hbody
        rw [entriesFrom_block hline hbody hclosing] at h
        cases before with
        | nil =>
          obtain ⟨hfirst, htail⟩ := List.cons.inj h
          obtain ⟨rfl, rfl⟩ := Prod.mk.inj hfirst
          refine ⟨[], tail, ⟨rfl, line, body, closing, rfl, hline, hbody, hclosing, rfl⟩, rfl, ?_⟩
          rw [← htail]
          exact (map_fst_blocks_entriesFrom none _ tail).symm
        | cons first before =>
          obtain ⟨rfl, htail⟩ := List.cons.inj h
          have hmore : line :: (body ++ closing :: tail) = line :: (body ++ [closing]) ++ tail := by
            simp
          exact hskip (List.cons_ne_nil line _) hmore (List.singleton_append (l := before)).symm
            (leftOpen_block hline hbody hclosing) (closedNames_block hline hbody hclosing) htail
    · have hnot : ∀ name, Line.ofText line ≠ .header name := fun name hline => hheader ⟨name, hline⟩
      have hnames : closedNames none [line] = [] := by
        rw [closedNames_cons, ite_self]
        rfl
      rw [blocks_cons_of_not_header hnot] at h
      exact hskip (List.cons_ne_nil line []) rfl (List.nil_append _).symm (leftOpen_singleton hnot)
        hnames h

/-- The blocks that lines say, with those before and after, are those that stand among them, with
those in front and behind. -/
lemma exists_blocks_iff (ls : List Text) (number : Nat) (name code : Text)
    {P : List Text → List Text → Prop} :
    (∃ before behind, blocks (entriesFrom none number ls) = before ++ (name, code) :: behind ∧
        P (before.map Prod.fst) (behind.map Prod.fst)) ↔
      ∃ front back, ClosesBlock ls front back name code ∧
        P (closedNames none front) (closedNames none back) := by
  constructor
  · rintro ⟨before, behind, hblocks, hnames⟩
    obtain ⟨front, back, hstands, hfront, hback⟩ := exists_closesBlock hblocks
    exact ⟨front, back, hstands, by rwa [hfront, hback]⟩
  · rintro ⟨front, back, hstands, hnames⟩
    obtain ⟨number', hblocks⟩ := hstands.blocks_eq number
    refine ⟨_, _, hblocks, ?_⟩
    rwa [map_fst_blocks_entriesFrom, map_fst_blocks_entriesFrom]

/-! ## The code that a mode keeps -/

/-- The first block of a name is the one in front of which none has the name. -/
lemma find?_fst_eq_some_iff {bs : List (Text × Text)} {name code : Text} :
    (bs.find? fun b => b.1 = name).map Prod.snd = some code ↔
      ∃ before behind, bs = before ++ (name, code) :: behind ∧ name ∉ before.map Prod.fst := by
  simp only [Option.map_eq_some_iff, List.find?_eq_some_iff_append, decide_eq_true_eq,
    Bool.not_eq_true', decide_eq_false_iff_not, List.mem_map, not_exists, not_and]
  constructor
  · rintro ⟨⟨_, _⟩, ⟨rfl, before, behind, rfl, hnot⟩, rfl⟩
    exact ⟨before, behind, rfl, hnot⟩
  · rintro ⟨before, behind, rfl, hnot⟩
    exact ⟨(name, code), ⟨rfl, before, behind, rfl, hnot⟩, rfl⟩

/-- The last block of a name is the one behind which none has the name. -/
lemma find?_fst_reverse_eq_some_iff {bs : List (Text × Text)} {name code : Text} :
    (bs.reverse.find? fun b => b.1 = name).map Prod.snd = some code ↔
      ∃ before behind, bs = before ++ (name, code) :: behind ∧ name ∉ behind.map Prod.fst := by
  rw [find?_fst_eq_some_iff]
  constructor
  · rintro ⟨behind, before, hbs, hnot⟩
    refine ⟨before.reverse, behind.reverse, ?_, by simpa using hnot⟩
    rw [List.reverse_eq_iff.1 hbs]
    simp
  · rintro ⟨before, behind, rfl, hnot⟩
    exact ⟨behind.reverse, before.reverse, by simp, by simpa using hnot⟩

/-- Strict reading keeps the block of a name in front of which the name is not closed, and the other
mode the one behind which it is not. -/
lemma get?_events_entriesFrom_iff (strict : Bool) (number : Nat) (ls : List Text)
    (name code : Text) :
    (events strict (entriesFrom none number ls)).get? name = some code ↔
      ∃ front back, ClosesBlock ls front back name code ∧
        name ∉ closedNames none (if strict then front else back) := by
  rw [get?_events, countingBlock?]
  cases strict with
  | true =>
    exact find?_fst_eq_some_iff.trans
      (exists_blocks_iff ls number name code (P := fun before _ => name ∉ before))
  | false =>
    exact find?_fst_reverse_eq_some_iff.trans
      (exists_blocks_iff ls number name code (P := fun _ behind => name ∉ behind))

/-- A name that is closed once has the same code in both modes. -/
lemma get?_events_of_count_eq_one (number : Nat) {ls : List Text} {name : Text}
    (h : (closedNames none ls).count name = 1) :
    ∃ code, ∀ strict, (events strict (entriesFrom none number ls)).get? name = some code := by
  have hmem : name ∈ (blocks (entriesFrom none number ls)).map Prod.fst := by
    rw [map_fst_blocks_entriesFrom]
    exact List.count_pos_iff.1 (h ▸ Nat.one_pos)
  obtain ⟨⟨other, code⟩, hblock, hother⟩ := List.mem_map.1 hmem
  obtain rfl : other = name := hother
  obtain ⟨before, behind, hblocks⟩ := List.append_of_mem hblock
  obtain ⟨front, back, hstands, -, -⟩ := exists_closesBlock hblocks
  rw [hstands.closedNames_eq, List.count_append, List.count_cons_self] at h
  refine ⟨code, fun strict => (get?_events_entriesFrom_iff strict number ls other code).2
    ⟨front, back, hstands, ?_⟩⟩
  cases strict with
  | true => exact List.not_mem_of_count_eq_zero (l := closedNames none front) (by omega)
  | false => exact List.not_mem_of_count_eq_zero (l := closedNames none back) (by omega)

/-! ## The remarks of both modes -/

/-- Without those on repeated names the strict remarks on an item are those of the other mode. -/
lemma filter_concerns (declared seen seen' : List Text) (item : Item) (number : Nat) :
    ((concerns true declared seen item).map fun c => (⟨c, number⟩ : Diagnostic)).filter
        (fun r => !r.isDuplicate) =
      (concerns false declared seen' item).map (⟨·, number⟩) := by
  cases item with
  | event name code => simp only [concerns]; split <;> rfl
  | connection source target =>
    refine List.filter_eq_self.2 fun r hr => ?_
    obtain ⟨c, hc, rfl⟩ := List.mem_map.1 hr
    obtain ⟨name, -, rfl⟩ := List.mem_map.1 hc
    rfl
  | unrecognized line => rfl
  | unterminated name => rfl

/-- Without those on repeated names the strict remarks are those of the other mode. -/
lemma filter_diagnosticsFrom (declared seen seen' : List Text) (es : List Entry) :
    (diagnosticsFrom true declared seen es).filter (fun r => !r.isDuplicate) =
      diagnosticsFrom false declared seen' es := by
  induction es generalizing seen seen' with
  | nil => rfl
  | cons e rest ih =>
    rw [diagnosticsFrom, List.filter_append, filter_concerns declared seen seen', ih,
      diagnosticsFrom]

/-- The names that entries declare are those of their blocks. -/
lemma mem_declaredBy_iff (seen : List Text) (es : List Entry) (name : Text) :
    name ∈ declaredBy seen es ↔ name ∈ seen ∨ name ∈ (blocks es).map Prod.fst := by
  induction es generalizing seen with
  | nil => simp [declaredBy, blocks]
  | cons e rest ih =>
    have hrest : declaredBy seen (e :: rest) = declaredBy (e.item.declare seen) rest := rfl
    obtain ⟨line, item⟩ := e
    rw [hrest, ih]
    cases item with
    | event other code => simp [Item.declare, blocks, or_assoc, or_left_comm]
    | _ => simp [Item.declare, blocks]

/-- The strict remark on an item that repeats a name. -/
lemma filter_isDuplicate_concerns (declared seen : List Text) (item : Item) (number : Nat) :
    ((concerns true declared seen item).map fun c => (⟨c, number⟩ : Diagnostic)).filter
        Diagnostic.isDuplicate =
      ((item.eventName?.filter (· ∈ seen)).map (⟨.duplicate ·, number⟩)).toList := by
  cases item with
  | event name code =>
    by_cases h : name ∈ seen <;>
      simp [concerns, Item.eventName?, h, Diagnostic.isDuplicate_eq, Option.filter]
  | connection source target =>
    refine List.filter_eq_nil_iff.2 fun r hr => ?_
    obtain ⟨c, hc, rfl⟩ := List.mem_map.1 hr
    obtain ⟨name, -, rfl⟩ := List.mem_map.1 hc
    exact Bool.false_ne_true
  | unrecognized line => rfl
  | unterminated name => rfl

/-- Every block is the first one of its name, or it is remarked on in strict mode. -/
lemma length_filter_isDuplicate (declared : List Text) (es : List Entry) :
    ((diagnosticsFrom true declared [] es).filter Diagnostic.isDuplicate).length +
        ((blocks es).map Prod.fst).eraseDups.length = (blocks es).length := by
  rw [← List.length_map Prod.fst]
  induction es using List.reverseRecOn with
  | nil => rfl
  | append_singleton front e ih =>
    have hlast : ∀ seen, diagnosticsFrom true declared seen [e] =
        (concerns true declared seen e.item).map (⟨·, e.line⟩) := fun seen => List.append_nil _
    have hname : (blocks [e]).map Prod.fst = e.item.eventName?.toList := by
      obtain ⟨line, item⟩ := e
      cases item <;> rfl
    rw [diagnosticsFrom_append, hlast, List.filter_append, filter_isDuplicate_concerns,
      blocks_append, List.map_append, hname]
    cases e.item.eventName? with
    | none => simpa using ih
    | some name =>
      have hseen := mem_declaredBy_iff [] front name
      rw [or_iff_right List.not_mem_nil] at hseen
      rw [Option.toList_some, Dictionary.eraseDups_append_singleton]
      by_cases hrepeated : name ∈ (blocks front).map Prod.fst
      · rw [if_pos (List.mem_eraseDups.2 hrepeated),
          Option.filter_some_pos (by simpa using hseen.2 hrepeated)]
        simp only [List.length_append, Option.map_some, Option.toList_some, List.length_singleton]
        omega
      · rw [if_neg (fun h => hrepeated (List.mem_eraseDups.1 h)),
          Option.filter_some_neg (by simpa using fun h => hrepeated (hseen.1 h))]
        simp only [List.length_append, Option.map_none, Option.toList_none, List.length_singleton,
          List.length_nil]
        omega

/-! ## The documents of both modes -/

/-- The nodes of events, without their codes, are given by the names. -/
lemma map_withoutCode_placeEvents (es : Dictionary Text Text) (positions : List Position) :
    (placeEvents es positions).map Node.withoutCode =
      (es.keys.zip positions).map fun n => Node.ofEvent (eventOf n.1 []) n.2 := by
  rw [placeEvents, Dictionary.keys, List.zip_map_left, List.map_map, List.map_map]
  rfl

/-- The document of entries, without codes, is given by the names of the blocks. -/
lemma documentOf_withoutCode (strict : Bool) (grid : Grid) (es : List Entry) :
    (documentOf strict grid es).map Document.withoutCode =
      (grid.positions ((blocks es).map Prod.fst).eraseDups.length).map fun positions =>
        { config := none
          nodes := (((blocks es).map Prod.fst).eraseDups.zip positions).map fun n =>
            Node.ofEvent (eventOf n.1 []) n.2
          edges := (connections es).map fun c => connectionOf c.1 c.2 } := by
  have hkeys := keys_events strict es
  have hlength : (events strict es).length = ((blocks es).map Prod.fst).eraseDups.length := by
    rw [← hkeys, Dictionary.keys, List.length_map]
  rw [documentOf, hlength]
  cases grid.positions ((blocks es).map Prod.fst).eraseDups.length with
  | error e => rfl
  | ok positions =>
    have hnodes := map_withoutCode_placeEvents (events strict es) positions
    rw [hkeys] at hnodes
    simp only [Except.map, Document.withoutCode, hnodes]

/-- A document that was read has one node for each name that is closed. -/
lemma length_nodes_of_read {strict : Bool} {grid : Grid} {s : Text} {reading : Reading}
    (h : read strict grid s = .ok reading) :
    reading.document.nodes.length = ((blocks (entries s)).map Prod.fst).eraseDups.length := by
  have hnames := congrArg List.length (map_name_events_of_read h)
  rwa [Document.events, List.length_map, List.length_map, List.length_map, keys_events] at hnames

/-- The two modes of reading a text differ on repeated names only. Apart from the codes of events
they give the same document, or fail in the same way, and the strict remarks are those of the other
mode once those on repeated names are taken out, of which there are as many as blocks are closed
beyond the nodes. A name that is closed once has the same code in both. In general strict reading
gives it the code of the first block that is closed, and the other mode that of the last one. Any
text of a length that a text can have is read in both modes. -/
theorem read_strict_agrees (s : Text) :
    (∀ grid,
      ((read true grid s).map fun r =>
          (r.document.withoutCode, r.diagnostics.filter fun d => !d.isDuplicate)) =
        (read false grid s).map fun r => (r.document.withoutCode, r.diagnostics)) ∧
    (∀ grid first last, read true grid s = .ok first → read false grid s = .ok last →
      (first.diagnostics.filter Diagnostic.isDuplicate).length + first.document.nodes.length =
        (closedNames none s.joinCrLf.lines).length ∧
      ∀ name,
        ((closedNames none s.joinCrLf.lines).count name = 1 →
          ∃ code, first.document.codeOf? name = some code ∧
            last.document.codeOf? name = some code) ∧
        ∀ code,
          (first.document.codeOf? name = some code ↔
            ∃ front back, ClosesBlock s.joinCrLf.lines front back name code ∧
              name ∉ closedNames none front) ∧
          (last.document.codeOf? name = some code ↔
            ∃ front back, ClosesBlock s.joinCrLf.lines front back name code ∧
              name ∉ closedNames none back)) ∧
    (s.length < 10 ^ 300 → ∀ strict, ∃ reading, read strict Grid.standard s = .ok reading) := by
  refine ⟨fun grid => ?_, fun grid first last hfirst hlast => ⟨?_, fun name => ⟨fun hcount => ?_,
    fun code => ⟨?_, ?_⟩⟩⟩, fun h strict => exists_read strict h⟩
  · have hdocument := (documentOf_withoutCode true grid (entries s)).trans
      (documentOf_withoutCode false grid (entries s)).symm
    have hkeys : (events true (entries s)).keys = (events false (entries s)).keys := by
      rw [keys_events, keys_events]
    have hdiagnostics : (diagnostics true (entries s)).filter (fun r => !r.isDuplicate) =
        diagnostics false (entries s) := by
      rw [diagnostics, hkeys]
      exact filter_diagnosticsFrom _ _ _ _
    have hpair : ∀ strict, ((documentOf strict grid (entries s)).map fun d =>
          (d.withoutCode, diagnostics false (entries s))) =
        ((documentOf strict grid (entries s)).map Document.withoutCode).map
          (·, diagnostics false (entries s)) := fun strict =>
      comp_map (f := Except GridError) Document.withoutCode (·, diagnostics false (entries s)) _
    rw [map_read (fun d rs => (d.withoutCode, rs.filter fun r => !r.isDuplicate)),
      map_read (fun d rs => (d.withoutCode, rs)), hdiagnostics, hpair, hdocument, ← hpair]
  · obtain ⟨-, -, -, -, hdiagnostics⟩ := exists_positions_of_read hfirst
    rw [hdiagnostics, length_nodes_of_read hfirst, ← map_fst_blocks_entries, List.length_map]
    exact length_filter_isDuplicate _ _
  · obtain ⟨code, hcode⟩ := get?_events_of_count_eq_one 1 hcount
    exact ⟨code, (codeOf?_of_read hfirst name).trans (hcode true),
      (codeOf?_of_read hlast name).trans (hcode false)⟩
  · rw [codeOf?_of_read hfirst]
    exact get?_events_entriesFrom_iff true 1 _ name code
  · rw [codeOf?_of_read hlast]
    exact get?_events_entriesFrom_iff false 1 _ name code

/-- A text that closes one name twice, with another one between. -/
def redeclared : Text :=
  ['f', '{', '\n', 'x', '\n', '}', '\n', 'g', '{', '\n', '}', '\n', 'f', '{', '\r', '\n', 'y',
    '\n', '}', '\n', 'g', '-', '>', 'h']

/-- Strict reading keeps the code in front, the other mode the one behind, and both place a name
once. -/
theorem read_strict_agrees_redeclared :
    redeclared.length < 10 ^ 300 ∧
      ∃ first last, read true Grid.standard redeclared = .ok first ∧
        read false Grid.standard redeclared = .ok last ∧
        first.document.withoutCode = last.document.withoutCode ∧
        first.document.codeOf? ['f'] = some ['x'] ∧ last.document.codeOf? ['f'] = some ['y'] ∧
        first.diagnostics.filter (fun d => !d.isDuplicate) = last.diagnostics ∧
        (first.diagnostics.filter Diagnostic.isDuplicate).length + first.document.nodes.length =
          3 := by
  have hlength : redeclared.length < 10 ^ 300 := length_lt_of_short (by decide)
  obtain ⟨hsame, hmodes, hexists⟩ := read_strict_agrees redeclared
  obtain ⟨first, hfirst⟩ := hexists hlength true
  obtain ⟨last, hlast⟩ := hexists hlength false
  have hpair := hsame Grid.standard
  rw [hfirst, hlast] at hpair
  obtain ⟨hdocument, hdiagnostics⟩ := Prod.mk.inj (Except.ok.inj hpair)
  obtain ⟨hcount, hcodes⟩ := hmodes _ first last hfirst hlast
  refine ⟨hlength, first, last, hfirst, hlast, hdocument, ?_, ?_, hdiagnostics, hcount⟩
  · exact ((hcodes ['f']).2 ['x']).1.2 ⟨[], _, ⟨rfl, ['f', '{'], [['x']], ['}'], rfl, rfl,
      by decide, rfl, rfl⟩, List.not_mem_nil⟩
  · exact ((hcodes ['f']).2 ['y']).2.2 ⟨[['f', '{'], ['x'], ['}'], ['g', '{'], ['}']],
      [['g', '-', '>', 'h']],
      ⟨by decide, ['f', '{'], [['y']], ['}'], rfl, rfl, by decide, rfl, rfl⟩, by decide⟩

end Pointy

end EventPipeline
