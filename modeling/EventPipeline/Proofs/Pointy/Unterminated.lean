import EventPipeline.Proofs.Pointy.Recognition

/-!
# Blocks that do not end

A header line behind a text that leaves no block open begins a block, and if no later line closes
it, all of them belong to it: what they would say elsewhere is not said. The entries are those of
the text in front and one more, a block that does not end (`exists_entries_append_unterminated`). It
is no event and no connection, so the document is that of the text in front, and it is remarked on
once, behind all other remarks (`read_append_unterminated`).

Since a line feed follows, the last line of the text in front may lose a carriage return. Only the
text of a line that is not understood shows that, and neither the document nor the remarks hold it
(`documentOf_congr`, `diagnostics_congr`).
-/

namespace EventPipeline.Pointy

/-! ## What bare entries show -/

section Bare

variable {es es' : List Entry} (strict : Bool)

/-- The events are among the bare items. -/
lemma events_congr (h : bareItems es = bareItems es') : events strict es = events strict es' := by
  rw [events, foldl_addEvent, blocks_congr h, ← foldl_addEvent, events]

/-- The document is made of the bare items. -/
lemma documentOf_congr (grid : Grid) (h : bareItems es = bareItems es') :
    documentOf strict grid es = documentOf strict grid es' := by
  rw [documentOf, documentOf, events_congr strict h, connections_congr h]

/-- No remark shows more of an entry than its bare form does. -/
lemma diagnosticsFrom_map_bare (declared seen : List Text) (es : List Entry) :
    diagnosticsFrom strict declared seen (es.map Entry.bare) =
      diagnosticsFrom strict declared seen es := by
  induction es generalizing seen with
  | nil => rfl
  | cons e rest ih =>
    have hconcerns : concerns strict declared seen e.bare.item =
        concerns strict declared seen e.item := by
      obtain ⟨line, item⟩ := e
      cases item <;> rfl
    have hdeclare : e.bare.item.declare seen = e.item.declare seen := by
      obtain ⟨line, item⟩ := e
      cases item <;> rfl
    rw [List.map_cons, diagnosticsFrom, hconcerns, hdeclare, ih]
    rfl

/-- The remarks are on the bare entries. -/
lemma diagnostics_congr (h : es.map Entry.bare = es'.map Entry.bare) :
    diagnostics strict es = diagnostics strict es' := by
  have hitems : bareItems es = bareItems es' := by
    rw [bareItems_eq_map, bareItems_eq_map, h]
  rw [diagnostics, diagnostics, events_congr strict hitems, ← diagnosticsFrom_map_bare, h,
    diagnosticsFrom_map_bare]

end Bare

/-! ## Lines -/

/-- Behind a text that leaves no block open, a header line and lines that do not close its block say
one thing: a block that does not end. -/
lemma exists_entries_append_unterminated {s header rest name : Text}
    (hs : leftOpen none s.joinCrLf.lines = none) (hnewline : '\n' ∉ header)
    (hheader : Line.ofText header = .header name) (hrest : ∀ line ∈ rest.lines, line.trim ≠ ['}']) :
    ∃ es, es.map Entry.bare = (entries s).map Entry.bare ∧
      entries (s ++ '\n' :: (header ++ '\n' :: rest)) =
        es ++ [⟨s.lines.length + 1, .unterminated name⟩] := by
  refine ⟨entriesFrom none 1 (s.lines.map Text.withoutReturn),
    map_bare_entriesFrom_withoutReturn s, ?_⟩
  have hlines : (s ++ '\n' :: (header ++ '\n' :: rest)).joinCrLf.lines =
      s.lines.map Text.withoutReturn ++ Text.withoutReturn header :: rest.joinCrLf.lines := by
    rw [Text.lines_joinCrLf_append_newline, Text.lines_joinCrLf_append_newline,
      Text.lines_of_not_mem hnewline]
    rfl
  have hopen : leftOpen none (s.lines.map Text.withoutReturn) = none := by
    have htrim : (s.lines.map Text.withoutReturn).map Text.trim =
        s.joinCrLf.lines.map Text.trim := by
      rw [Text.map_trim_lines_joinCrLf, List.map_map]
      exact List.map_congr_left fun line _ => Text.trim_withoutReturn line
    rw [← leftOpen_map_trim, htrim, leftOpen_map_trim, hs]
  have hopens : Line.ofText (Text.withoutReturn header) = .header name := by
    rw [ofText_congr (Text.trim_withoutReturn header), hheader]
  have hbody : ∀ line ∈ rest.joinCrLf.lines, isClosing line.trim = false := by
    intro line hline
    have hmem : line.trim ∈ rest.lines.map Text.trim := by
      rw [← Text.map_trim_lines_joinCrLf]
      exact List.mem_map_of_mem hline
    obtain ⟨other, hother, htrim⟩ := List.mem_map.1 hmem
    rw [isClosing, ← htrim, beq_eq_false_iff_ne]
    exact hrest other hother
  -- The block takes in every line up to the end.
  have hend := entriesFrom_body hbody ⟨name, s.lines.length + 1, []⟩ (s.lines.length + 2) []
  obtain ⟨hname, hline⟩ :=
    foldl_add_name_line rest.joinCrLf.lines ⟨name, s.lines.length + 1, []⟩
  rw [List.append_nil, entriesFrom, hname, hline] at hend
  rw [entries, hlines, entriesFrom_append (closed_of_leftOpen hopen 1), List.length_map,
    Nat.add_comm 1, entriesFrom_header hopens, hend]

/-! ## Readings -/

/-- A block that does not end loses only itself. Behind a text that leaves no block open there is a
header line, perhaps with more behind its brace, and whatever follows it, of which no line is only a
closing brace. Then the document, or the failure to place it, is that of the text in front, and the
remarks are those on it and one more, on the header line. This is so in both modes, and even if the
text in front declares the name. -/
theorem read_append_unterminated {s header rest name : Text}
    (hs : leftOpen none s.joinCrLf.lines = none) (hnewline : '\n' ∉ header)
    (hheader : IsHeaderLine name header.trim) (hrest : ∀ line ∈ rest.lines, line.trim ≠ ['}']) :
    (Concern.unterminated name).message =
        "Unterminated event '".toList ++ name ++ "' discarded".toList ∧
      (∀ strict grid,
        ((read strict grid (s ++ '\n' :: (header ++ '\n' :: rest))).map fun r =>
            (r.document, r.diagnostics)) =
          (read strict grid s).map fun r =>
            (r.document, r.diagnostics ++ [⟨.unterminated name, s.lines.length + 1⟩])) ∧
      ((s ++ '\n' :: (header ++ '\n' :: rest)).length < 10 ^ 300 → ∀ strict, ∃ first whole,
        read strict Grid.standard s = .ok first ∧
          read strict Grid.standard (s ++ '\n' :: (header ++ '\n' :: rest)) = .ok whole) := by
  obtain ⟨es, hbare, hwhole⟩ :=
    exists_entries_append_unterminated hs hnewline (ofText_of_isHeaderLine hheader) hrest
  refine ⟨rfl, fun strict grid => ?_, fun hlength strict => ?_⟩
  · have hitems : bareItems es = bareItems (entries s) := by
      rw [bareItems_eq_map, bareItems_eq_map, hbare]
    have hevents : events strict (es ++ [⟨s.lines.length + 1, .unterminated name⟩]) =
        events strict es := by
      rw [events_insert strict rfl es [], List.append_nil]
    have hdocument : documentOf strict grid (entries (s ++ '\n' :: (header ++ '\n' :: rest))) =
        documentOf strict grid (entries s) := by
      rw [hwhole, documentOf_insert strict rfl es [] rfl, List.append_nil,
        documentOf_congr strict grid hitems]
    have hdiagnostics : diagnostics strict (entries (s ++ '\n' :: (header ++ '\n' :: rest))) =
        diagnostics strict (entries s) ++ [⟨.unterminated name, s.lines.length + 1⟩] := by
      rw [hwhole, ← diagnostics_congr strict hbare, diagnostics, hevents, diagnosticsFrom_append]
      rfl
    rw [map_read (fun d rs => (d, rs)), hdocument, hdiagnostics]
    exact (map_read (fun d rs => (d, rs ++ _)) strict grid s).symm
  · have hshort : s.length < 10 ^ 300 := by
      rw [List.length_append] at hlength
      omega
    obtain ⟨first, hfirst⟩ := exists_read strict hshort
    obtain ⟨whole, hwhole⟩ := exists_read strict hlength
    exact ⟨first, whole, hfirst, hwhole⟩

/-- Lines that would declare and connect events outside of a block. -/
def swallowed : Text :=
  ['g', '{', '}', '\n', 'f', '-', '>', 'g', '\r', '\n', '/', '/', '\n', 'x', ' ', '}']

/-- The name is declared in front, and the lines behind the header have no effect. -/
theorem read_append_unterminated_swallowed :
    ∃ first whole, read true Grid.standard returning = .ok first ∧
      read true Grid.standard (returning ++ '\n' :: (['f', ' ', '{', 'z'] ++ '\n' :: swallowed)) =
        .ok whole ∧
      whole.document = first.document ∧
      whole.diagnostics = first.diagnostics ++ [⟨.unterminated ['f'], 4⟩] := by
  have hclosed : leftOpen none returning.joinCrLf.lines = none := by decide
  have hheader : IsHeaderLine ['f'] (Text.trim ['f', ' ', '{', 'z']) :=
    (ofText_eq_header_iff (by decide) rfl ['f']).1 (by decide)
  have hrest : ∀ line ∈ swallowed.lines, line.trim ≠ ['}'] := by decide
  obtain ⟨-, hread, hexists⟩ := read_append_unterminated hclosed (by decide) hheader hrest
  obtain ⟨first, whole, hfirst, hwhole⟩ := hexists (length_lt_of_short (by decide)) true
  have hpair := hread true Grid.standard
  rw [hfirst, hwhole] at hpair
  obtain ⟨hdocument, hdiagnostics⟩ := Prod.mk.inj (Except.ok.inj hpair)
  exact ⟨first, whole, hfirst, hwhole, hdocument, hdiagnostics⟩

end EventPipeline.Pointy
