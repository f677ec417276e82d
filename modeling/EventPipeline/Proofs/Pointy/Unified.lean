import EventPipeline.Proofs.Pointy.Stability

/-!
# Texts with unified line ends

A text without carriage returns stays without them when it is read and written: the code of its
events has none, and neither has the text of its document. So unifying line ends does nothing to
what was written, and a second reading gives the same nodes and the same text
(`exists_reread_of_return_not_mem`).
-/

namespace EventPipeline

/-- When line ends are unified no carriage return is left. -/
lemma Text.return_not_mem_universalNewlines (s : Text) : '\r' ∉ s.universalNewlines := by
  fun_induction universalNewlines s with
  | case1 => exact List.not_mem_nil
  | case2 rest ih =>
    rw [List.mem_cons, not_or]
    exact ⟨by decide, ih⟩
  | case3 c rest hpair ih =>
    rw [List.mem_cons, not_or]
    refine ⟨?_, ih⟩
    split
    · decide
    · exact Ne.symm ‹_›

/-- Unifying line ends makes no text longer. -/
lemma Text.length_universalNewlines_le (s : Text) : s.universalNewlines.length ≤ s.length := by
  fun_induction universalNewlines s with
  | case1 => exact le_rfl
  | case2 rest ih => exact (Nat.succ_le_succ ih).trans (Nat.le_succ _)
  | case3 c rest hpair ih => exact Nat.succ_le_succ ih

namespace Pointy

/-! ## Code without carriage returns -/

/-- The code of lines without carriage returns has none. -/
lemma return_not_mem_codeOfLines {ls : List Text} (h : ∀ line ∈ ls, '\r' ∉ line) :
    '\r' ∉ codeOfLines ls := by
  intro hr
  obtain ⟨line, hline, hr⟩ := List.mem_flatMap.1 (Text.mem_of_mem_trim hr)
  rcases List.mem_append.1 hr with hr | hr
  · exact h line hline hr
  · exact absurd (List.mem_singleton.1 hr) (by decide)

/-- The code of the blocks of a text without carriage returns has none. -/
lemma return_not_mem_of_mem_blocks {s : Text} (hs : '\r' ∉ s) {block : Text × Text}
    (h : block ∈ blocks (entries s)) : '\r' ∉ block.2 := by
  have hpair : ¬ Text.pair <:+: s := fun hpair => hs (hpair.subset List.mem_cons_self)
  have hls : ∀ line ∈ s.joinCrLf.lines.dropLast, '\r' ∉ line := by
    rw [(Text.joinCrLf_eq_self_iff s).2 hpair]
    exact fun line hline hr => hs (Text.mem_of_mem_lines (List.mem_of_mem_dropLast hline) hr)
  obtain ⟨-, body, hcode, hbody⟩ := exists_body_of_mem_blocks hls (by simp) h
  rw [hcode]
  exact return_not_mem_codeOfLines fun line hline => (hbody line hline).1

/-! ## Writing -/

/-- What is written for names and code without carriage returns has none. -/
lemma return_not_mem_write {d : Document} (hname : ∀ e ∈ d.events, '\r' ∉ e.name.text)
    (hcode : ∀ e ∈ d.events, '\r' ∉ e.code) : '\r' ∉ write d := by
  have hend : ∀ id name, endName? d.names id = some name → '\r' ∉ name := by
    intro id name h
    rw [endName?, Document.get?_names] at h
    cases hn : d.node? id with
    | none =>
      rw [hn] at h
      contradiction
    | some n =>
      rw [hn, Option.map_some] at h
      have hevent : n.event ∈ d.events := List.mem_map_of_mem (List.mem_of_find?_eq_some hn)
      dsimp only at h
      split at h
      · contradiction
      · rw [← Option.some.inj h]
        exact hname _ hevent
  intro hr
  rcases List.mem_append.1 hr with hr | hr
  · obtain ⟨e, he, hr⟩ := List.mem_flatMap.1 hr
    simp only [block, List.append_assoc, List.mem_append] at hr
    rcases hr with hr | hr | hr | hr
    · exact hname e he hr
    · exact absurd hr (by decide)
    · exact hcode e he hr
    · exact absurd hr (by decide)
  · obtain ⟨⟨source, target⟩, hl, hr⟩ := List.mem_flatMap.1 hr
    obtain ⟨c, -, hc⟩ := List.mem_filterMap.1 hl
    unfold endNames? at hc
    split at hc
    · rename_i hsource htarget
      obtain ⟨rfl, rfl⟩ := Prod.mk.inj (Option.some.inj hc)
      simp only [link, List.append_assoc, List.mem_append] at hr
      rcases hr with hr | hr | hr | hr
      · exact hend _ _ hsource hr
      · exact absurd hr (by decide)
      · exact hend _ _ htarget hr
      · exact absurd hr (by decide)
    · contradiction

section Read

variable {strict : Bool} {grid : Grid} {s : Text} {reading : Reading}

/-- What is read from a text without carriage returns is written without them. -/
lemma return_not_mem_write_of_read (h : read strict grid s = .ok reading) (hs : '\r' ∉ s) :
    '\r' ∉ write reading.document := by
  have hblock : ∀ e ∈ reading.document.events,
      ∃ block ∈ blocks (entries s), e = eventOf block.1 block.2 := by
    intro e he
    rw [events_of_read h] at he
    obtain ⟨block, hblock, rfl⟩ := List.mem_map.1 he
    exact ⟨block, mem_blocks_of_mem_events hblock, rfl⟩
  refine return_not_mem_write (fun e he => ?_) fun e he => ?_
  · obtain ⟨block, hblock, rfl⟩ := hblock e he
    have hidentifier : isIdentifier block.1 = true := (isSettled_of_mem_blocks hblock).name
    exact fun hr => absurd (isIdentifierPart_of_mem hidentifier hr) (by decide)
  · obtain ⟨block, hblock, rfl⟩ := hblock e he
    exact return_not_mem_of_mem_blocks hs hblock

/-- What is read from a text without carriage returns, written and read again has the same nodes,
and is written as the same text. -/
lemma exists_reread_of_return_not_mem (h : read strict grid s = .ok reading) (hs : '\r' ∉ s)
    (again : Bool) :
    ∃ reread, read again grid (write reading.document) = .ok reread ∧
      reread.document.nodes = reading.document.nodes ∧
      write reread.document = write reading.document := by
  obtain ⟨reread, hreread, hnodes, hedges⟩ := read_write_of_read h again
  have hpairs : ¬ '\r' :: Text.pair <:+: s := fun hpair => hs (hpair.subset List.mem_cons_self)
  have hsame : reread.document.nodes = reading.document.nodes := by
    rw [hnodes]
    exact (List.map_congr_left fun n hn => Node.joined_eq_self
      (not_pair_of_mem_nodes_of_read h hpairs hn)).trans (List.map_id _)
  have hnull : ∀ e ∈ reading.document.events, e.name.isNull = false := fun e he =>
    (carries_of_read h e he).isNull
  exact ⟨reread, hreread, hsame, write_filter_edges hnull hsame hedges⟩

end Read

end Pointy

end EventPipeline
