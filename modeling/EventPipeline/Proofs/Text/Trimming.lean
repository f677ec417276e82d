import EventPipeline.Proofs.Text.Lines
import Mathlib.Data.List.DropRight

/-!
# What trimming leaves

Trimming takes blanks off both ends of a text and touches nothing between them, so a second time it
does nothing (`trim_trim`). What is in the text is kept: `filledLines` are its lines that are not
blank, each trimmed, and neither trimming nor joining pairs of carriage return and line feed changes
them (`filledLines_trim`, `filledLines_joinCrLf`). By these two a line that ends a block, or is a
comment, can be looked for before or after a code is put together from lines and trimmed as a whole.
-/

namespace EventPipeline.Text

/-! ## Trimmed texts -/

/-- A text is its trimmed form with blanks on both sides. -/
lemma exists_eq_append_trim (s : Text) :
    ∃ front back : Text, (∀ c ∈ front, isBlank c = true) ∧ (∀ c ∈ back, isBlank c = true) ∧
      s = front ++ (s.trim ++ back) := by
  refine ⟨s.takeWhile isBlank, ((s.dropWhile isBlank).reverse.takeWhile isBlank).reverse,
    fun c hc => List.mem_takeWhile_imp hc, fun c hc => ?_, ?_⟩
  · exact List.mem_takeWhile_imp (List.mem_reverse.1 hc)
  · rw [trim, trimBy, ← List.reverse_append, List.takeWhile_append_dropWhile, List.reverse_reverse,
      List.takeWhile_append_dropWhile]

/-- The characters of a trimmed text are characters of the text. -/
lemma mem_of_mem_trim {s : Text} {c : Char} (h : c ∈ s.trim) : c ∈ s := by
  obtain ⟨front, back, -, -, hs⟩ := s.exists_eq_append_trim
  rw [hs]
  exact List.mem_append_right _ (List.mem_append_left _ h)

/-- Blanks at the beginning of a text do not count. -/
lemma trim_append_of_blank_left {s : Text} (hs : ∀ c ∈ s, isBlank c = true) (t : Text) :
    (s ++ t).trim = t.trim := by
  rw [trim, trimBy, List.dropWhile_append_of_pos hs]
  rfl

/-- A trimmed text neither begins nor ends with a blank. -/
lemma ends_trim (s : Text) :
    (∀ c ∈ s.trim.head?, isBlank c = false) ∧ ∀ c ∈ s.trim.getLast?, isBlank c = false := by
  have htrim : s.trim = (s.dropWhile isBlank).rdropWhile isBlank := rfl
  rw [htrim]
  constructor
  · intro c hc
    obtain ⟨rest, hrest⟩ := List.rdropWhile_prefix isBlank (l := s.dropWhile isBlank)
    have hhead : (s.dropWhile isBlank).head? = some c := by
      rw [← hrest, List.head?_append, Option.mem_def.1 hc, Option.some_or]
    have := List.head?_dropWhile_not isBlank s
    rw [hhead] at this
    exact this
  · intro c hc
    obtain ⟨hne, rfl⟩ := List.mem_getLast?_eq_getLast hc
    simpa using List.rdropWhile_last_not isBlank _ hne

/-- Trimming a second time changes nothing. -/
lemma trim_trim (s : Text) : s.trim.trim = s.trim :=
  trim_eq_self (ends_trim s).1 (ends_trim s).2

/-! ## Lines that are not blank -/

/-- The lines of a text that are not blank, trimmed. -/
def filledLines (s : Text) : List Text :=
  (s.lines.map trim).filter fun line => !line.isEmpty

/-- A line feed separates lines that are not blank from one another, and does not count otherwise.
Everything about them follows from this. -/
lemma filledLines_append_newline (s t : Text) :
    (s ++ '\n' :: t).filledLines = s.filledLines ++ t.filledLines := by
  rw [filledLines, lines_append_newline, List.map_append, List.filter_append]
  rfl

/-- A text on one line has that line, trimmed, if it is not blank. -/
lemma filledLines_of_not_mem {s : Text} (h : '\n' ∉ s) :
    s.filledLines = [s.trim].filter fun line => !line.isEmpty := by
  rw [filledLines, lines_of_not_mem h, List.map_singleton]

/-- A blank at the beginning of a text changes none of its lines that are not blank. -/
lemma filledLines_cons_of_blank {c : Char} (hc : isBlank c = true) (s : Text) :
    filledLines (c :: s) = s.filledLines := by
  by_cases hn : c = '\n'
  · subst hn
    exact filledLines_append_newline [] s
  · obtain ⟨line, rest, hlines⟩ := List.exists_cons_of_ne_nil (lines_ne_nil s)
    have htrim : trim (c :: line) = line.trim :=
      trim_append_of_blank_left (s := [c]) (by simpa using hc) line
    rw [filledLines, filledLines, lines_cons, if_neg hn, hlines, List.modifyHead_cons,
      List.map_cons, List.map_cons, htrim]

/-- A blank at the end of a text changes none of its lines that are not blank. -/
lemma filledLines_append_singleton_of_blank {c : Char} (hc : isBlank c = true) (s : Text) :
    (s ++ [c]).filledLines = s.filledLines := by
  by_cases hn : c = '\n'
  · subst hn
    rw [filledLines_append_newline]
    exact List.append_nil _
  -- The last line begins behind the last line feed.
  have hlast : ∀ line : Text, '\n' ∉ line → (line ++ [c]).filledLines = line.filledLines := by
    intro line hline
    have hline' : '\n' ∉ line ++ [c] := by simpa [hline] using Ne.symm hn
    rw [filledLines_of_not_mem hline, filledLines_of_not_mem hline',
      trim_append_of_blank line (t := [c]) (by simpa using hc)]
  by_cases hs : '\n' ∈ s
  · obtain ⟨back, front, hback, hnot⟩ := List.eq_append_cons_of_mem (List.mem_reverse.2 hs)
    obtain rfl : s = front.reverse ++ '\n' :: back.reverse := by
      rw [← List.reverse_reverse s, hback]
      simp
    rw [List.append_assoc, List.cons_append, filledLines_append_newline,
      filledLines_append_newline, hlast _ (by simpa using hnot)]
  · exact hlast s hs

/-- Blanks at both ends of a text change none of its lines that are not blank. -/
lemma filledLines_append_of_blank {front back : Text} (hf : ∀ c ∈ front, isBlank c = true)
    (hb : ∀ c ∈ back, isBlank c = true) (s : Text) :
    (front ++ (s ++ back)).filledLines = s.filledLines := by
  have hback : (s ++ back).filledLines = s.filledLines := by
    induction back using List.reverseRecOn with
    | nil => rw [List.append_nil]
    | append_singleton back c ih =>
      rw [← List.append_assoc, filledLines_append_singleton_of_blank (hb c (by simp))]
      exact ih fun d hd => hb d (List.mem_append_left [c] hd)
  induction front with
  | nil => exact hback
  | cons c front ih =>
    rw [List.cons_append, filledLines_cons_of_blank (hf c List.mem_cons_self)]
    exact ih fun d hd => hf d (List.mem_cons_of_mem c hd)

/-- Trimming a text keeps its lines that are not blank. -/
lemma filledLines_trim (s : Text) : s.trim.filledLines = s.filledLines := by
  obtain ⟨front, back, hf, hb, hs⟩ := s.exists_eq_append_trim
  conv_rhs => rw [hs, filledLines_append_of_blank hf hb]

/-- Joining pairs of carriage return and line feed keeps the lines that are not blank. -/
lemma filledLines_joinCrLf (s : Text) : s.joinCrLf.filledLines = s.filledLines := by
  rw [filledLines, filledLines, map_trim_lines_joinCrLf]

end EventPipeline.Text
