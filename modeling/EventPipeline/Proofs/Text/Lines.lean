import EventPipeline.Text
import Mathlib.Data.List.TakeWhile
import Mathlib.Tactic.Common

/-!
# Lines and trimming

Joining the pairs of carriage return and line feed is a treatment of lines: every line but the last
loses one carriage return at its end, and nothing else changes (`lines_joinCrLf`). Since a carriage
return is a blank, trimming does not notice (`trim_withoutReturn`). These two facts carry every
statement about texts that are put together from pieces, where a piece may end with a carriage
return and the next one begin with a line feed.
-/

namespace EventPipeline.Text

/-! ## Trimming -/

/-- A text without leading characters of a class does not change when they are dropped. -/
lemma dropWhile_eq_self {p : Char → Bool} {s : Text} (h : ∀ c ∈ s.head?, p c = false) :
    s.dropWhile p = s := by
  cases s with
  | nil => rfl
  | cons c rest => rw [List.dropWhile_cons_of_neg (by simp [h c (by simp)])]

/-- Characters of the class at the end of a text do not count. -/
lemma trimBy_append_of_all {p : Char → Bool} (s : Text) {t : Text} (h : ∀ c ∈ t, p c = true) :
    (s ++ t).trimBy p = s.trimBy p := by
  have ht : t.dropWhile p = [] := List.dropWhile_eq_nil_iff.2 h
  unfold trimBy
  rw [List.dropWhile_append]
  split
  · rename_i hs
    rw [ht, List.isEmpty_iff.1 hs]
  · rw [List.reverse_append, List.dropWhile_append_of_pos (by simpa using h)]

/-- Blanks at the end of a text do not count. -/
lemma trim_append_of_blank (s : Text) {t : Text} (h : ∀ c ∈ t, isBlank c = true) :
    (s ++ t).trim = s.trim :=
  trimBy_append_of_all s h

/-- A line feed at the end of a text does not count. -/
lemma trim_append_newline (s : Text) : (s ++ ['\n']).trim = s.trim :=
  trim_append_of_blank s (List.all_eq_true.1 rfl)

/-- A text that neither begins nor ends with a blank is its own trimmed form. -/
lemma trim_eq_self {s : Text} (hf : ∀ c ∈ s.head?, isBlank c = false)
    (hl : ∀ c ∈ s.getLast?, isBlank c = false) : s.trim = s := by
  have hr : s.reverse.dropWhile isBlank = s.reverse :=
    dropWhile_eq_self (by simpa [List.head?_reverse] using hl)
  rw [trim, trimBy, dropWhile_eq_self hf, hr, List.reverse_reverse]

/-! ## Lines of texts put together -/

/-- The lines of two texts with a line feed between them are the lines of both. -/
lemma lines_append_newline (s t : Text) : (s ++ '\n' :: t).lines = s.lines ++ t.lines :=
  List.splitOn_append_cons_self s t

/-- A text without line feeds is its own only line. -/
lemma lines_of_not_mem {s : Text} (h : '\n' ∉ s) : s.lines = [s] :=
  List.splitOn_eq_singleton h

/-- The first character of a text either ends its first line or belongs to it. -/
lemma lines_cons (c : Char) (s : Text) :
    lines (c :: s) = if c = '\n' then [] :: s.lines else s.lines.modifyHead (c :: ·) := by
  simp only [lines, List.splitOn_cons_eq_if_modifyHead, beq_iff_eq]

/-- A line of a text holds no line feed. -/
lemma newline_not_mem_of_mem_lines {s line : Text} (h : line ∈ s.lines) : '\n' ∉ line := by
  induction s generalizing line with
  | nil =>
    rw [List.mem_singleton.1 h]
    exact List.not_mem_nil
  | cons c s ih =>
    rw [lines_cons] at h
    split at h
    · rcases List.mem_cons.1 h with rfl | h
      · exact List.not_mem_nil
      · exact ih h
    · rename_i hc
      obtain ⟨first, rest, hlines⟩ := List.exists_cons_of_ne_nil (lines_ne_nil s)
      rw [hlines] at h ih
      rcases List.mem_cons.1 h with rfl | h
      · rw [List.mem_cons, not_or]
        exact ⟨Ne.symm hc, ih List.mem_cons_self⟩
      · exact ih (List.mem_cons_of_mem first h)

/-- The characters of a line are characters of the text. -/
lemma mem_of_mem_lines {s line : Text} (h : line ∈ s.lines) {c : Char} (hc : c ∈ line) : c ∈ s := by
  induction s generalizing line with
  | nil =>
    rw [List.mem_singleton.1 h] at hc
    contradiction
  | cons d s ih =>
    rw [lines_cons] at h
    split at h
    · rcases List.mem_cons.1 h with rfl | h
      · contradiction
      · exact List.mem_cons_of_mem d (ih h hc)
    · obtain ⟨first, rest, hlines⟩ := List.exists_cons_of_ne_nil (lines_ne_nil s)
      rw [hlines] at h ih
      rcases List.mem_cons.1 h with rfl | h
      · rcases List.mem_cons.1 hc with rfl | hc
        · exact List.mem_cons_self
        · exact List.mem_cons_of_mem d (ih List.mem_cons_self hc)
      · exact List.mem_cons_of_mem d (ih (List.mem_cons_of_mem first h) hc)

/-- A text has at most one line more than it has characters. -/
lemma length_lines_le (s : Text) : s.lines.length ≤ s.length + 1 := by
  induction s with
  | nil => exact le_rfl
  | cons c s ih =>
    rw [lines_cons]
    split
    · simpa using ih
    · rw [List.length_modifyHead, List.length_cons]
      omega

/-! ## Carriage returns at the ends of lines -/

/-- A line without the carriage return at its end. -/
def withoutReturn (line : Text) : Text :=
  if line.getLast? = some '\r' then line.dropLast else line

/-- Every line but the last one without the carriage return at its end. -/
def ended : List Text → List Text
  | [] => []
  | [line] => [line]
  | line :: next :: rest => withoutReturn line :: ended (next :: rest)

/-- Only the last line keeps a carriage return at its end. -/
lemma ended_append {front back : List Text} (h : back ≠ []) :
    ended (front ++ back) = front.map withoutReturn ++ ended back := by
  induction front with
  | nil => rfl
  | cons line rest ih =>
    obtain ⟨next, more, hm⟩ := List.exists_cons_of_ne_nil
      (List.append_ne_nil_of_right_ne_nil rest h)
    rw [List.cons_append, hm, ended, ← hm, ih, List.map_cons, List.cons_append]

/-- Taking carriage returns off the ends of lines keeps the number of lines. -/
lemma length_ended (ls : List Text) : (ended ls).length = ls.length := by
  fun_induction ended ls with
  | case1 => rfl
  | case2 => rfl
  | case3 line next rest ih => exact congrArg (· + 1) ih

/-- A line is its form without the carriage return, and perhaps that behind it. -/
lemma exists_withoutReturn_append (line : Text) :
    ∃ blanks : Text, (∀ c ∈ blanks, isBlank c = true) ∧ line = withoutReturn line ++ blanks := by
  unfold withoutReturn
  split
  · rename_i h
    refine ⟨['\r'], List.all_eq_true.1 rfl, ?_⟩
    obtain ⟨front, rfl⟩ := List.getLast?_eq_some_iff.1 h
    simp
  · exact ⟨[], by simp, by simp⟩

/-- Trimming does not notice whether a carriage return at the end of a line is there. -/
lemma trim_append_withoutReturn (s line : Text) :
    (s ++ withoutReturn line).trim = (s ++ line).trim := by
  obtain ⟨blanks, hb, hl⟩ := exists_withoutReturn_append line
  conv_rhs => rw [hl, ← List.append_assoc]
  exact (trim_append_of_blank _ hb).symm

/-- A line without the carriage return at its end has the trimmed form of the line. -/
lemma trim_withoutReturn (line : Text) : (withoutReturn line).trim = line.trim :=
  trim_append_withoutReturn [] line

/-- Taking carriage returns off the ends of lines keeps their trimmed forms. -/
lemma map_trim_ended (ls : List Text) : (ended ls).map trim = ls.map trim := by
  fun_induction ended ls with
  | case1 => rfl
  | case2 => rfl
  | case3 line next rest ih =>
    rw [List.map_cons, ih, trim_withoutReturn]
    rfl

/-- A line that does not end with a carriage return stays as it is. -/
lemma withoutReturn_of_getLast?_ne {line : Text} (h : line.getLast? ≠ some '\r') :
    withoutReturn line = line :=
  if_neg h

/-- Joining carriage returns and line feeds takes one carriage return off the end of every line but
the last. -/
lemma lines_joinCrLf (s : Text) : s.joinCrLf.lines = ended s.lines := by
  fun_induction joinCrLf s with
  | case1 => rfl
  | case2 rest ih =>
    obtain ⟨l, ls, hl⟩ := List.exists_cons_of_ne_nil (lines_ne_nil rest)
    have hpair : lines ('\r' :: '\n' :: rest) = ['\r'] :: l :: ls := by
      simp [lines_cons, hl]
    rw [lines_cons, if_pos rfl, ih, hpair, hl]
    rfl
  | case3 c rest hpair ih =>
    rw [lines_cons, lines_cons, ih]
    obtain ⟨l, ls, hl⟩ := List.exists_cons_of_ne_nil (lines_ne_nil rest)
    rw [hl]
    split
    · rfl
    · cases ls with
      | nil => rfl
      | cons next more =>
        -- The pair is excluded, so a carriage return in front is not the end of its line.
        have hcl : withoutReturn (c :: l) = c :: withoutReturn l := by
          cases l with
          | nil =>
            have hr : rest = '\n' :: Text.unlines (next :: more) := by
              rw [← unlines_lines rest, hl]
              rfl
            have hc : c ≠ '\r' := fun e => hpair _ e hr
            simp [withoutReturn, hc]
          | cons d l =>
            by_cases hd : (d :: l).getLast? = some '\r' <;> simp [withoutReturn, hd]
        simp [ended, hcl]

/-- Joining pairs in two texts with a line feed between them takes a carriage return off the end of
every line of the first one, and is otherwise done in the second one. -/
lemma lines_joinCrLf_append_newline (s t : Text) :
    (s ++ '\n' :: t).joinCrLf.lines = s.lines.map withoutReturn ++ t.joinCrLf.lines := by
  rw [lines_joinCrLf, lines_append_newline, ended_append (lines_ne_nil t), lines_joinCrLf]

/-- Joining pairs keeps the trimmed forms of the lines. -/
lemma map_trim_lines_joinCrLf (s : Text) : s.joinCrLf.lines.map trim = s.lines.map trim := by
  rw [lines_joinCrLf, map_trim_ended]

end EventPipeline.Text
