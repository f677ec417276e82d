import EventPipeline.Lint
import EventPipeline.Proofs.Text.Lines
import Mathlib.Data.List.Basic

/-!
# What linting remarks on

The pass over the lines of a code carries whether a block was opened before. Here it is compared
with a rule that carries nothing: `Deserves` says of one line, and of the lines in front of it, what
there is to remark on. The remarks are what the rule says, line by line and in a fixed order
(`mem_lint_iff`), so they depend on no line behind the one that they are about, and on no carriage
return at the end of a line.
-/

namespace EventPipeline.Lint

/-! ## The rule -/

/-- An active line is neither blank nor a comment. -/
structure IsActive (line : Text) : Prop where
  /-- It is not blank. -/
  filled : line.trim ≠ []
  /-- It is not a comment. -/
  said : line.trim.head? ≠ some '#'

/-- A line ends with a colon when only blanks are behind it. -/
def EndsWithColon (line : Text) : Prop :=
  line.trim.getLast? = some ':'

/-- A block is open behind lines of which an active one ends with a colon. -/
def IsOpenBehind (front : List Text) : Prop :=
  ∃ earlier ∈ front, IsActive earlier ∧ EndsWithColon earlier

/-- What there is to remark on at an active line that stands behind others. -/
inductive Deserves (front : List Text) (line : Text) : Concern → Prop
  /-- It opens no block and is not indented, although a block was opened before. -/
  | indentation (active : IsActive line) (behind : IsOpenBehind front)
    (closed : ¬ EndsWithColon line) (space : line.head? ≠ some ' ') (tab : line.head? ≠ some '\t') :
    Deserves front line .indentation
  /-- It holds a semicolon. -/
  | semicolon (active : IsActive line) (held : ';' ∈ line.trim) : Deserves front line .semicolon

/-- A remark precedes another one when it is about an earlier line, or about the indentation of the
line whose semicolon the other one is about. -/
def Precedes (r other : Diagnostic) : Prop :=
  r.line < other.line ∨
    r.line = other.line ∧ r.concern = .indentation ∧ other.concern = .semicolon

/-- Nothing precedes itself. -/
lemma Precedes.ne {r other : Diagnostic} (h : Precedes r other) : r ≠ other := by
  rintro rfl
  obtain hline | ⟨-, hindentation, hsemicolon⟩ := h
  · exact lt_irrefl _ hline
  · rw [hindentation] at hsemicolon
    contradiction

/-! ## One line -/

/-- The check for active lines finds the active lines. -/
lemma isActive_iff (line : Text) : isActive line = true ↔ IsActive line := by
  unfold isActive
  constructor
  · intro h
    split at h
    · contradiction
    · rename_i c rest htrim
      exact ⟨by simp [htrim], by simpa [htrim] using h⟩
  · rintro ⟨hfilled, hsaid⟩
    split
    · contradiction
    · rename_i c rest htrim
      simpa [htrim] using hsaid

/-- The check for colons finds the lines that end with one. -/
lemma opensBlock_iff (line : Text) : opensBlock line = true ↔ EndsWithColon line := by
  rw [opensBlock, Text.endsWith, List.isSuffixOf_iff_suffix,
    List.singleton_suffix_iff_getLast?_eq_some]
  rfl

/-- The check for indentation looks at the first character. -/
lemma isIndented_iff (line : Text) :
    isIndented line = true ↔ line.head? = some ' ' ∨ line.head? = some '\t' := by
  cases line with
  | nil => simp [isIndented]
  | cons c rest => simp [isIndented]

/-- Whether a line is active and opens a block. -/
def isOpening (line : Text) : Bool :=
  isActive line && opensBlock line

/-- What the pass remarks on at one line, be it active or not. -/
def concernsAt (opened : Bool) (line : Text) : List Concern :=
  if isActive line then lineConcerns opened line else []

/-- The pass goes on behind every line in the same way. -/
lemma lintFrom_cons (opened : Bool) (number : Nat) (line : Text) (rest : List Text) :
    lintFrom opened number (line :: rest) =
      (concernsAt opened line).map (⟨·, number⟩) ++
        lintFrom (opened || isOpening line) (number + 1) rest := by
  cases h : isActive line <;> simp [lintFrom, concernsAt, isOpening, h]

/-- At one line the pass remarks on what the rule says. -/
lemma mem_concernsAt_iff {opened : Bool} {front : List Text}
    (hopened : opened = true ↔ IsOpenBehind front) (line : Text) (concern : Concern) :
    concern ∈ concernsAt opened line ↔ Deserves front line concern := by
  have hindent : (opened && !opensBlock line && !isIndented line) = true ↔
      IsOpenBehind front ∧ ¬ EndsWithColon line ∧
        line.head? ≠ some ' ' ∧ line.head? ≠ some '\t' := by
    rw [← hopened, ← opensBlock_iff, Ne, Ne, ← not_or, ← isIndented_iff]
    simp [and_assoc]
  unfold concernsAt
  constructor
  · intro h
    split at h
    · rename_i hactive
      rw [isActive_iff] at hactive
      rcases List.mem_append.1 h with h | h
      · split at h
        · rename_i hlacks
          obtain rfl := List.mem_singleton.1 h
          obtain ⟨hbehind, hclosed, hspace, htab⟩ := hindent.1 hlacks
          exact .indentation hactive hbehind hclosed hspace htab
        · contradiction
      · split at h
        · rename_i hheld
          obtain rfl := List.mem_singleton.1 h
          exact .semicolon hactive (List.contains_iff_mem.1 hheld)
        · contradiction
    · contradiction
  · rintro (⟨hactive, hbehind, hclosed, hspace, htab⟩ | ⟨hactive, hheld⟩)
    · rw [if_pos ((isActive_iff line).2 hactive), lineConcerns,
        if_pos (hindent.2 ⟨hbehind, hclosed, hspace, htab⟩)]
      exact List.mem_append_left _ (List.mem_singleton_self _)
    · rw [if_pos ((isActive_iff line).2 hactive), lineConcerns,
        if_pos (List.contains_iff_mem.2 hheld)]
      exact List.mem_append_right _ (List.mem_singleton_self _)

/-- The remarks on one line are in order. -/
lemma pairwise_concernsAt (opened : Bool) (line : Text) (number : Nat) :
    ((concernsAt opened line).map fun concern => (⟨concern, number⟩ : Diagnostic)).Pairwise
      Precedes := by
  unfold concernsAt lineConcerns
  split
  · split <;> split <;> simp [Precedes]
  · exact List.Pairwise.nil

/-! ## All lines -/

/-- A block is open behind a line and those in front of it if one was open, or if the line opens
one. -/
lemma isOpenBehind_append_singleton {opened : Bool} {front : List Text}
    (hopened : opened = true ↔ IsOpenBehind front) (line : Text) :
    (opened || isOpening line) = true ↔ IsOpenBehind (front ++ [line]) := by
  simp only [Bool.or_eq_true, hopened, isOpening, Bool.and_eq_true, isActive_iff, opensBlock_iff,
    IsOpenBehind, List.mem_append, List.mem_singleton]
  constructor
  · rintro (⟨earlier, hmem, hopens⟩ | hopens)
    · exact ⟨earlier, .inl hmem, hopens⟩
    · exact ⟨line, .inr rfl, hopens⟩
  · rintro ⟨earlier, hmem | rfl, hopens⟩
    · exact .inl ⟨earlier, hmem, hopens⟩
    · exact .inr hopens

/-- The pass remarks on what the rule says, given what was opened before. -/
lemma mem_lintFrom_iff {opened : Bool} {past : List Text}
    (hopened : opened = true ↔ IsOpenBehind past) (number : Nat) (ls : List Text)
    (concern : Concern) (n : Nat) :
    ⟨concern, n⟩ ∈ lintFrom opened number ls ↔
      ∃ front line back, ls = front ++ line :: back ∧ n = number + front.length ∧
        Deserves (past ++ front) line concern := by
  induction ls generalizing opened past number with
  | nil =>
    constructor
    · exact fun h => absurd h List.not_mem_nil
    · rintro ⟨front, line, back, h, -⟩
      simp at h
  | cons line rest ih =>
    have hfirst : (⟨concern, n⟩ : Diagnostic) ∈
        (concernsAt opened line).map (⟨·, number⟩) ↔
          n = number ∧ Deserves past line concern := by
      rw [← mem_concernsAt_iff hopened]
      simp [and_comm, eq_comm]
    rw [lintFrom_cons, List.mem_append, hfirst, ih (isOpenBehind_append_singleton hopened line)]
    constructor
    · rintro (⟨rfl, hdeserves⟩ | ⟨front, l, back, rfl, rfl, hdeserves⟩)
      · exact ⟨[], line, rest, rfl, rfl, by rwa [List.append_nil]⟩
      · refine ⟨line :: front, l, back, rfl, by rw [List.length_cons]; omega, ?_⟩
        rwa [List.append_assoc] at hdeserves
    · rintro ⟨front, l, back, hls, rfl, hdeserves⟩
      cases front with
      | nil =>
        obtain ⟨rfl, rfl⟩ := List.cons.inj hls
        exact .inl ⟨rfl, by rwa [List.append_nil] at hdeserves⟩
      | cons first front =>
        obtain ⟨rfl, rfl⟩ := List.cons.inj hls
        refine .inr ⟨front, l, back, rfl, by rw [List.length_cons]; omega, ?_⟩
        rwa [List.append_assoc]

/-- The pass remarks on no line in front of the one that it begins with. -/
lemma le_line_of_mem_lintFrom {opened : Bool} {number : Nat} {ls : List Text} {r : Diagnostic}
    (h : r ∈ lintFrom opened number ls) : number ≤ r.line := by
  induction ls generalizing opened number with
  | nil => contradiction
  | cons line rest ih =>
    rw [lintFrom_cons] at h
    rcases List.mem_append.1 h with h | h
    · obtain ⟨concern, -, rfl⟩ := List.mem_map.1 h
      exact le_rfl
    · exact (Nat.le_succ number).trans (ih h)

/-- The remarks are in order. -/
lemma pairwise_lintFrom (opened : Bool) (number : Nat) (ls : List Text) :
    (lintFrom opened number ls).Pairwise Precedes := by
  induction ls generalizing opened number with
  | nil => exact List.Pairwise.nil
  | cons line rest ih =>
    rw [lintFrom_cons]
    refine List.pairwise_append.2 ⟨pairwise_concernsAt opened line number, ih _ _, ?_⟩
    intro r hr other hother
    obtain ⟨concern, -, rfl⟩ := List.mem_map.1 hr
    exact .inl (le_line_of_mem_lintFrom hother)

/-- The pass over some lines and then over others. -/
lemma lintFrom_append (opened : Bool) (number : Nat) (ls more : List Text) :
    lintFrom opened number (ls ++ more) =
      lintFrom opened number ls ++
        lintFrom (opened || ls.any isOpening) (number + ls.length) more := by
  induction ls generalizing opened number with
  | nil => simp [lintFrom]
  | cons line rest ih =>
    rw [List.cons_append, lintFrom_cons, lintFrom_cons, ih, List.append_assoc, List.any_cons,
      Bool.or_assoc, List.length_cons, Nat.add_assoc, Nat.add_comm 1]

/-- A carriage return at the end of a line changes nothing about it. -/
lemma concernsAt_withoutReturn (opened : Bool) (line : Text) :
    concernsAt opened (Text.withoutReturn line) = concernsAt opened line := by
  have htrim := Text.trim_withoutReturn line
  have hactive : isActive (Text.withoutReturn line) = isActive line := by
    simp only [isActive, htrim]
  unfold concernsAt
  rw [hactive]
  split
  · rename_i h
    -- What is left of an active line is not empty, so that it begins as the line does.
    have hne : Text.withoutReturn line ≠ [] := by
      intro hnil
      rw [isActive, ← htrim, hnil] at h
      contradiction
    obtain ⟨blanks, -, hline⟩ := Text.exists_withoutReturn_append line
    have hhead : (Text.withoutReturn line).head? = line.head? := by
      conv_rhs => rw [hline, List.head?_append_of_ne_nil _ hne]
    have hindented : isIndented (Text.withoutReturn line) = isIndented line := by
      rw [Bool.eq_iff_iff, isIndented_iff, isIndented_iff, hhead]
    unfold lineConcerns opensBlock
    rw [htrim, hindented]
  · rfl

/-- A carriage return at the end of a line does not change whether it opens a block. -/
lemma isOpening_withoutReturn (line : Text) :
    isOpening (Text.withoutReturn line) = isOpening line := by
  simp only [isOpening, isActive, opensBlock, Text.trim_withoutReturn]

/-- The pass does not notice carriage returns at the ends of lines. -/
lemma lintFrom_ended (opened : Bool) (number : Nat) (ls : List Text) :
    lintFrom opened number (Text.ended ls) = lintFrom opened number ls := by
  fun_induction Text.ended ls generalizing opened number with
  | case1 => rfl
  | case2 => rfl
  | case3 line next rest ih =>
    rw [lintFrom_cons, concernsAt_withoutReturn, isOpening_withoutReturn, ih, ← lintFrom_cons]

/-- The remarks on a code are what the rule says of its lines: there is one just where it says so,
they are in order of lines, the one on indentation in front of the one on a semicolon, and there are
no others and none twice. Code that is put on further lines behind it adds remarks on these lines
only, and line ends with carriage returns give the remarks that plain ones give. -/
theorem mem_lint_iff (code : Text) :
    (Concern.indentation.message = "Expected indentation".toList ∧
      Concern.semicolon.message = "Semicolons are not typically used in Python".toList) ∧
    (∀ concern n, ⟨concern, n⟩ ∈ lint code ↔
      ∃ front line back, code.lines = front ++ line :: back ∧ n = front.length + 1 ∧
        Deserves front line concern) ∧
    (lint code).Pairwise Precedes ∧ (lint code).Nodup ∧
    (∀ more : Text, ∃ rest, lint (code ++ '\n' :: more) = lint code ++ rest ∧
      ∀ r ∈ rest, code.lines.length < r.line) ∧
    lint code.joinCrLf = lint code := by
  refine ⟨⟨rfl, rfl⟩, fun concern n => ?_, pairwise_lintFrom false 1 code.lines,
    (pairwise_lintFrom false 1 code.lines).imp Precedes.ne, fun more => ?_, ?_⟩
  · have hnone : false = true ↔ IsOpenBehind [] := by simp [IsOpenBehind]
    rw [lint, mem_lintFrom_iff hnone]
    simp only [List.nil_append, Nat.add_comm 1]
  · refine ⟨lintFrom (code.lines.any isOpening) (1 + code.lines.length) more.lines, ?_, ?_⟩
    · rw [lint, Text.lines_append_newline, lintFrom_append, Bool.false_or]
      rfl
    · intro r hr
      have := le_line_of_mem_lintFrom hr
      omega
  · rw [lint, Text.lines_joinCrLf, lintFrom_ended]
    rfl

/-- A block, a line that was put behind it without its indentation, and a comment. -/
def pasted : Text :=
  ['i', 'f', ' ', 'x', ':', '\r', '\n', 'y', ';', '\n', '#', ';']

/-- The line behind the colon lacks indentation, the semicolon in the comment is passed over, and
nothing of this changes when the code stands twice. -/
theorem mem_lint_iff_pasted :
    ⟨.indentation, 2⟩ ∈ lint pasted ∧ ⟨.semicolon, 3⟩ ∉ lint pasted ∧
      ∃ rest, lint (pasted ++ '\n' :: pasted) = lint pasted ++ rest ∧ ∀ r ∈ rest, 3 < r.line := by
  obtain ⟨-, hrule, -, -, hmore, -⟩ := mem_lint_iff pasted
  refine ⟨(hrule _ _).2 ?_, by decide, hmore pasted⟩
  exact ⟨[['i', 'f', ' ', 'x', ':', '\r']], ['y', ';'], [['#', ';']], by decide, rfl,
    .indentation ⟨by decide, by decide⟩
      ⟨_, List.mem_singleton_self _, ⟨by decide, by decide⟩, rfl⟩ (by unfold EndsWithColon; decide)
      (by decide) (by decide)⟩

end EventPipeline.Lint
