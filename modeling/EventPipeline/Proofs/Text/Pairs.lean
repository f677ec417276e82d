import EventPipeline.Proofs.Text.Trimming
import Mathlib.Data.List.Infix

/-!
# Pairs of carriage return and line feed

Joining takes every pair of carriage return and line feed out of a text, but a carriage return in
front of a pair makes another one: a text is without pairs after joining just if no carriage return
stood in front of one (`pair_joinCrLf_iff`). A text without pairs does not change when it is joined
(`joinCrLf_eq_self_iff`), which is a matter of how its lines end (`joinCrLf_eq_self_iff_lines`).
-/

namespace EventPipeline.Text

/-- A carriage return and a line feed. -/
def pair : Text :=
  ['\r', '\n']

/-! ## Texts without pairs -/

/-- A text changes when it is joined just if it holds a pair. -/
lemma joinCrLf_eq_self_iff (s : Text) : s.joinCrLf = s ↔ ¬ pair <:+: s := by
  fun_induction joinCrLf s with
  | case1 => simp [pair]
  | case2 rest ih =>
    have hpair : pair <:+: '\r' :: '\n' :: rest := ⟨[], rest, rfl⟩
    simp [hpair]
  | case3 c rest hc ih =>
    have hstart : ¬ pair <+: c :: rest := by
      rintro ⟨t, ht⟩
      obtain ⟨rfl, rfl⟩ := List.cons.inj ht
      exact hc t rfl rfl
    rw [List.infix_cons_iff, not_or, List.cons.injEq, ih]
    simp [hstart]

/-- The lines of a text do not change when it is joined just if none but the last ends with a
carriage return. -/
lemma joinCrLf_eq_self_iff_lines (s : Text) :
    s.joinCrLf = s ↔ ∀ line ∈ s.lines.dropLast, withoutReturn line = line := by
  have hended : ∀ ls : List Text,
      ended ls = ls ↔ ∀ line ∈ ls.dropLast, withoutReturn line = line := by
    intro ls
    fun_induction ended ls with
    | case1 => simp
    | case2 line => simp
    | case3 line next rest ih =>
      rw [List.cons.injEq, ih, List.dropLast_cons_cons, List.forall_mem_cons]
  rw [← hended, ← lines_joinCrLf]
  constructor
  · intro h
    rw [h]
  · intro h
    rw [← unlines_lines s.joinCrLf, h, unlines_lines]

/-- Lines without line feeds are the lines of their text, if there are any. -/
lemma lines_unlines {ls : List Text} (hne : ls ≠ []) (h : ∀ line ∈ ls, '\n' ∉ line) :
    (unlines ls).lines = ls :=
  List.splitOn_intercalate '\n' h hne

/-! ## What joining leaves -/

/-- A joined text begins with a line feed just if the text begins with one or with a pair. -/
lemma head?_joinCrLf_eq_newline_iff (s : Text) :
    s.joinCrLf.head? = some '\n' ↔ s.head? = some '\n' ∨ pair <+: s := by
  fun_cases joinCrLf s with
  | case1 => simp [pair]
  | case2 rest =>
    have hpair : pair <+: '\r' :: '\n' :: rest := ⟨rest, rfl⟩
    simp [hpair]
  | case3 c rest hc =>
    have hpair : ¬ pair <+: c :: rest := by
      rintro ⟨t, ht⟩
      obtain ⟨rfl, rfl⟩ := List.cons.inj ht
      exact hc t rfl rfl
    simp [hpair]

/-- After joining a text holds a pair just if a carriage return stood in front of one. -/
lemma pair_joinCrLf_iff (s : Text) : pair <:+: s.joinCrLf ↔ '\r' :: pair <:+: s := by
  fun_induction joinCrLf s with
  | case1 => simp [pair]
  | case2 rest ih =>
    rw [List.infix_cons_iff, ih, List.infix_cons_iff, List.infix_cons_iff]
    simp [pair, List.cons_prefix_cons]
  | case3 c rest hc ih =>
    -- A new pair at the front is a carriage return and what becomes of a pair behind it.
    have hstart : pair <+: c :: joinCrLf rest ↔ '\r' :: pair <+: c :: rest := by
      have hrest : ∀ t : Text, ['\n'] <+: t ↔ t.head? = some '\n' := by
        intro t
        cases t <;> simp [List.cons_prefix_cons, eq_comm]
      have hnot : c = '\r' → rest.head? ≠ some '\n' := by
        rintro rfl hr
        obtain ⟨t, rfl⟩ := List.head?_eq_some_iff.1 hr
        exact hc t rfl rfl
      rw [pair, List.cons_prefix_cons, List.cons_prefix_cons, hrest,
        head?_joinCrLf_eq_newline_iff, pair]
      constructor
      · rintro ⟨hr, hhead | hpair⟩
        · exact absurd hhead (hnot hr.symm)
        · exact ⟨hr, hpair⟩
      · rintro ⟨hr, hpair⟩
        exact ⟨hr, .inr hpair⟩
    rw [List.infix_cons_iff, List.infix_cons_iff, hstart, ih]

/-- The last character of a text stays when it is joined. -/
lemma getLast?_joinCrLf (s : Text) : s.joinCrLf.getLast? = s.getLast? := by
  fun_induction joinCrLf s with
  | case1 => rfl
  | case2 rest ih =>
    rw [List.getLast?_cons, ih, List.getLast?_cons, List.getLast?_cons]
    simp
  | case3 c rest hc ih => rw [List.getLast?_cons, ih, List.getLast?_cons]

/-- The first character of a text stays when it is joined, unless it is a carriage return. -/
lemma head?_joinCrLf {s : Text} (h : s.head? ≠ some '\r') : s.joinCrLf.head? = s.head? := by
  fun_cases joinCrLf s with
  | case1 => rfl
  | case2 rest => exact absurd rfl h
  | case3 c rest hc => simp

/-- Joining leaves a text trimmed. -/
lemma trim_joinCrLf {s : Text} (h : s.trim = s) : s.joinCrLf.trim = s.joinCrLf := by
  obtain ⟨hhead, hlast⟩ := ends_trim s
  rw [h] at hhead hlast
  have hreturn : s.head? ≠ some '\r' := fun hr => absurd (hhead _ hr) (by decide)
  refine trim_eq_self ?_ ?_
  · rwa [head?_joinCrLf hreturn]
  · rwa [getLast?_joinCrLf]

end EventPipeline.Text
