import EventPipeline.Proofs.Pointy.Entries
import Mathlib.Data.List.Pairwise
import Mathlib.Order.Nat

/-!
# Remarks in the order of the lines

Whether a connection names an event that is declared is known only when the whole text has been
read. So remarks are made in two passes, one over the entries as they are read and one over the
connections in the end, and sorted by their lines afterwards. Sorting keeps the order of remarks on
one line, and every line has one entry at most, since a block is said at the line of its name and
nothing else is said within it (`map_line_entriesFrom`). So the result is what one pass would remark
on that knows all names beforehand (`remarks_entries`). What is shown of the remarks on a text is
shown of that pass, `diagnostics`, in which every entry has its remarks in its place.
-/

namespace EventPipeline

/-! ## Lists in the order of a key -/

section Sorted

variable {α : Type} (key : α → Nat)

/-- The order of a key is transitive. -/
lemma key_le_trans (a b c : α) (hab : decide (key a ≤ key b) = true)
    (hbc : decide (key b ≤ key c) = true) : decide (key a ≤ key c) = true := by
  simp only [decide_eq_true_eq] at hab hbc ⊢
  omega

/-- The order of a key is total. -/
lemma key_le_total (a b : α) : (decide (key a ≤ key b) || decide (key b ≤ key a)) = true := by
  simp only [Bool.or_eq_true, decide_eq_true_eq]
  omega

/-- Sorting by a key gives the order of the key. -/
lemma pairwise_mergeSort_key (l : List α) :
    (l.mergeSort fun a b => key a ≤ key b).Pairwise fun a b => key a ≤ key b :=
  (List.pairwise_mergeSort (key_le_trans key) (key_le_total key) l).imp of_decide_eq_true

/-- Sorting by a key keeps the order of the items of one key. -/
lemma filter_mergeSort (l : List α) (n : Nat) :
    (l.mergeSort fun a b => key a ≤ key b).filter (key · = n) = l.filter (key · = n) := by
  have hsorted : (l.filter (key · = n)).Pairwise fun a b => decide (key a ≤ key b) = true := by
    apply List.pairwise_of_forall_mem_list
    intro a ha b hb
    have hka : key a = n := of_decide_eq_true (List.mem_filter.1 ha).2
    have hkb : key b = n := of_decide_eq_true (List.mem_filter.1 hb).2
    rw [hka, hkb]
    exact decide_eq_true le_rfl
  have hsublist := List.sublist_mergeSort (key_le_trans key) (key_le_total key) hsorted
    List.filter_sublist
  have hkept := hsublist.filter (key · = n)
  rw [List.filter_filter] at hkept
  simp only [Bool.and_self] at hkept
  have hperm := (List.mergeSort_perm l fun a b => decide (key a ≤ key b)).filter (key · = n)
  exact (hkept.eq_of_length hperm.length_eq.symm).symm

/-- Lists in the order of a key are the same if they have the same items of every key in the same
order. -/
lemma eq_of_filter_eq {l l' : List α} (h : l.Pairwise fun a b => key a ≤ key b)
    (h' : l'.Pairwise fun a b => key a ≤ key b)
    (hfilter : ∀ n, l.filter (key · = n) = l'.filter (key · = n)) : l = l' := by
  have hmem : ∀ {l l' : List α}, (∀ n, l.filter (key · = n) = l'.filter (key · = n)) →
      ∀ a ∈ l, a ∈ l' := by
    intro l l' hfilter a ha
    have hself : a ∈ l.filter (key · = key a) := List.mem_filter.2 ⟨ha, decide_eq_true rfl⟩
    rw [hfilter] at hself
    exact (List.mem_filter.1 hself).1
  induction l generalizing l' with
  | nil =>
    apply Eq.symm
    apply List.eq_nil_iff_forall_not_mem.2
    intro b hb
    exact absurd (hmem (fun n => (hfilter n).symm) b hb) List.not_mem_nil
  | cons a rest ih =>
    cases l' with
    | nil => exact absurd (hmem hfilter a List.mem_cons_self) List.not_mem_nil
    | cons b rest' =>
      rw [List.pairwise_cons] at h h'
      -- Each first item is among the items of the other list, so no key is less than theirs.
      have hle : key a ≤ key b := by
        rcases List.mem_cons.1 (hmem (fun n => (hfilter n).symm) b List.mem_cons_self) with rfl | hb
        · exact le_rfl
        · exact h.1 b hb
      have hge : key b ≤ key a := by
        rcases List.mem_cons.1 (hmem hfilter a List.mem_cons_self) with rfl | ha
        · exact le_rfl
        · exact h'.1 a ha
      have hkey : key b = key a := hge.antisymm hle
      have hfirst := hfilter (key a)
      simp only [List.filter_cons, hkey, decide_true, if_true] at hfirst
      obtain rfl := (List.cons.inj hfirst).1
      have hrest : ∀ n, rest.filter (key · = n) = rest'.filter (key · = n) := by
        intro n
        by_cases ha : key a = n <;> simpa [ha] using hfilter n
      rw [ih h.2 h'.2 hrest]

end Sorted

namespace Pointy

/-! ## Remarks in order -/

/-- The remarks on one entry, given the names of all events and those declared before it. -/
def concerns (strict : Bool) (declared seen : List Text) : Item → List Concern
  | .event name _ => if strict && seen.contains name then [.duplicate name] else []
  | .connection source target =>
    ((endpoints source target).filter fun name => !declared.contains name).map .undeclared
  | .unrecognized _ => [.unrecognized]
  | .unterminated name => [.unterminated name]

/-- The remarks on entries in their order, given the names of all events and those declared
before. -/
def diagnosticsFrom (strict : Bool) (declared : List Text) :
    (seen : List Text) → List Entry → List Diagnostic
  | _, [] => []
  | seen, e :: rest =>
    (concerns strict declared seen e.item).map (⟨·, e.line⟩) ++
      diagnosticsFrom strict declared (e.item.declare seen) rest

/-- The remarks on what a text says, in the order of the entries. -/
def diagnostics (strict : Bool) (es : List Entry) : List Diagnostic :=
  diagnosticsFrom strict (events strict es).keys [] es

/-- Every entry is remarked on, given the names that some entries before it declare. -/
lemma exists_seen_of_mem {es : List Entry} {e : Entry} (he : e ∈ es) (strict : Bool)
    (declared seen : List Text) :
    ∃ seen', ∀ c ∈ concerns strict declared seen' e.item,
      ⟨c, e.line⟩ ∈ diagnosticsFrom strict declared seen es := by
  induction es generalizing seen with
  | nil => contradiction
  | cons first rest ih =>
    rcases List.mem_cons.1 he with rfl | he
    · exact ⟨seen, fun c hc => List.mem_append_left _ (List.mem_map_of_mem hc)⟩
    · obtain ⟨seen', h⟩ := ih he (first.item.declare seen)
      exact ⟨seen', fun c hc => List.mem_append_right _ (h c hc)⟩

/-! ## Lines of remarks -/

/-- Entries come in the order of their lines: each is at a line of its own, but for one that is at
the line of the open block. -/
lemma map_line_entriesFrom (current : Option Block) (number : Nat) (ls : List Text) :
    ((entriesFrom current number ls).map Entry.line).Sublist
      ((current.map Block.line).toList ++ List.range' number ls.length) := by
  fun_induction entriesFrom current number ls with
  | case1 => exact List.Sublist.refl _
  | case2 => exact List.Sublist.refl _
  | case3 b number line rest hclosing ih =>
    exact (ih.trans (List.sublist_cons_self number _)).cons_cons b.line
  | case4 b number line rest hclosing ih =>
    have hline : (b.add line).line = b.line := (foldl_add_name_line [line] b).2
    rw [Option.map_some, hline] at ih
    exact ih.trans ((List.sublist_cons_self number _).cons_cons b.line)
  | case5 number line rest hline ih => exact ih.trans (List.sublist_cons_self number _)
  | case6 number line rest name hline ih => exact ih
  | case7 number line rest source target hline ih => exact ih.cons_cons number
  | case8 number line rest hline ih => exact ih.cons_cons number

/-- A remark is at the line of an entry. -/
lemma line_mem_of_mem_diagnosticsFrom {strict : Bool} {declared seen : List Text} {es : List Entry}
    {r : Diagnostic} (h : r ∈ diagnosticsFrom strict declared seen es) :
    r.line ∈ es.map Entry.line := by
  induction es generalizing seen with
  | nil => contradiction
  | cons e rest ih =>
    rcases List.mem_append.1 h with h | h
    · obtain ⟨c, -, rfl⟩ := List.mem_map.1 h
      exact List.mem_cons_self
    · exact List.mem_cons_of_mem _ (ih h)

/-- Remarks come in the order of the entries. -/
lemma pairwise_line_diagnosticsFrom {es : List Entry} (h : (es.map Entry.line).Pairwise (· < ·))
    (strict : Bool) (declared seen : List Text) :
    (diagnosticsFrom strict declared seen es).Pairwise fun r r' => r.line ≤ r'.line := by
  induction es generalizing seen with
  | nil => exact List.Pairwise.nil
  | cons e rest ih =>
    obtain ⟨hfirst, hrest⟩ := List.pairwise_cons.1 h
    refine List.pairwise_append.2 ⟨?_, ih hrest _, fun r hr r' hr' => ?_⟩
    · exact List.pairwise_map.2 (List.pairwise_of_forall fun _ _ => le_rfl)
    · obtain ⟨c, -, rfl⟩ := List.mem_map.1 hr
      exact (hfirst _ (line_mem_of_mem_diagnosticsFrom hr')).le

/-! ## Remarks of two passes -/

/-- An entry is remarked on in one of the two passes. -/
lemma passConcerns_append_endConcerns (strict : Bool) (declared seen : List Text) (item : Item) :
    passConcerns strict seen item ++ endConcerns declared item =
      concerns strict declared seen item := by
  cases item with
  | connection source target => rfl
  | event name code => exact List.append_nil _
  | unrecognized line => rfl
  | unterminated name => rfl

/-- The remarks on an entry are all on its line. -/
lemma filter_line_map (cs : List Concern) (line n : Nat) :
    (cs.map fun c => (⟨c, line⟩ : Diagnostic)).filter (fun r => r.line = n) =
      if line = n then cs.map (⟨·, line⟩) else [] := by
  split
  · rename_i h
    apply List.filter_eq_self.2
    intro r hr
    obtain ⟨c, -, rfl⟩ := List.mem_map.1 hr
    exact decide_eq_true h
  · rename_i h
    apply List.filter_eq_nil_iff.2
    intro r hr
    obtain ⟨c, -, rfl⟩ := List.mem_map.1 hr
    simpa using h

/-- On every line the two passes make the remarks of the one pass, in the same order. -/
lemma filter_line_passRemarks (strict : Bool) (declared seen : List Text) {es : List Entry}
    (h : (es.map Entry.line).Pairwise (· < ·)) (n : Nat) :
    (passRemarks strict seen es ++ endRemarks declared es).filter (fun r => r.line = n) =
      (diagnosticsFrom strict declared seen es).filter (fun r => r.line = n) := by
  induction es generalizing seen with
  | nil => rfl
  | cons e rest ih =>
    obtain ⟨hfirst, hrest⟩ := List.pairwise_cons.1 h
    have hpasses := ih (e.item.declare seen) hrest
    rw [List.filter_append] at hpasses
    have hends : endRemarks declared (e :: rest) =
        (endConcerns declared e.item).map (⟨·, e.line⟩) ++ endRemarks declared rest := rfl
    rw [passRemarks, hends, diagnosticsFrom]
    simp only [List.filter_append, filter_line_map]
    split
    · rename_i hline
      -- No other entry is on the line.
      have hnone : (diagnosticsFrom strict declared (e.item.declare seen) rest).filter
          (fun r => r.line = n) = [] := by
        apply List.filter_eq_nil_iff.2
        intro r hr
        have hlater := hfirst _ (line_mem_of_mem_diagnosticsFrom hr)
        simp only [decide_eq_true_eq]
        omega
      rw [hnone] at hpasses ⊢
      obtain ⟨hpass, hend⟩ := List.append_eq_nil_iff.1 hpasses
      rw [hpass, hend, List.append_nil, List.append_nil, List.append_nil, ← List.map_append,
        passConcerns_append_endConcerns]
    · exact hpasses

/-- Sorting by the lines puts the remarks on a text in the order of the entries. -/
theorem remarks_entries (strict : Bool) (s : Text) :
    remarks strict (entries s) = diagnostics strict (entries s) := by
  have hlines : ((entries s).map Entry.line).Pairwise (· < ·) :=
    List.Pairwise.sublist (map_line_entriesFrom none 1 _) List.pairwise_lt_range'
  apply eq_of_filter_eq Diagnostic.line
  · exact pairwise_mergeSort_key Diagnostic.line _
  · exact pairwise_line_diagnosticsFrom hlines strict _ []
  · intro n
    rw [remarks, filter_mergeSort Diagnostic.line, filter_line_passRemarks strict _ [] hlines,
      diagnostics]

/-- What is read from a text is its document, with the remarks in the order of the entries. -/
lemma read_eq (strict : Bool) (grid : Grid) (s : Text) :
    read strict grid s = (documentOf strict grid (entries s)).map fun d =>
      { document := d
        diagnostics := diagnostics strict (entries s)
        log := notesFrom strict [] (entries s) } := by
  rw [read, remarks_entries]

end Pointy

end EventPipeline
