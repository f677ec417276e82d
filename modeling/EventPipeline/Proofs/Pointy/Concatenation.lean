import EventPipeline.Proofs.Pointy.Reading
import EventPipeline.Proofs.Pointy.RoundTrip

/-!
# Reading two texts put together

A text whose blocks are all closed, a line feed and another text say what both of them say, one
after the other. Where a block is open at the end of the first text, the second one goes on with it,
so this is asked for; every prefix of the lines that leaves no block open is a place where reading
begins afresh (`entriesFrom_append`).

A carriage return at the end of the first text makes a pair with the line feed, so its last line
need not be the same in both readings. It has the same trimmed form, and only a line that is not
understood shows more than that (`map_bare_entriesFrom`).

The events of both texts are put together name by name: a name keeps its first place, and gets the
code of the second text, or in strict mode that of the first one (`read_append`).
-/

namespace EventPipeline

/-- The code of an event of a name, if there is one. -/
def Document.codeOf? (d : Document) (name : Text) : Option Text :=
  (d.events.find? fun e => e.name = .given name).map Event.code

namespace Pointy

/-! ## Entries without their places -/

/-- An item without the text of a line that is not understood. -/
def Item.bare : Item → Item
  | .unrecognized _ => .unrecognized []
  | item => item

/-- The items of entries, without their lines and without the text of lines that are not
understood. -/
def bareItems (es : List Entry) : List Item :=
  es.map fun e => e.item.bare

section Bare

variable {es es' : List Entry}

/-- What is picked from entries by their bare items is the same for the same bare items. -/
lemma filterMap_of_bareItems {α : Type} {pick : Entry → Option α}
    (hpick : ∀ e e', e.item.bare = e'.item.bare → pick e = pick e')
    (h : bareItems es = bareItems es') : es.filterMap pick = es'.filterMap pick := by
  induction es generalizing es' with
  | nil => rw [List.map_eq_nil_iff.1 h.symm]
  | cons e rest ih =>
    obtain ⟨e', rest', rfl, he, hrest⟩ := List.map_eq_cons_iff.1 h.symm
    rw [List.filterMap_cons, List.filterMap_cons, ih hrest.symm, hpick e e' he.symm]

/-- The blocks are among the bare items. -/
lemma blocks_congr (h : bareItems es = bareItems es') : blocks es = blocks es' := by
  refine filterMap_of_bareItems (fun e e' he => ?_) h
  obtain ⟨line, item⟩ := e
  obtain ⟨line', item'⟩ := e'
  cases item <;> cases item' <;> simp_all [Item.bare]

/-- The connections are among the bare items. -/
lemma connections_congr (h : bareItems es = bareItems es') : connections es = connections es' := by
  refine filterMap_of_bareItems (fun e e' he => ?_) h
  obtain ⟨line, item⟩ := e
  obtain ⟨line', item'⟩ := e'
  cases item <;> cases item' <;> simp_all [Item.bare]

end Bare

/-- Entries none of which is a block that does not end. -/
def Closed (es : List Entry) : Prop :=
  ∀ e ∈ es, ∀ name, e.item ≠ .unterminated name

/-- Whether every block ends is seen from the bare items. -/
lemma closed_iff_bareItems (es : List Entry) :
    Closed es ↔ ∀ name, Item.unterminated name ∉ bareItems es := by
  constructor
  · intro h name hname
    obtain ⟨⟨line, item⟩, he, hitem⟩ := List.mem_map.1 hname
    cases item with
    | unterminated other => exact h _ he other rfl
    | _ => contradiction
  · intro h e he name hname
    refine h name (List.mem_map.2 ⟨e, he, ?_⟩)
    rw [hname]
    rfl

/-! ## One list of lines behind another -/

/-- Behind lines that leave no block open reading begins afresh. -/
lemma entriesFrom_append {current : Option Block} {number : Nat} {ls : List Text}
    (h : Closed (entriesFrom current number ls)) (rest : List Text) :
    entriesFrom current number (ls ++ rest) =
      entriesFrom current number ls ++ entriesFrom none (number + ls.length) rest := by
  have hnext : ∀ (number : Nat) (line : Text) (ls : List Text),
      number + 1 + ls.length = number + (line :: ls).length := fun number line ls => by
    rw [List.length_cons, Nat.add_assoc, Nat.add_comm 1]
  fun_induction entriesFrom current number ls with
  | case1 => rfl
  | case2 number b => exact absurd rfl (h _ List.mem_cons_self b.name)
  | case3 b number line ls hclosing ih =>
    have htail := ih fun e he => h e (List.mem_cons_of_mem _ he)
    rw [List.cons_append, entriesFrom, if_pos hclosing, htail, hnext number line]
    rfl
  | case4 b number line ls hclosing ih =>
    rw [List.cons_append, entriesFrom, if_neg hclosing, ih h, hnext number line]
  | case5 number line ls hline ih =>
    rw [List.cons_append, entriesFrom, hline, ← hnext number line]
    exact ih h
  | case6 number line ls name hline ih =>
    rw [List.cons_append, entriesFrom_header hline, ih h, hnext number line]
  | case7 number line ls source target hline ih =>
    have htail := ih fun e he => h e (List.mem_cons_of_mem _ he)
    rw [List.cons_append, entriesFrom_connection hline, htail, hnext number line]
    rfl
  | case8 number line ls hline ih =>
    have htail := ih fun e he => h e (List.mem_cons_of_mem _ he)
    rw [List.cons_append, entriesFrom, hline, ← hnext number line]
    exact congrArg _ htail

/-- What a line says is seen from its trimmed form. -/
lemma ofText_congr {line line' : Text} (h : line.trim = line'.trim) :
    Line.ofText line = Line.ofText line' := by
  rw [Line.ofText, Line.ofText, h]

/-- No open blocks, or open blocks that differ in their place only. -/
inductive SameBlock : Option Block → Option Block → Prop
  /-- No block is open. -/
  | none : SameBlock none none
  /-- Blocks of one name with the same lines are open. -/
  | some (name : Text) (line line' : Nat) (body : List Text) :
    SameBlock (some ⟨name, line, body⟩) (some ⟨name, line', body⟩)

/-- What lines say does not depend on where they begin. -/
lemma map_item_entriesFrom {current current' : Option Block} (h : SameBlock current current')
    (number number' : Nat) (ls : List Text) :
    (entriesFrom current number ls).map Entry.item =
      (entriesFrom current' number' ls).map Entry.item := by
  induction ls generalizing current current' number number' with
  | nil => cases h <;> rfl
  | cons first rest ih =>
    cases h with
    | none =>
      simp only [entriesFrom]
      cases Line.ofText first with
      | silent => exact ih .none _ _
      | header name => exact ih (.some name number number' []) _ _
      | connection source target => exact congrArg (.connection source target :: ·) (ih .none _ _)
      | unrecognized => exact congrArg (.unrecognized first :: ·) (ih .none _ _)
    | some name line line' body =>
      simp only [entriesFrom]
      split
      · exact congrArg (.event name (codeOfLines body.reverse) :: ·) (ih .none _ _)
      · unfold Block.add
        split
        · exact ih (.some name line line' body) _ _
        · exact ih (.some name line line' (first :: body)) _ _

/-- An entry without the text of a line that is not understood. -/
def Entry.bare (e : Entry) : Entry :=
  { e with item := e.item.bare }

/-- The bare items are those of the bare entries. -/
lemma bareItems_eq_map (es : List Entry) : bareItems es = (es.map Entry.bare).map Entry.item :=
  (List.map_map (g := Entry.item) (f := Entry.bare)).symm

/-- Blanks around the last line show only in its text. -/
lemma map_bare_entriesFrom {last last' : Text} (hlast : last.trim = last'.trim)
    (current : Option Block) (number : Nat) (front : List Text) :
    (entriesFrom current number (front ++ [last])).map Entry.bare =
      (entriesFrom current number (front ++ [last'])).map Entry.bare := by
  induction front generalizing current number with
  | nil =>
    simp only [List.nil_append]
    cases current with
    | none =>
      simp only [entriesFrom, ofText_congr hlast]
      cases Line.ofText last' <;> rfl
    | some b =>
      have hsame : ∀ l, (b.add l).name = b.name ∧ (b.add l).line = b.line := fun l =>
        foldl_add_name_line [l] b
      simp only [entriesFrom, hlast]
      split
      · rfl
      · simp only [hsame]
  | cons first rest ih =>
    rw [List.cons_append, List.cons_append]
    cases current with
    | none =>
      simp only [entriesFrom]
      cases Line.ofText first with
      | silent => exact ih _ _
      | header name => exact ih _ _
      | connection source target => exact congrArg (_ :: ·) (ih _ _)
      | unrecognized => exact congrArg (_ :: ·) (ih _ _)
    | some b =>
      simp only [entriesFrom]
      split
      · exact congrArg (_ :: ·) (ih _ _)
      · exact ih _ _

/-! ## One text behind another -/

/-- The entries of lines that lose their carriage returns are those of the text, as far as bare
entries show. -/
lemma map_bare_entriesFrom_withoutReturn (s : Text) :
    (entriesFrom none 1 (s.lines.map Text.withoutReturn)).map Entry.bare =
      (entries s).map Entry.bare := by
  obtain ⟨front, last, hs⟩ := (List.eq_nil_or_concat' s.lines).resolve_left (Text.lines_ne_nil s)
  rw [entries, Text.lines_joinCrLf, hs, Text.ended_append (List.cons_ne_nil last []),
    List.map_append]
  exact map_bare_entriesFrom (Text.trim_withoutReturn last) none 1 _

/-- The bare items of two texts with a line feed between them are those of both, if every block of
the first one ends. -/
lemma bareItems_entries_append {s : Text} (h : Closed (entries s)) (t : Text) :
    bareItems (entries (s ++ '\n' :: t)) = bareItems (entries s) ++ bareItems (entries t) := by
  have hfirst : bareItems (entriesFrom none 1 (s.lines.map Text.withoutReturn)) =
      bareItems (entries s) := by
    rw [bareItems_eq_map, bareItems_eq_map, map_bare_entriesFrom_withoutReturn]
  have hclosed : Closed (entriesFrom none 1 (s.lines.map Text.withoutReturn)) := by
    rwa [closed_iff_bareItems, hfirst, ← closed_iff_bareItems]
  have hsecond : ∀ number, bareItems (entriesFrom none number t.joinCrLf.lines) =
      bareItems (entries t) := by
    intro number
    have hitems := congrArg (List.map Item.bare)
      (map_item_entriesFrom .none number 1 t.joinCrLf.lines)
    rwa [List.map_map, List.map_map] at hitems
  rw [entries, Text.lines_joinCrLf_append_newline, entriesFrom_append hclosed, bareItems,
    List.map_append]
  exact congrArg₂ (· ++ ·) hfirst (hsecond _)

/-! ## Events of two lists of blocks -/

section Events

variable {es first second : List Entry}

/-- Names keep the place where they are declared first. -/
lemma keys_events_of_blocks (strict : Bool) (h : blocks es = blocks first ++ blocks second) :
    (events strict es).keys = (events strict first).keys ++
      (events strict second).keys.filter fun name => name ∉ (events strict first).keys := by
  have hremove : ∀ names others : List Text,
      names.removeAll others = names.filter fun name => name ∉ others.eraseDups :=
    fun names others => List.filter_congr fun name _ => by simp
  rw [keys_events, keys_events, keys_events, h, List.map_append, List.eraseDups_append, hremove,
    Dictionary.eraseDups_filter]

/-- The later code of a name counts, or in strict mode the earlier one. -/
lemma get?_events_of_blocks (strict : Bool) (h : blocks es = blocks first ++ blocks second)
    (name : Text) :
    (events strict es).get? name =
      if strict then ((events strict first).get? name).or ((events strict second).get? name)
      else ((events strict second).get? name).or ((events strict first).get? name) := by
  simp only [get?_events, countingBlock?, h]
  cases strict <;> simp [List.find?_append, Option.map_or]

end Events

/-! ## Documents -/

section Read

variable {strict : Bool} {grid : Grid} {s : Text} {reading : Reading}

/-- The code of a name in a document that was read. -/
lemma codeOf?_of_read (h : read strict grid s = .ok reading) (name : Text) :
    reading.document.codeOf? name = (events strict (entries s)).get? name := by
  rw [Document.codeOf?, events_of_read h]
  induction events strict (entries s) with
  | nil => rfl
  | cons entry rest ih =>
    rw [List.map_cons, List.find?_cons, Dictionary.get?_cons, ← ih]
    by_cases hname : name = entry.1
    · simp [eventOf, hname]
    · simp [eventOf, hname, Ne.symm hname]

/-- A block that does not end is remarked on. -/
lemma closed_of_read (h : read strict grid s = .ok reading)
    (hclosed : ∀ r ∈ reading.diagnostics, ∀ name, r.concern ≠ .unterminated name) :
    Closed (entries s) := by
  intro e he name hname
  obtain ⟨seen, hseen⟩ := exists_seen_of_read h he
  refine hclosed _ (hseen (.unterminated name) ?_) name rfl
  rw [hname]
  exact List.mem_singleton_self _

end Read

/-- Reading two texts with a line feed between them, the first of which leaves no block open, gives
the connections of both. A name is where it is declared first, and has the code of the second text
if that declares it, or in strict mode that of the first one. -/
theorem read_append (strict : Bool) (s t : Text) :
    (∀ grid first second whole, read strict grid s = .ok first → read strict grid t = .ok second →
      read strict grid (s ++ '\n' :: t) = .ok whole →
      (∀ r ∈ first.diagnostics, ∀ name, r.concern ≠ .unterminated name) →
      whole.document.edges = first.document.edges ++ second.document.edges ∧
        (whole.document.events.map Event.name =
          first.document.events.map Event.name ++
            (second.document.events.map Event.name).filter fun name =>
              name ∉ first.document.events.map Event.name) ∧
        ∀ name, whole.document.codeOf? name =
          if strict then (first.document.codeOf? name).or (second.document.codeOf? name)
          else (second.document.codeOf? name).or (first.document.codeOf? name)) ∧
    ((s ++ '\n' :: t).length < 10 ^ 300 →
      ∃ first second whole, read strict Grid.standard s = .ok first ∧
        read strict Grid.standard t = .ok second ∧
        read strict Grid.standard (s ++ '\n' :: t) = .ok whole) := by
  constructor
  · intro grid first second whole hfirst hsecond hwhole hclosed
    have hbare := bareItems_entries_append (closed_of_read hfirst hclosed) t
    have hitems : bareItems (entries (s ++ '\n' :: t)) = bareItems (entries s ++ entries t) := by
      rw [hbare, bareItems, bareItems, bareItems, List.map_append]
    have hblocks := (blocks_congr hitems).trans (blocks_append _ _)
    have hconnections := (connections_congr hitems).trans (connections_append _ _)
    refine ⟨?_, ?_, fun name => ?_⟩
    · rw [edges_of_read hwhole, edges_of_read hfirst, edges_of_read hsecond, hconnections,
        List.map_append]
    · rw [map_name_events_of_read hwhole, map_name_events_of_read hfirst,
        map_name_events_of_read hsecond, keys_events_of_blocks strict hblocks, List.map_append,
        List.filter_map]
      have hgiven : Function.Injective EventName.given := fun _ _ => EventName.given.inj
      refine congrArg (_ ++ List.map _ ·) (List.filter_congr fun name _ => ?_)
      rw [Function.comp_apply, decide_eq_decide, not_iff_not, List.mem_map_of_injective hgiven]
    · rw [codeOf?_of_read hwhole, codeOf?_of_read hfirst, codeOf?_of_read hsecond,
        get?_events_of_blocks strict hblocks]
  · intro h
    rw [List.length_append, List.length_cons] at h
    obtain ⟨first, hfirst⟩ := exists_read strict (s := s) (by omega)
    obtain ⟨second, hsecond⟩ := exists_read strict (s := t) (by omega)
    obtain ⟨whole, hwhole⟩ := exists_read strict (s := s ++ '\n' :: t) (by
      rwa [List.length_append, List.length_cons])
    exact ⟨first, second, whole, hfirst, hsecond, hwhole⟩

/-- A text whose only block is closed by a brace in front of a carriage return. -/
def returning : Text :=
  ['f', '{', '\n', 'x', '\n', '}', '\r']

/-- A text that declares the name again, and connects it with another one. -/
def repeating : Text :=
  ['g', '{', '\n', '}', '\n', 'f', '{', '\n', 'y', '\n', '}', '\n', 'f', '-', '>', 'g']

/-- The block is closed when the line feed follows, and its code is replaced. -/
theorem read_append_returning :
    (returning ++ '\n' :: repeating).length < 10 ^ 300 ∧
      ∃ first second whole, read false Grid.standard returning = .ok first ∧
        read false Grid.standard repeating = .ok second ∧
        read false Grid.standard (returning ++ '\n' :: repeating) = .ok whole ∧
        (∀ r ∈ first.diagnostics, ∀ name, r.concern ≠ .unterminated name) ∧
        whole.document.edges = [connectionOf ['f'] ['g']] ∧
        whole.document.events.map Event.name = [.given ['f'], .given ['g']] ∧
        whole.document.codeOf? ['f'] = some ['y'] := by
  have hlength : (returning ++ '\n' :: repeating).length < 10 ^ 300 :=
    length_lt_of_short (by decide)
  obtain ⟨happend, hexists⟩ := read_append false returning repeating
  obtain ⟨first, second, whole, hfirst, hsecond, hwhole⟩ := hexists hlength
  have hnone : first.diagnostics = [] := by
    obtain ⟨-, -, -, -, hdiagnostics⟩ := exists_positions_of_read hfirst
    rw [hdiagnostics]
    decide
  have hclosed : ∀ r ∈ first.diagnostics, ∀ name, r.concern ≠ .unterminated name := by
    rw [hnone]
    exact fun r hr => absurd hr List.not_mem_nil
  obtain ⟨hedges, hnames, hcode⟩ := happend _ first second whole hfirst hsecond hwhole hclosed
  refine ⟨hlength, first, second, whole, hfirst, hsecond, hwhole, hclosed, ?_, ?_, ?_⟩
  · rw [hedges, edges_of_read hfirst, edges_of_read hsecond]
    decide
  · rw [hnames, map_name_events_of_read hfirst, map_name_events_of_read hsecond]
    decide
  · rw [hcode, codeOf?_of_read hfirst, codeOf?_of_read hsecond]
    decide

end Pointy

end EventPipeline
