import EventPipeline.Proofs.Pointy.Reading
import EventPipeline.Proofs.Pointy.RoundTrip
import Mathlib.Data.List.Nodup

/-!
# Warnings about what cannot be read back

Writing a document warns of an event just if the event cannot be read back: its name is no
identifier, or its code has a line that is only a closing brace or a comment (`IsReadable`). The
warnings are exact for documents that name each event once (`writeLog_silent_iff`).

That nothing is lost without a warning is a matter of following the lines of the written text. That
no warning is given without a loss is not: names and code that hold line feeds and braces may end a
block early, open another one of the same name, or swallow what comes next. All this need not be
followed, because a document that was read has no event that gives rise to a warning, however its
text came about; so it is not the document that was written.
-/

namespace EventPipeline.Pointy

/-! ## Events without warnings -/

/-- An event that can be read back as it is: its name is an identifier, and its code loses no
line. -/
structure IsReadable (e : Event) : Prop where
  /-- The name is an identifier. -/
  name : e.name.isIdentifier = true
  /-- The code loses no line. -/
  code : unreadableLines e.code = []

/-- There is no warning about an event just if it can be read back. -/
lemma eventWarnings_eq_nil_iff (e : Event) : eventWarnings e = [] ↔ IsReadable e := by
  have hname : ([nameWarning e.name] : List Text) ≠ [] := List.cons_ne_nil _ _
  have hcode : ([codeWarning e.name (unreadableLines e.code)] : List Text) ≠ [] :=
    List.cons_ne_nil _ _
  rw [eventWarnings, List.append_eq_nil_iff]
  constructor
  · rintro ⟨hn, hc⟩
    refine ⟨?_, ?_⟩
    · by_contra h
      exact hname (by rwa [if_neg h] at hn)
    · by_contra h
      exact hcode (by rwa [if_neg (by simpa using h)] at hc)
  · intro h
    rw [if_pos h.name, h.code]
    exact ⟨rfl, rfl⟩

/-- Nothing that is written gives rise to a warning just if every event can be read back. -/
lemma writeLog_silent_iff_isReadable (d : Document) :
    (∀ r ∈ writeLog d, r.level ≠ .warning) ↔ ∀ e ∈ d.events, IsReadable e := by
  have hwarnings : (∀ r ∈ writeLog d, r.level ≠ .warning) ↔ warnings d = [] := by
    rw [List.eq_nil_iff_forall_not_mem]
    constructor
    · intro h s hs
      exact h _ (List.mem_append_left _ (List.mem_map_of_mem hs)) rfl
    · intro h r hr
      rcases List.mem_append.1 hr with hr | hr
      · obtain ⟨s, hs, rfl⟩ := List.mem_map.1 hr
        exact absurd hs (h s)
      · obtain ⟨s, -, rfl⟩ := List.mem_map.1 hr
        exact Level.noConfusion
  rw [hwarnings, warnings, List.flatMap_eq_nil_iff]
  exact forall₂_congr fun e _ => eventWarnings_eq_nil_iff e

/-- An event that can be read back can be carried. -/
lemma IsReadable.carries {e : Event} (h : IsReadable e) : Carries e where
  name := h.name
  code := fun line hline =>
    (Bool.or_eq_false_iff.1 ((unreadableLines_eq_nil_iff e.code).1 h.code line hline)).1

/-- The name of an event that can be read back is its text. -/
lemma IsReadable.name_eq_given {e : Event} (h : IsReadable e) : e.name = .given e.name.text := by
  have hname := h.name
  cases hcase : e.name with
  | given name => rfl
  | blank value =>
    rw [hcase] at hname
    contradiction

/-- Code that loses no line is carried whole. -/
lemma carriedCode_of_unreadableLines {code : Text} (h : unreadableLines code = []) :
    carriedCode code = code.joinCrLf.trim := by
  rw [unreadableLines_eq_nil_iff_filledLines, ← Text.filledLines_joinCrLf,
    ← unreadableLines_eq_nil_iff_filledLines, unreadableLines_eq_nil_iff] at h
  have hlines : (code.joinCrLf.lines.filter fun line => !isComment line.trim) =
      code.joinCrLf.lines := by
    rw [List.filter_eq_self]
    intro line hline
    rw [(Bool.or_eq_false_iff.1 (h line hline)).2]
    rfl
  rw [carriedCode, hlines, Text.unlines_lines]

/-! ## Reading back -/

/-- The names of events that can be read back are distinct as texts when they are distinct. -/
lemma nodup_names_of_isReadable {es : List Event} (h : ∀ e ∈ es, IsReadable e)
    (hes : (es.map Event.name).Nodup) : (es.map fun e => e.name.text).Nodup := by
  have hgiven : ∀ name ∈ es.map Event.name, name = .given name.text := by
    intro name hname
    obtain ⟨e, he, rfl⟩ := List.mem_map.1 hname
    exact (h e he).name_eq_given
  have hmap : es.map (fun e => e.name.text) = (es.map Event.name).map EventName.text := by
    rw [List.map_map]
    rfl
  rw [hmap]
  refine hes.map_on fun name hname other hother heq => ?_
  rw [hgiven name hname, hgiven other hother, heq]

/-- An event whose name no other event has is the one that gives the name its code. -/
lemma carrier?_of_mem {d : Document} (hd : (d.events.map fun e => e.name.text).Nodup)
    (strict : Bool) {e : Event} (he : e ∈ d.events) : carrier? strict d e.name.text = some e := by
  have hmem : ∀ e', e' ∈ (if strict then d.events else d.events.reverse) ↔ e' ∈ d.events := by
    intro e'
    cases strict
    · exact List.mem_reverse
    · exact Iff.rfl
  have hsome : (carrier? strict d e.name.text).isSome = true :=
    List.find?_isSome.2 ⟨e, (hmem e).2 he, by simp⟩
  obtain ⟨e', he'⟩ := Option.isSome_iff_exists.1 hsome
  have hname : e'.name.text = e.name.text := by simpa using List.find?_some he'
  rw [he', List.inj_on_of_nodup_map hd ((hmem e').1 (List.mem_of_find?_eq_some he')) he hname]

/-- Events that can be read back and have distinct names are read back in their order, each with its
code joined and trimmed. -/
lemma events_write_of_isReadable {d : Document} (h : ∀ e ∈ d.events, IsReadable e)
    (hd : (d.events.map fun e => e.name.text).Nodup) (strict : Bool) :
    events strict (entries (write d)) =
      d.events.map fun e => (e.name.text, e.code.joinCrLf.trim) := by
  have hnames : carriedNames d = d.events.map fun e => e.name.text :=
    Dictionary.eraseDups_of_nodup hd
  rw [events_entries_write fun e he => (h e he).carries, hnames, List.map_map]
  refine List.map_congr_left fun e he => ?_
  have hcode : carriedCode e.code = e.code.joinCrLf.trim :=
    carriedCode_of_unreadableLines (h e he).code
  rw [Function.comp_apply, carrier?_of_mem hd strict he, Option.map_some, Option.getD_some, hcode]

/-- An event of a document that was read can be read back. -/
lemma isReadable_of_mem_events_of_read {strict : Bool} {grid : Grid} {s : Text} {reading : Reading}
    (h : read strict grid s = .ok reading) {e : Event} (he : e ∈ reading.document.events) :
    IsReadable e := by
  rw [events_of_read h] at he
  obtain ⟨block, hblock, rfl⟩ := List.mem_map.1 he
  have hsettled := isSettled_of_mem_blocks (mem_blocks_of_mem_events hblock)
  exact ⟨hsettled.name, hsettled.readable⟩

/-- Writing a document that names each event once warns of nothing just if what is read back are its
events in their order, with their names, and with their code but for joined pairs of carriage return
and line feed and blanks at both ends. What was written can be read back. -/
theorem writeLog_silent_iff (strict : Bool) {d : Document}
    (hd : (d.events.map Event.name).Nodup) :
    (∀ grid reading, read strict grid (write d) = .ok reading →
      ((∀ r ∈ writeLog d, r.level ≠ .warning) ↔
        reading.document.events.map (fun e => (e.name, e.code)) =
          d.events.map fun e => (e.name, e.code.joinCrLf.trim))) ∧
    ((write d).length < 10 ^ 300 →
      ∃ reading, read strict Grid.standard (write d) = .ok reading) := by
  refine ⟨fun grid reading hreading => ?_, exists_read strict⟩
  rw [writeLog_silent_iff_isReadable]
  constructor
  · intro h
    rw [events_of_read hreading, events_write_of_isReadable h (nodup_names_of_isReadable h hd),
      List.map_map, List.map_map]
    refine List.map_congr_left fun e he => ?_
    exact Prod.ext (h e he).name_eq_given.symm rfl
  · intro h e he
    have hmem : (e.name, e.code.joinCrLf.trim) ∈
        reading.document.events.map fun e => (e.name, e.code) := by
      rw [h]
      exact List.mem_map_of_mem he
    obtain ⟨e', he', heq⟩ := List.mem_map.1 hmem
    obtain ⟨hname, hcode⟩ := Prod.mk.inj heq
    have hreadable := isReadable_of_mem_events_of_read hreading he'
    refine ⟨hname ▸ hreadable.name, ?_⟩
    rw [← unreadableLines_trim_joinCrLf, ← hcode]
    exact hreadable.code

/-- A document whose code closes its block and opens another one of the same name, which ends with
the same line. -/
def reopened : Document where
  config := none
  nodes := [⟨['a'], Node.eventKind, none,
    ⟨['a'], .given ['f'], ['x', '\n', '}', '\n', 'f', '{', '\n', 'x']⟩⟩]
  edges := []

/-- There is a warning about code that opens its block again, and it is not what is read back. -/
theorem writeLog_silent_iff_reopened :
    (reopened.events.map Event.name).Nodup ∧ (∃ r ∈ writeLog reopened, r.level = .warning) ∧
      ∃ reading, read false Grid.standard (write reopened) = .ok reading ∧
        reading.document.events.map (fun e => (e.name, e.code)) ≠
          reopened.events.map fun e => (e.name, e.code.joinCrLf.trim) := by
  have hnames : (reopened.events.map Event.name).Nodup := by decide
  have hwarned : ∃ r ∈ writeLog reopened, r.level = .warning := by decide
  obtain ⟨hiff, hread⟩ := writeLog_silent_iff false hnames
  obtain ⟨reading, hreading⟩ := hread (length_lt_of_short (by decide))
  refine ⟨hnames, hwarned, reading, hreading, fun hevents => ?_⟩
  obtain ⟨r, hr, hlevel⟩ := hwarned
  exact (hiff Grid.standard reading hreading).2 hevents r hr hlevel

end EventPipeline.Pointy
