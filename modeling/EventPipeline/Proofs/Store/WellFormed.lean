import EventPipeline.Proofs.Document.Held
import EventPipeline.Proofs.Document.WellFormed
import EventPipeline.Proofs.Store.Restart

/-!
# Stores stay well-formed

A store that begins a new pipeline and takes over no documents but those of pointy texts, which
connect declared events only, has a well-formed document for ever, whatever fails
(`isWellFormed_newPipeline`). New events must not get an id twice. That such an id is not that of an
event which was read comes from the forms of the two: the rest of the one holds a hyphen, and that
of the other is an identifier. So the invariant is about where ids come from as well
(`Store.Grown`).
-/

namespace EventPipeline

/-! ## Ids -/

/-- The id of an event that was made at a time is not that of an identifier. -/
lemma eventIdOfTime_ne_eventIdOfName (milliseconds : Int) (hex : Text) {name : Text}
    (h : isIdentifier name = true) : eventIdOfTime milliseconds hex ≠ eventIdOfName name := by
  intro heq
  have hname : Text.ofInt milliseconds ++ '-' :: hex.take 8 = name := by
    rw [eventIdOfTime, eventIdOfName, List.append_assoc] at heq
    exact List.append_cancel_left heq
  have hpart : isIdentifierPart '-' = true :=
    isIdentifierPart_of_mem h (hname ▸ List.mem_append_right _ List.mem_cons_self)
  exact absurd hpart (by decide)

/-- The ids for new events from one up to another are made at times and told apart. -/
structure Surroundings.TellsApart (around : Surroundings) (start stop : Nat) : Prop where
  /-- Each id has the form of one that is made at a time. -/
  timed : ∀ i, start ≤ i → i < stop →
    ∃ milliseconds hex, around.eventId i = eventIdOfTime milliseconds hex
  /-- No two ids are the same. -/
  apart : ∀ i j, start ≤ i → i < j → j < stop → around.eventId i ≠ around.eventId j

/-- Fewer ids are told apart as well. -/
lemma Surroundings.TellsApart.mono {around : Surroundings} {start stop stop' : Nat}
    (h : around.TellsApart start stop') (hle : stop ≤ stop') : around.TellsApart start stop :=
  ⟨fun i hi hstop => h.timed i hi (hstop.trans_le hle),
    fun i j hi hij hstop => h.apart i j hi hij (hstop.trans_le hle)⟩

/-- Where the id of a node comes from: an identifier that was read, or the ids for new events from
one up to another. -/
inductive Surroundings.Gives (around : Surroundings) (start stop : Nat) (id : Text) : Prop
  /-- The id is that of a name. -/
  | named {name : Text} (identifier : isIdentifier name = true) (eq : id = eventIdOfName name)
  /-- The id was drawn. -/
  | drawn {i : Nat} (since : start ≤ i) (before : i < stop) (eq : id = around.eventId i)

/-- An id that was given before is one that is given. -/
lemma Surroundings.Gives.mono {around : Surroundings} {start stop stop' : Nat} {id : Text}
    (h : around.Gives start stop id) (hle : stop ≤ stop') : around.Gives start stop' id := by
  cases h with
  | named identifier eq => exact .named identifier eq
  | drawn since before eq => exact .drawn since (before.trans_le hle) eq

/-- The next id for a new event is none that was given before. -/
lemma Surroundings.Gives.ne_eventId {around : Surroundings} {start stop : Nat} {id : Text}
    (h : around.Gives start stop id) (hstart : start ≤ stop)
    (hids : around.TellsApart start (stop + 1)) : id ≠ around.eventId stop := by
  cases h with
  | named identifier eq =>
    obtain ⟨milliseconds, hex, htime⟩ := hids.timed stop hstart (Nat.lt_succ_self stop)
    rw [eq, htime]
    exact (eventIdOfTime_ne_eventIdOfName milliseconds hex identifier).symm
  | drawn since before eq =>
    rw [eq]
    exact hids.apart _ stop since before (Nat.lt_succ_self stop)

/-- An event that is made for an id has it. -/
lemma Store.id_of_newEvent {id : Text} {name code : Json} {e : Event}
    (h : Store.newEvent id name code = .ok e) : e.id = id := by
  have hcheck : Event.check _ = .ok e := h
  obtain ⟨members, hmembers, hparts⟩ := Shape.exists_of_object hcheck
  obtain rfl := Json.object.inj hmembers
  simp only [Checked.feed_eq_ok_iff] at hparts
  obtain ⟨code, _, -, ⟨name, _, -, ⟨id', _, hid, hmk, rfl⟩, rfl⟩, rfl⟩ := hparts
  rw [← Except.ok.inj hmk]
  obtain ⟨v, hv, hscalar⟩ := Shape.exists_of_required hid
  obtain rfl := Option.some.inj hv
  exact (Except.ok.inj hscalar).symm

/-- Only null is the null among the values that stand for nothing. -/
lemma Json.eq_null_of_blank? {v : Json} (h : v.blank? = some .null) : v = .null := by
  cases v <;> grind [Json.blank?]

/-- A value other than null gives a name other than null, if any. -/
lemma EventName.isNull_of_ofJson? {v : Json} {name : EventName} (h : ofJson? v = some name)
    (hv : v ≠ .null) : name.isNull = false := by
  unfold ofJson? at h
  split at h
  · rw [← Option.some.inj h]
    rfl
  · obtain ⟨b, hb, rfl⟩ := Option.map_eq_some_iff.1 h
    cases b with
    | null => exact absurd (Json.eq_null_of_blank? hb) hv
    | _ => rfl

/-! ## Operations -/

/-- Whether an operation takes over no document, unless it is that of a pointy text which connects
declared events only. -/
def Operation.IsInternal : Operation → Prop
  | .load => False
  | .save d => d = none
  | .replace _ => False
  | .importJson _ => False
  | .importBytes _ => False
  | .importPointy text strict => ∀ s grid reading, text = .text s →
    Pointy.read strict grid s = .ok reading →
      ∀ r ∈ reading.diagnostics, ∀ name, r.concern ≠ .undeclared name
  | _ => True

/-- What the stores of a run are like: the document is well-formed, and it is known where the ids of
its nodes come from. -/
structure Store.Grown (around : Surroundings) (start : Nat) (s : Store) : Prop where
  /-- Not fewer ids were drawn than at the start. -/
  since : start ≤ s.drawn
  /-- The document is well-formed. -/
  wellFormed : s.document.IsWellFormed
  /-- The ids of the nodes were given since the start. -/
  given : ∀ id ∈ s.document.nodeIds, around.Gives start s.drawn id

namespace Operation.Drafts

variable {around : Surroundings} {s : Store} {op : Operation} {d : Document}

/-- Drafts of such an operation are well-formed, and the ids of their nodes are given before a stop
up to which ids are told apart. A new event needs one more id than were drawn. -/
lemma isWellFormed (h : op.Drafts around s d) (hop : op.IsInternal) {start stop : Nat}
    (hs : s.Grown around start) (hle : s.drawn ≤ stop)
    (hadd : ∀ name code position, op = .addEvent name code position → s.drawn < stop)
    (hids : around.TellsApart start stop) :
    d.IsWellFormed ∧ ∀ id ∈ d.nodeIds, around.Gives start stop id := by
  have hkept : ∀ id ∈ s.document.nodeIds, around.Gives start stop id := fun id hid =>
    (hs.given id hid).mono hle
  cases h with
  | save given =>
    obtain rfl : given = none := hop
    exact ⟨hs.wellFormed, hkept⟩
  | newPipeline config => exact ⟨Document.isWellFormed_empty config, fun _ hid => by contradiction⟩
  | addEvent event =>
    have hid := Store.id_of_newEvent event
    have hlt : s.drawn < stop := hadd _ _ _ rfl
    have hnew : around.eventId s.drawn ∉ s.document.nodeIds := fun hmem =>
      (hs.given _ hmem).ne_eventId hs.since (hids.mono hlt) rfl
    refine ⟨hs.wellFormed.addEvent (hid ▸ hnew) _, fun id hmem => ?_⟩
    rw [Document.nodeIds, Document.addEvent, List.map_append] at hmem
    rcases List.mem_append.1 hmem with hmem | hmem
    · exact hkept id hmem
    · exact .drawn hs.since hlt ((List.mem_singleton.1 hmem).trans hid)
  | rename _ renamed =>
    obtain ⟨hd, hsame⟩ := hs.wellFormed.rename? renamed
    exact ⟨hd, hsame ▸ hkept⟩
  | recode recoded =>
    obtain ⟨hd, hsame⟩ := hs.wellFormed.recode? recoded
    exact ⟨hd, hsame ▸ hkept⟩
  | move moved =>
    obtain ⟨hd, hsame⟩ := hs.wellFormed.move? moved
    exact ⟨hd, hsame ▸ hkept⟩
  | remove ids =>
    refine ⟨hs.wellFormed.removeEvents _, fun id hid => hkept id ?_⟩
    rw [Document.nodeIds_removeEvents] at hid
    exact (List.mem_filter.1 hid).1
  | connect from' to' =>
    have hsource := Document.mem_nodeIds_of_node? from'
    have htarget := Document.mem_nodeIds_of_node? to'
    exact ⟨hs.wellFormed.addConnection hsource htarget, hkept⟩
  | disconnect pk => exact ⟨hs.wellFormed.removeConnection pk, hkept⟩
  | importPointy read =>
    have hreading := Pointy.isWellFormed_of_read read (hop _ _ _ rfl read)
    refine ⟨(hreading.withConfig _).withConfig _, fun id hid => ?_⟩
    obtain ⟨name, hname, rfl⟩ := List.mem_map.1 (Pointy.nodeIds_of_read read ▸ hid)
    exact .named (Pointy.isIdentifier_of_mem_keys hname) rfl
  | replace | importJson | importBytes => exact hop.elim

/-- Drafts of such an operation have no null for a name when the current document has none and no
event gets null for its name. -/
lemma isNull_eq_false (h : op.Drafts around s d) (hop : op.IsInternal)
    (hname : ∀ id, op ≠ .rename id .null) (hs : ∀ e ∈ s.document.events, e.name.isNull = false) :
    ∀ e ∈ d.events, e.name.isNull = false := by
  -- A node that is changed keeps its name, but for one that gets another name.
  have hedit : ∀ {pk : Text} {f : Node → Node}, s.document.updateNode? pk f = some d →
      (∀ n, n.event.name.isNull = false → (f n).event.name.isNull = false) →
        ∀ e ∈ d.events, e.name.isNull = false := by
    intro pk f hd hf e he
    obtain ⟨n, hn, rfl⟩ := List.mem_map.1 he
    obtain ⟨nodes, hnodes, rfl⟩ := Option.map_eq_some_iff.1 hd
    rcases mem_of_mem_updateFirst hnodes hn with hn | ⟨m, hm, rfl⟩
    · exact hs _ (List.mem_map_of_mem hn)
    · exact hf m (hs _ (List.mem_map_of_mem hm))
  cases h with
  | save given =>
    obtain rfl : given = none := hop
    exact hs
  | newPipeline config => exact fun e he => by contradiction
  | addEvent event =>
    intro e he
    rw [Document.events, Document.addEvent, List.map_append] at he
    rcases List.mem_append.1 he with he | he
    · exact hs e he
    · obtain ⟨name, hgiven⟩ := Event.exists_name_of_check event
      rw [List.mem_singleton.1 he, Node.ofEvent, hgiven]
      rfl
  | rename given renamed =>
    refine hedit renamed fun _ _ => EventName.isNull_of_ofJson? given ?_
    rintro rfl
    exact hname _ rfl
  | recode recoded => exact hedit recoded fun _ hn => hn
  | move moved => exact hedit moved fun _ hn => hn
  | remove ids =>
    intro e he
    obtain ⟨n, hn, rfl⟩ := List.mem_map.1 he
    exact hs _ (List.mem_map_of_mem (List.mem_filter.1 hn).1)
  | connect _ _ => exact hs
  | disconnect pk => exact hs
  | importPointy read =>
    intro e he
    have hmem : e ∈ (Pointy.events _ (Pointy.entries _)).map fun e => Pointy.eventOf e.1 e.2 :=
      Pointy.events_of_read read ▸ he
    obtain ⟨block, -, rfl⟩ := List.mem_map.1 hmem
    rfl
  | replace | importJson | importBytes => exact hop.elim

end Operation.Drafts

namespace Store

variable {around : Surroundings} {s : Store} {start : Nat}

/-! ## Operations of a run -/

/-- An operation draws ids or it does not, but never takes one back. -/
lemma drawn_le_run (around : Surroundings) (s : Store) (op : Operation) :
    s.drawn ≤ (s.run around op).store.drawn := by
  by_cases h : ∃ name code position, op = .addEvent name code position
  · obtain ⟨name, code, position, rfl⟩ := h
    rcases s.drawn_addEvent around name code position with hdrawn | hstore
    · exact (Nat.le_succ _).trans_eq hdrawn.symm
    · exact (congrArg Store.drawn hstore).ge
  · exact (s.drawn_run around fun name code position hop => h ⟨name, code, position, hop⟩).ge

/-- An operation of the run leaves a store as the invariant says. -/
lemma Grown.run (hs : s.Grown around start) {op : Operation} (hop : op.IsInternal)
    (hids : around.TellsApart start (s.run around op).store.drawn) :
    (s.run around op).store.Grown around start := by
  have hle := s.drawn_le_run around op
  have hload : op ≠ .load := by
    rintro rfl
    exact hop
  rcases s.document_run around hload with hdocument | hdrafts
  · refine ⟨hs.since.trans hle, hdocument ▸ hs.wellFormed, fun id hid => ?_⟩
    exact (hs.given id (hdocument ▸ hid)).mono hle
  · by_cases hstore : (s.run around op).store = s
    · rwa [hstore]
    · have hadd : ∀ name code position, op = .addEvent name code position →
          s.drawn < (s.run around op).store.drawn := by
        rintro name code position rfl
        have hdrawn := (s.drawn_addEvent around name code position).resolve_right hstore
        exact (Nat.lt_succ_self _).trans_eq hdrawn.symm
      obtain ⟨hdocument, hgiven⟩ := hdrafts.isWellFormed hop hs hle hadd hids
      exact ⟨hs.since.trans hle, hdocument, hgiven⟩

/-- A call of the run leaves a store as the invariant says. -/
lemma Grown.call (hs : s.Grown around start) {c : Call} (hc : c.operation.IsInternal)
    (hids : around.TellsApart start (s.call around c).store.drawn) :
    (s.call around c).store.Grown around start := by
  have hs' : Grown around start { s with medium := { s.medium with refusing := c.refused } } :=
    ⟨hs.since, hs.wellFormed, hs.given⟩
  exact hs'.run hc hids

/-- A call of the run leaves a store without nulls for names, if it gives none. -/
lemma isNull_eq_false_call (around : Surroundings) {c : Call} (hc : c.operation.IsInternal)
    (hname : ∀ id, c.operation ≠ .rename id .null)
    (hs : ∀ e ∈ s.document.events, e.name.isNull = false) :
    ∀ e ∈ (s.call around c).store.document.events, e.name.isNull = false := by
  have hload : c.operation ≠ .load := fun hop => by
    rw [hop] at hc
    exact hc
  rcases document_run around { s with medium := { s.medium with refusing := c.refused } } hload
    with hdocument | hdrafts
  · intro e he
    rw [Store.call, hdocument] at he
    exact hs e he
  · exact hdrafts.isNull_eq_false hc hname hs

/-! ## Runs -/

variable {calls : List Call}

/-- A call never takes an id back. -/
lemma drawn_le_call (around : Surroundings) (s : Store) (c : Call) :
    s.drawn ≤ (s.call around c).store.drawn :=
  drawn_le_run around { s with medium := { s.medium with refusing := c.refused } } c.operation

/-- A run never takes an id back. -/
lemma drawn_le_afterCalls (around : Surroundings) (s : Store) (calls : List Call) :
    s.drawn ≤ (s.afterCalls around calls).drawn := by
  induction calls generalizing s with
  | nil => exact le_rfl
  | cons c calls ih => exact (drawn_le_call around s c).trans (ih (s.call around c).store)

/-- A run leaves a store as the invariant says. -/
lemma Grown.afterCalls (hs : s.Grown around start)
    (hcalls : ∀ c ∈ calls, c.operation.IsInternal)
    (hids : around.TellsApart start (s.afterCalls around calls).drawn) :
    (s.afterCalls around calls).Grown around start := by
  induction calls generalizing s with
  | nil => exact hs
  | cons c calls ih =>
    obtain ⟨hc, hrest⟩ := List.forall_mem_cons.1 hcalls
    have hfirst := hids.mono (drawn_le_afterCalls around (s.call around c).store calls)
    exact ih (hs.call hc hfirst) hrest hids

/-- A run leaves a store without nulls for names, if it gives none. -/
lemma isNull_eq_false_afterCalls (around : Surroundings)
    (hcalls : ∀ c ∈ calls, c.operation.IsInternal)
    (hnames : ∀ c ∈ calls, ∀ id, c.operation ≠ .rename id .null)
    (hs : ∀ e ∈ s.document.events, e.name.isNull = false) :
    ∀ e ∈ (s.afterCalls around calls).document.events, e.name.isNull = false := by
  induction calls generalizing s with
  | nil => exact hs
  | cons c calls ih =>
    obtain ⟨hc, hrest⟩ := List.forall_mem_cons.1 hcalls
    obtain ⟨hname, hothers⟩ := List.forall_mem_cons.1 hnames
    exact ih hrest hothers (isNull_eq_false_call around hc hname hs)

/-- A new pipeline that is begun with success has no events. -/
lemma document_newPipeline {config : Config} {refused : Bool} {r : Reply}
    (h : (s.call around ⟨.newPipeline config, refused⟩).result = .ok r) :
    (s.call around ⟨.newPipeline config, refused⟩).store.document = Document.empty config := by
  cases s.call_follows around ⟨.newPipeline config, refused⟩ with
  | failed e result document =>
    rw [result] at h
    cases h
  | loaded r' result load document => cases load
  | drafted r' result document =>
    generalize (s.call around ⟨.newPipeline config, refused⟩).store.document = d at document ⊢
    cases document
    rfl
  | kept r' result reads document => cases reads

/-- At every moment of a run that begins a new pipeline with success and takes over no documents but
those of pointy texts which connect declared events only, node ids are distinct, nodes have the ids
of their events, and connections are between nodes, if the ids for the new events of the run are
told apart. So drawing the document leaves no connection out, and neither does writing it, unless
the run has given an event null, which is no text, for its name. -/
theorem isWellFormed_newPipeline (around : Surroundings) (s : Store) {config : Config}
    {refused : Bool} {r : Reply} {calls : List Call} {s' : Store}
    (hnew : (s.call around ⟨.newPipeline config, refused⟩).result = .ok r)
    (hcalls : ∀ c ∈ calls, c.operation.IsInternal)
    (hrun : s.afterCalls around (⟨.newPipeline config, refused⟩ :: calls) = s')
    (hids : around.TellsApart s.drawn s'.drawn) :
    s'.document.IsWellFormed ∧
      (Dot.edges s'.document =
        (s'.document.edges.map fun c => (c.source, c.target)).eraseDups) ∧
      ((∀ c ∈ calls, ∀ id, c.operation ≠ .rename id .null) →
        Pointy.droppedNotes s'.document = [] ∧
          Pointy.links s'.document = s'.document.edges.map fun c =>
            (Pointy.nameOfNode s'.document c.source, Pointy.nameOfNode s'.document c.target)) := by
  have hdocument := document_newPipeline hnew
  have hstart : (s.call around ⟨.newPipeline config, refused⟩).store.Grown around s.drawn := by
    refine ⟨drawn_le_call around s _, ?_, fun id hid => ?_⟩
    · rw [hdocument]
      exact Document.isWellFormed_empty config
    · rw [hdocument] at hid
      contradiction
  have hnull : ∀ e ∈ (s.call around ⟨.newPipeline config, refused⟩).store.document.events,
      e.name.isNull = false := by
    rw [hdocument]
    exact fun e he => by contradiction
  subst hrun
  have hgrown := hstart.afterCalls hcalls hids
  refine ⟨hgrown.wellFormed, hgrown.wellFormed.edges_dot, fun hnames => ?_⟩
  have hnamed := isNull_eq_false_afterCalls around hcalls hnames hnull
  exact ⟨hgrown.wellFormed.droppedNotes_eq_nil hnamed, hgrown.wellFormed.links_eq_map hnamed⟩

/-- Surroundings in which nothing is set and a clock counts the events that are made. -/
def clocked : Surroundings where
  settings := []
  environment := []
  eventId := fun i => eventIdOfTime i ['a']

/-- A store in memory that has no slots yet. -/
def vacant : Store where
  key := .text ['p']
  document := emptyDocument
  medium := ⟨.memory [], .empty, false⟩
  drawn := 0

/-- A pointy text that connects an event with another one. -/
def chained : Text :=
  ['f', '{', '\n', '}', '\n', 'g', '{', '\n', '}', '\n', 'f', '-', '>', 'g']

/-- A pointy text is taken over between two new events, of which the second one is connected; a
removal is refused, and another event is removed. -/
def interleaved : List Call :=
  [⟨.addEvent (.text ['h']) (.text []) none, false⟩,
    ⟨.importPointy (.text chained) false, false⟩,
    ⟨.addEvent (.text ['h']) (.text []) none, false⟩,
    ⟨.connect (.text (eventIdOfName ['g'])) (.text (eventIdOfTime 1 ['a'])), false⟩,
    ⟨.remove [.text (eventIdOfName ['g'])], true⟩,
    ⟨.remove [.text (eventIdOfName ['f'])], false⟩]

/-- The connection of the event that is removed goes with it, and the other one stays. -/
theorem isWellFormed_newPipeline_interleaved :
    ∃ s', vacant.afterCalls clocked (⟨.newPipeline ⟨['f'], []⟩, false⟩ :: interleaved) = s' ∧
      (∃ r, (vacant.call clocked ⟨.newPipeline ⟨['f'], []⟩, false⟩).result = .ok r) ∧
      (∀ c ∈ interleaved, c.operation.IsInternal) ∧ clocked.TellsApart 0 s'.drawn ∧
      s'.document.IsWellFormed ∧ Pointy.droppedNotes s'.document = [] ∧
      Pointy.links s'.document = [(['g'], ['h'])] := by
  have hnew : (vacant.call clocked ⟨.newPipeline ⟨['f'], []⟩, false⟩).result =
      .ok (.document (Document.empty ⟨['f'], []⟩)) := rfl
  have hinternal : ∀ c ∈ interleaved, c.operation.IsInternal := by
    have hchained : (Operation.importPointy (.text chained) false).IsInternal := by
      rintro s grid reading ⟨⟩ hread r hr
      obtain ⟨-, -, -, -, hdiagnostics⟩ := Pointy.exists_positions_of_read hread
      have hnone : Pointy.diagnostics false (Pointy.entries chained) = [] := by decide
      rw [hdiagnostics, hnone] at hr
      contradiction
    simp only [interleaved, List.forall_mem_cons]
    exact ⟨trivial, hchained, trivial, trivial, trivial, trivial, nofun⟩
  have hdrawn : (vacant.afterCalls clocked
      (⟨.newPipeline ⟨['f'], []⟩, false⟩ :: interleaved)).drawn = 2 := by decide +kernel
  have hids : clocked.TellsApart 0 (vacant.afterCalls clocked
      (⟨.newPipeline ⟨['f'], []⟩, false⟩ :: interleaved)).drawn := by
    rw [hdrawn]
    refine ⟨fun i _ _ => ⟨i, ['a'], rfl⟩, fun i j _ hij hj => ?_⟩
    obtain ⟨rfl, rfl⟩ : i = 0 ∧ j = 1 := by omega
    decide
  have hnames : ∀ c ∈ interleaved, ∀ id, c.operation ≠ .rename id .null := by
    simp [interleaved]
  obtain ⟨hwell, -, hwritten⟩ := isWellFormed_newPipeline clocked vacant hnew hinternal rfl hids
  obtain ⟨hdropped, hlinks⟩ := hwritten hnames
  refine ⟨_, rfl, ⟨_, hnew⟩, hinternal, hids, hwell, hdropped, hlinks.trans ?_⟩
  decide +kernel

end Store

end EventPipeline
