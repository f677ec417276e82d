import EventPipeline.Proofs.Document.Held
import EventPipeline.Proofs.Store.WriteThrough

/-!
# A restart gives back the current document

A run is a list of calls, each of an operation, during which the medium may refuse writes. From the
first call on that loads or writes with success, whatever fails before or after it, a new store on
the same medium and key loads the document that is current (`load_restarted`).

The invariant is that the slot holds the current document (`Synced`). A success establishes it, by
loading what was written; a failure keeps it, because a failed write leaves what can be read as it
was. The one exception is a failed write that has made a directory while there was nothing in the
slot: its path, which led nowhere, may then be no path at all (`not_forall_load_restarted`). Runs in
which a slot becomes unreadable that way are not orderly.
-/

namespace EventPipeline

/-! ## Runs -/

/-- A call of a run. -/
structure Call where
  /-- The operation. -/
  operation : Operation
  /-- Whether the medium refuses writes meanwhile. -/
  refused : Bool

/-- Whether an operation is called with parts that a document can hold: documents that are saved
have a configuration, and events get texts for names and stay on the canvas. The backend is not
closed. -/
def Operation.IsProper : Operation → Prop
  | .save d => ∀ d' ∈ d, d'.Held ∧ d'.config.isSome = true
  | .replace d => d.Held
  | .newPipeline c => (Document.empty c).Held
  | .rename _ name => name.blank? = none
  | .move _ position => position.isSome = true
  | .close => False
  | _ => True

namespace Store

/-- The outcome of a call. -/
def call (around : Surroundings) (s : Store) (c : Call) : Outcome :=
  { s with medium := { s.medium with refusing := c.refused } }.run around c.operation

/-- The store after some calls. -/
def afterCalls (around : Surroundings) (s : Store) (calls : List Call) : Store :=
  calls.foldl (fun s c => (s.call around c).store) s

/-- A store that has read nothing yet. -/
def opened (key : Json) (medium : Medium) (drawn : Nat) : Store where
  key := key
  document := emptyDocument
  medium := medium
  drawn := drawn

/-- A new store on the key and the medium of a store. -/
def restarted (s : Store) : Store :=
  opened s.key s.medium s.drawn

/-- What follows an operation, follows a call of it. -/
lemma call_follows (around : Surroundings) (s : Store) (c : Call) :
    Follows around { s with medium := { s.medium with refusing := c.refused } } c.operation
      (s.call around c) :=
  run_follows around { s with medium := { s.medium with refusing := c.refused } } c.operation

end Store

/-- A call of an orderly run: it is proper, the defaults of the document after it are finite, and
there is still nothing in the slot if it fails while there is nothing. -/
structure Call.IsOrderly (around : Surroundings) (s : Store) (c : Call) : Prop where
  /-- The operation is called with parts that a document can hold. -/
  proper : c.operation.IsProper
  /-- No default of a field holds a number that is not finite. -/
  finite : (s.call around c).store.document.HasFiniteDefaults
  /-- A failure does not make an empty slot unreadable. -/
  tidy : ∀ e, (s.call around c).result = .error e → s.medium.read s.key = .ok .null →
    (s.call around c).store.medium.read s.key = .ok .null

/-- Whether all calls of a run are orderly. -/
def Store.IsOrderlyRun (around : Surroundings) : Store → List Call → Prop
  | _, [] => True
  | s, c :: calls => c.IsOrderly around s ∧ IsOrderlyRun around (s.call around c).store calls

/-! ## What stores hold -/

/-- A document that an operation writes is held when the current one is, and has a configuration. -/
lemma Operation.Drafts.held {around : Surroundings} {s : Store} {op : Operation} {d : Document}
    (h : op.Drafts around s d) (hop : op.IsProper) (hs : s.document.Held)
    (hconfig : s.document.config.isSome = true) : d.Held ∧ d.config.isSome = true := by
  have hconfigured : ∀ d' : Document, d'.Held → d'.configured.Held := fun _ hd' => hd'.withDefault
  cases h with
  | save given =>
    cases given with
    | none => exact ⟨hs, hconfig⟩
    | some d' =>
      simp only [IsProper] at hop
      exact hop d' rfl
  | replace d' => exact ⟨hconfigured d' hop, rfl⟩
  | newPipeline config => exact ⟨hop, rfl⟩
  | addEvent event =>
    refine ⟨hs.withNodes s.document.edges fun n hn => ?_, hconfig⟩
    rcases List.mem_append.1 hn with hn | hn
    · exact hs.nodes n hn
    · rw [List.mem_singleton.1 hn]
      exact Document.admitted_ofEvent (Event.exists_name_of_check event) _
  | rename given renamed =>
    obtain ⟨hd, hkept⟩ := hs.rename? (EventName.exists_given_of_ofJson? given hop) renamed
    exact ⟨hd, hkept ▸ hconfig⟩
  | recode recoded =>
    obtain ⟨hd, hkept⟩ := hs.recode? recoded
    exact ⟨hd, hkept ▸ hconfig⟩
  | move moved =>
    obtain ⟨hd, hkept⟩ := hs.move? hop moved
    exact ⟨hd, hkept ▸ hconfig⟩
  | remove ids =>
    exact ⟨hs.withNodes _ fun n hn => hs.nodes n (List.mem_filter.1 hn).1, hconfig⟩
  | connect _ _ => exact ⟨hs.withNodes _ hs.nodes, hconfig⟩
  | disconnect pk => exact ⟨hs.withNodes _ hs.nodes, hconfig⟩
  | importJson loaded => exact ⟨hconfigured _ (Document.held_of_ofTextValue loaded).1, rfl⟩
  | importBytes loaded => exact ⟨hconfigured _ (Document.held_of_ofBytes loaded).1, rfl⟩
  | importPointy read =>
    exact ⟨hconfigured _ ((Document.held_of_read read).withConfig hs.keys), rfl⟩

namespace Store

/-- The empty document is held. -/
lemma held_emptyDocument : emptyDocument.Held :=
  Document.held_empty fun f hf => by contradiction

/-- The empty document has finite defaults. -/
lemma hasFiniteDefaults_emptyDocument : emptyDocument.HasFiniteDefaults :=
  fun c hc f hf => by obtain rfl := Option.some.inj hc; contradiction

/-- The document in a slot is held and has a configuration. -/
lemma held_of_slotDocument {s : Store} {d : Document} (h : s.slotDocument = .ok d) :
    d.Held ∧ d.config.isSome = true := by
  unfold slotDocument at h
  split at h
  · contradiction
  · rw [← Except.ok.inj h]
    exact ⟨held_emptyDocument, rfl⟩
  · exact Document.held_of_ofTextValue (mapError_eq_ok_iff.1 h)

/-! ## The invariant -/

/-- What every store of an orderly run is like. -/
structure Sound (s : Store) : Prop where
  /-- The document is held. -/
  held : s.document.Held
  /-- The document has a configuration. -/
  config : s.document.config.isSome = true
  /-- The defaults of the fields are finite. -/
  finite : s.document.HasFiniteDefaults

/-- Whether the slot of a store holds its document. -/
def Synced (s : Store) : Prop :=
  s.slotDocument = .ok s.document

variable {s s' : Store}

/-- A store with the document of another one is sound when that one is. -/
lemma Sound.congr (h : s.Sound) (hdocument : s'.document = s.document) : s'.Sound where
  held := hdocument ▸ h.held
  config := hdocument ▸ h.config
  finite := hdocument ▸ h.finite

/-- A store that reads what another one reads finds the same document in its slot. -/
lemma slotDocument_congr (h : s'.medium.read s'.key = s.medium.read s.key) :
    s'.slotDocument = s.slotDocument := by
  rw [slotDocument, slotDocument, h]

/-- A store that reads what another one reads and has its document is synced when that one is. -/
lemma Synced.congr (h : s.Synced) (hread : s'.medium.read s'.key = s.medium.read s.key)
    (hdocument : s'.document = s.document) : s'.Synced := by
  rw [Synced, slotDocument_congr hread, hdocument]
  exact h

/-- The slot of a synced store can be read. -/
lemma Synced.exists_read (h : s.Synced) : ∃ v, s.medium.read s.key = .ok v := by
  rw [Synced, slotDocument] at h
  split at h
  · contradiction
  · exact ⟨_, ‹_›⟩
  · exact ⟨_, ‹_›⟩

/-- A new store in the place of a synced one loads its document. -/
lemma Synced.load_eq_ok (h : s.Synced) :
    s.restarted.load.result = .ok (.document s.document) := by
  have hslot : s.restarted.slotDocument = .ok s.document := h
  rw [result_load, hslot]
  rfl

/-- A store whose slot holds the text of its document is synced. -/
lemma Sound.synced (h : s.Sound) {payload : Text}
    (hpayload : s.document.write? .inline = some payload)
    (hread : s.medium.read s.key = .ok (.text payload)) : s.Synced := by
  have hload :=
    h.held.ofText_of_write? h.config h.finite (Json.Style.isBlank_ofIndent none) hpayload
  rw [Synced, slotDocument, hread]
  dsimp only
  rw [Document.ofTextValue, hload]
  rfl

end Store

/-- An outcome after which a store is sound, and synced if it was so before or the operation has
succeeded. -/
structure Outcome.Secures (s : Store) (o : Outcome) : Prop where
  /-- The store is sound. -/
  sound : o.store.Sound
  /-- A store that was synced still is. -/
  still : s.Synced → o.store.Synced
  /-- A success makes the store synced. -/
  done : ∀ r, o.result = .ok r → o.store.Synced

namespace Store

variable {s : Store}

/-! ## Operations -/

/-- A failure secures the store if the document and what is read are as they were. -/
lemma Sound.secures_of_error (hs : s.Sound) {o : Outcome} {e : StoreError}
    (hresult : o.result = .error e) (hdocument : o.store.document = s.document)
    (hread : s.Synced → o.store.medium.read o.store.key = s.medium.read s.key) : o.Secures s where
  sound := hs.congr hdocument
  still := fun h => h.congr (hread h) hdocument
  done := by
    intro r hr
    rw [hresult] at hr
    contradiction

/-- What fails or commits a held document secures the store, if a failure does not make an empty slot
unreadable. -/
lemma Sound.secures_of_commits (hs : s.Sound) {P : Document → Prop} {o : Outcome}
    (h : o.Commits s P) (hP : ∀ d, P d → d.Held ∧ d.config.isSome = true)
    (hfinite : o.store.document.HasFiniteDefaults)
    (htidy : ∀ e, o.result = .error e → s.medium.read s.key = .ok .null →
      o.store.medium.read s.key = .ok .null) : o.Secures s := by
  cases h with
  | failed e agrees =>
    obtain ⟨hkey, hdocument, hmedium, hresult⟩ := agrees
    refine hs.secures_of_error hresult hdocument fun _ => ?_
    rw [hkey, hmedium]
    rfl
  | committed d log r drafted agrees =>
    obtain ⟨hkey, hdocument, hmedium, hresult⟩ := agrees
    rcases s.commit_cases log d r with hcommit | ⟨payload, medium, writeLog, hpayload,
      ⟨e, hwrite, hcommit⟩ | ⟨hwrite, hcommit⟩⟩
    all_goals rw [hcommit] at hkey hdocument hmedium hresult
    · refine hs.secures_of_error hresult hdocument fun _ => ?_
      rw [hkey, hmedium]
    · refine hs.secures_of_error hresult hdocument fun h => ?_
      obtain ⟨v, hread⟩ := h.exists_read
      rw [hkey, hread]
      by_cases hv : v = .null
      · subst hv
        exact htidy _ hresult hread
      · rw [hmedium]
        exact Medium.stillReads_of_write hwrite v hread fun hnull => absurd hnull hv
    · have hwritten := Medium.written_of_write (return_not_mem_of_write? hpayload) hwrite
      obtain ⟨hheld, hconfig⟩ := hP d drafted
      dsimp only at hdocument
      have hsound : o.store.Sound := ⟨hdocument ▸ hheld, hdocument ▸ hconfig, hfinite⟩
      have hsynced : o.store.Synced := by
        refine hsound.synced (hdocument ▸ hpayload) ?_
        rw [hkey, hmedium]
        exact hwritten.read
      exact ⟨hsound, fun _ => hsynced, fun _ _ => hsynced⟩

/-- Loading secures the store. -/
lemma Sound.secures_load (hs : s.Sound) (hfinite : s.load.store.document.HasFiniteDefaults) :
    s.load.Secures s := by
  rw [load_eq] at hfinite ⊢
  cases hslot : s.slotDocument with
  | error e =>
    exact ⟨hs, id, fun _ h => by contradiction⟩
  | ok d =>
    rw [hslot] at hfinite
    obtain ⟨hheld, hconfig⟩ := held_of_slotDocument hslot
    have hsynced : Synced { s with document := d } := hslot
    exact ⟨⟨hheld, hconfig, hfinite⟩, fun _ => hsynced, fun _ _ => hsynced⟩

/-! ## Runs -/

variable {around : Surroundings} {calls : List Call} {c : Call}

/-- An orderly call leaves a store sound, and synced if it was so before or the operation loads or
writes and has succeeded. -/
lemma Sound.call (hs : s.Sound) (hc : c.IsOrderly around s) :
    (s.call around c).store.Sound ∧ (s.Synced → (s.call around c).store.Synced) ∧
      (c.operation = .load ∨ c.operation.isMutating = true →
        ∀ r, (s.call around c).result = .ok r → (s.call around c).store.Synced) := by
  obtain ⟨op, refused⟩ := c
  obtain ⟨hproper, hfinite, htidy⟩ := hc
  have hs' : Sound { s with medium := { s.medium with refusing := refused } } :=
    ⟨hs.held, hs.config, hs.finite⟩
  -- Whether the medium refuses writes does not matter for what is read.
  have hsynced : Synced { s with medium := { s.medium with refusing := refused } } = s.Synced := rfl
  by_cases hload : op = .load
  · subst hload
    have hsecures := hs'.secures_load hfinite
    exact ⟨hsecures.sound, hsecures.still, fun _ => hsecures.done⟩
  cases hmutating : op.isMutating with
  | true =>
    have hdrafts := fun d (hd : op.Drafts around { s with medium := { s.medium with
      refusing := refused } } d) => hd.held hproper hs.held hs.config
    have hsecures := hs'.secures_of_commits (run_commits around _ hmutating) hdrafts hfinite htidy
    exact ⟨hsecures.sound, hsecures.still, fun _ => hsecures.done⟩
  | false =>
    have hclose : op ≠ .close := by
      rintro rfl
      exact hproper
    have hstore : (s.call around ⟨op, refused⟩).store =
        { s with medium := { s.medium with refusing := refused } } :=
      run_store_of_isMutating_eq_false around _ hmutating hload hclose
    rw [hstore, hsynced]
    refine ⟨hs', id, fun hop => ?_⟩
    rcases hop with hop | hop
    · exact absurd hop hload
    · contradiction

/-- Calling for the document gives back the document in the slot. -/
lemma result_call_load (s : Store) (refused : Bool) :
    (s.call around ⟨.load, refused⟩).result = s.slotDocument.map Reply.document :=
  result_load _

/-- The calls of an orderly run are those of two that follow one another. -/
lemma isOrderlyRun_append {more : List Call} : s.IsOrderlyRun around (calls ++ more) ↔
    s.IsOrderlyRun around calls ∧ (s.afterCalls around calls).IsOrderlyRun around more := by
  induction calls generalizing s with
  | nil => exact ⟨fun h => ⟨trivial, h⟩, And.right⟩
  | cons c calls ih =>
    rw [List.cons_append, IsOrderlyRun, IsOrderlyRun, ih, and_assoc]
    rfl

/-- An orderly run leaves a store sound. -/
lemma Sound.afterCalls (hs : s.Sound) (h : s.IsOrderlyRun around calls) :
    (s.afterCalls around calls).Sound := by
  induction calls generalizing s with
  | nil => exact hs
  | cons c calls ih => exact ih (hs.call h.1).1 h.2

/-- An orderly run leaves a store synced that was so before. -/
lemma Sound.synced_afterCalls (hs : s.Sound) (hsynced : s.Synced)
    (h : s.IsOrderlyRun around calls) : (s.afterCalls around calls).Synced := by
  induction calls generalizing s with
  | nil => exact hsynced
  | cons c calls ih =>
    obtain ⟨hsound, hstill, -⟩ := hs.call h.1
    exact ih hsound (hstill hsynced) h.2

/-- A new store is sound. -/
lemma sound_opened (key : Json) (medium : Medium) (drawn : Nat) :
    (opened key medium drawn).Sound :=
  ⟨held_emptyDocument, rfl, hasFiniteDefaults_emptyDocument⟩

/-- At every moment of an orderly run after a call that has loaded or written with success, a new
store on the same key and medium loads the document that is current. -/
theorem load_restarted (around : Surroundings) (key : Json) (medium : Medium) (drawn : Nat)
    {before after : List Call} {c : Call} {r : Reply}
    (hrun : (opened key medium drawn).IsOrderlyRun around (before ++ c :: after))
    (hop : c.operation = .load ∨ c.operation.isMutating = true)
    (hr : (((opened key medium drawn).afterCalls around before).call around c).result = .ok r) :
    ((opened key medium drawn).afterCalls around (before ++ c :: after)).restarted.load.result =
      .ok (.document
        ((opened key medium drawn).afterCalls around (before ++ c :: after)).document) := by
  obtain ⟨hbefore, hcall, hafter⟩ := isOrderlyRun_append.1 hrun
  have hsound := (sound_opened key medium drawn).afterCalls hbefore
  obtain ⟨hsound', -, hdone⟩ := hsound.call hcall
  have hsynced := hsound'.synced_afterCalls (hdone hop r hr) hafter
  rw [afterCalls, List.foldl_append, List.foldl_cons]
  exact hsynced.load_eq_ok

/-- Surroundings in which nothing is set and every event gets the same id. -/
def bare : Surroundings where
  settings := []
  environment := []
  eventId := fun _ => ['i']

/-- No files yet, and a directory for slots that is still to be made. -/
def unmade (directory : Text) : Medium where
  backend := .directory directory
  files := .empty
  refusing := false

/-- A new pipeline that is refused, one that is taken, the renaming of an event that is not there,
and a new event. -/
def interrupted : List Call :=
  [⟨.newPipeline ⟨['f'], []⟩, true⟩, ⟨.newPipeline ⟨['f'], []⟩, false⟩,
    ⟨.rename (.text ['j']) (.text ['n']), false⟩,
    ⟨.addEvent (.text ['m']) (.text ['c', '\r', '\n']) none, false⟩]

/-- The document of the run is loaded from its file, whatever has failed. -/
theorem load_restarted_interrupted :
    (opened (.text ['p']) (unmade ['d']) 0).IsOrderlyRun bare interrupted ∧
      ((opened (.text ['p']) (unmade ['d']) 0).afterCalls bare interrupted).restarted.load.result =
        .ok (.document
          { config := some ⟨['f'], []⟩
            nodes := [Node.ofEvent ⟨['i'], .given ['m'], ['c', '\r', '\n']⟩ standardPosition]
            edges := [] }) := by
  have hfinite : ∀ d : Document, d.config = some ⟨['f'], []⟩ → d.HasFiniteDefaults := by
    intro d hd c hc f hf
    obtain rfl := Option.some.inj (hd.symm.trans hc)
    contradiction
  have hheld : (Document.empty ⟨['f'], []⟩).Held :=
    Document.held_empty fun f hf => by contradiction
  have hrun : (opened (.text ['p']) (unmade ['d']) 0).IsOrderlyRun bare interrupted := by
    refine ⟨⟨hheld, hasFiniteDefaults_emptyDocument, fun _ _ _ => rfl⟩,
      ⟨hheld, hfinite _ rfl, fun _ h => ?_⟩, ⟨rfl, hfinite _ rfl, fun _ _ h => h⟩,
      ⟨trivial, hfinite _ rfl, fun _ h => ?_⟩, trivial⟩
    · contradiction
    · contradiction
  exact ⟨hrun, @load_restarted bare (.text ['p']) (unmade ['d']) 0
    [⟨.newPipeline ⟨['f'], []⟩, true⟩]
    [⟨.rename (.text ['j']) (.text ['n']), false⟩,
      ⟨.addEvent (.text ['m']) (.text ['c', '\r', '\n']) none, false⟩]
    ⟨.newPipeline ⟨['f'], []⟩, false⟩ (.document (Document.empty ⟨['f'], []⟩)) hrun (.inr rfl) rfl⟩

/-- A directory whose last name is too long, in one that can be made. -/
def overlong : Text :=
  'a' :: '/' :: List.replicate 300 'b'

/-- Runs that are not orderly need not end so. Here nothing is loaded after a new pipeline for which
the first directory was made and the second one could not be: the path of the slot, which led
nowhere, has become unusable. -/
theorem not_forall_load_restarted :
    ¬ ∀ (around : Surroundings) (key : Json) (medium : Medium) (drawn : Nat)
      (before after : List Call) (c : Call) (r : Reply),
      (∀ other ∈ before ++ c :: after, other.operation.IsProper) →
      (∀ n, ((opened key medium drawn).afterCalls around
        ((before ++ c :: after).take n)).document.HasFiniteDefaults) →
      c.operation = .load ∨ c.operation.isMutating = true →
      (((opened key medium drawn).afterCalls around before).call around c).result = .ok r →
      ((opened key medium drawn).afterCalls around (before ++ c :: after)).restarted.load.result =
        .ok (.document
          ((opened key medium drawn).afterCalls around (before ++ c :: after)).document) := by
  intro hall
  have hproper : ∀ other ∈ [Call.mk .load false, ⟨.newPipeline ⟨['f'], []⟩, false⟩],
      other.operation.IsProper := by
    simp only [List.forall_mem_cons]
    exact ⟨trivial, Document.held_empty fun f hf => by contradiction, nofun⟩
  have hdocument : ∀ n, ((opened (.text ['p']) (unmade overlong) 0).afterCalls bare
      ([Call.mk .load false, ⟨.newPipeline ⟨['f'], []⟩, false⟩].take n)).document =
        emptyDocument := by
    intro n
    rcases n with _ | _ | n
    · rfl
    · decide +kernel
    · rw [List.take_of_length_le (by simp)]
      decide +kernel
  have hfirst : (opened (.text ['p']) (unmade overlong) 0).slotDocument = .ok emptyDocument := by
    decide +kernel
  have hlast : ((opened (.text ['p']) (unmade overlong) 0).afterCalls bare
      [Call.mk .load false, ⟨.newPipeline ⟨['f'], []⟩, false⟩]).restarted.slotDocument =
        .error (.backend (.path .nameTooLong)) := by
    decide +kernel
  have hok : ((opened (.text ['p']) (unmade overlong) 0).call bare ⟨.load, false⟩).result =
      .ok (.document emptyDocument) := by
    rw [result_call_load, hfirst]
    rfl
  have hload := hall bare (.text ['p']) (unmade overlong) 0 []
    [⟨.newPipeline ⟨['f'], []⟩, false⟩] ⟨.load, false⟩ _ hproper
    (fun n => (hdocument n).symm ▸ hasFiniteDefaults_emptyDocument) (.inl rfl) hok
  rw [result_load, List.nil_append, hlast] at hload
  simp only [Except.map, reduceCtorEq] at hload

end Store

end EventPipeline
