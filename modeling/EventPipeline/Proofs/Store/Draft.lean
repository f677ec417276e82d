import EventPipeline.Store
import Mathlib.Tactic.Common

/-!
# What the operations of a store write

An operation that changes the document drafts another one and commits it. `Operation.Drafts` says
which document that is, case by case, and `run_commits` that there is no other way for such an
operation to go: it fails with the store as it was, or commits a draft. Loading is described by the
document in the slot (`load_eq`), and all else leaves the store as it was. So there are four ways
for the current document to go on (`run_follows`), and after an operation that does not load it is
the one before or a draft (`document_run`). Ids for new events are drawn by one operation only
(`drawn_run`). What is proved of stores goes through these and never looks into an operation
again.
-/

namespace EventPipeline

/-! ## Drafts -/

/-- Whether an operation changes the current document by writing another one. -/
def Operation.isMutating : Operation → Bool
  | .save _ => true
  | .replace _ => true
  | .newPipeline _ => true
  | .addEvent _ _ _ => true
  | .rename _ _ => true
  | .recode _ _ => true
  | .move _ _ => true
  | .remove _ => true
  | .connect _ _ => true
  | .disconnect _ => true
  | .importJson _ => true
  | .importBytes _ => true
  | .importPointy _ _ => true
  | .load => false
  | .exportJson _ => false
  | .exportPointy => false
  | .exportFileName _ => false
  | .config => false
  | .close => false

/-- The document with an empty configuration if it has none. -/
def Document.configured (d : Document) : Document :=
  d.withConfig (some (d.config.getD Config.empty))

/-- The documents that an operation of a store writes. -/
inductive Operation.Drafts (around : Surroundings) (s : Store) : Operation → Document → Prop
  /-- Saving writes the document that is given, or the current one. -/
  | save (d : Option Document) : Drafts around s (.save d) (d.getD s.document)
  /-- A document that replaces the current one gets a configuration. -/
  | replace (d : Document) : Drafts around s (.replace d) d.configured
  /-- A new pipeline has no events. -/
  | newPipeline (config : Config) : Drafts around s (.newPipeline config) (Document.empty config)
  /-- A new event has the next id and is put at a position that is given, or the standard one. -/
  | addEvent {name code name' code' : Json} {position : Option Position} {e : Event}
      (event : Store.newEvent (around.eventId s.drawn) name' code' = .ok e) :
      Drafts around s (.addEvent name code position)
        (s.document.addEvent e (position.getD Store.standardPosition))
  /-- An event gets another name. -/
  | rename {pk : Text} {name : Json} {name' : EventName} {d : Document}
      (given : EventName.ofJson? name = some name')
      (renamed : s.document.rename? pk name' = some d) :
      Drafts around s (.rename (.text pk) name) d
  /-- An event gets other code. -/
  | recode {pk code : Text} {d : Document} (recoded : s.document.recode? pk code = some d) :
      Drafts around s (.recode (.text pk) (.text code)) d
  /-- An event is put elsewhere. -/
  | move {pk : Text} {position : Option Position} {d : Document}
      (moved : s.document.move? pk position = some d) :
      Drafts around s (.move (.text pk) position) d
  /-- Events are removed. -/
  | remove (ids : List Json) :
      Drafts around s (.remove ids) (s.document.removeEvents (ids.filterMap Json.text?))
  /-- Two events that there are are connected. -/
  | connect {source target : Text} {n n' : Node} (from' : s.document.node? source = some n)
      (to' : s.document.node? target = some n') :
      Drafts around s (.connect (.text source) (.text target))
        (s.document.addConnection (s.document.newConnection source target))
  /-- A connection that there is is removed. -/
  | disconnect (pk : Text) (found : (s.document.connection? pk).isSome = true) :
      Drafts around s (.disconnect (.text pk)) (s.document.removeConnection pk)
  /-- The document of an interchange text is taken over. -/
  | importJson {source : Json} {d : Document} (loaded : Document.ofTextValue source = .ok d) :
      Drafts around s (.importJson source) d.configured
  /-- The document of bytes is taken over. -/
  | importBytes {bytes : Bytes} {d : Document} (loaded : Document.ofBytes bytes = .ok d) :
      Drafts around s (.importBytes bytes) d.configured
  /-- The document of a pointy text is taken over, under the configuration that there is. -/
  | importPointy {text : Text} {strict : Bool} {grid : Grid} {reading : Pointy.Reading}
      (read : Pointy.read strict grid text = .ok reading) :
      Drafts around s (.importPointy (.text text) strict)
        (reading.document.withConfig s.document.config).configured

/-! ## Outcomes that commit -/

/-- Outcomes that are the same but for what was reported and how many ids were drawn. -/
structure Outcome.Agrees (o o' : Outcome) : Prop where
  /-- The keys are the same. -/
  key : o.store.key = o'.store.key
  /-- The documents are the same. -/
  document : o.store.document = o'.store.document
  /-- The media are the same. -/
  medium : o.store.medium = o'.store.medium
  /-- The results are the same. -/
  result : o.result = o'.result

/-- The two ways in which an operation goes that writes one of some documents. -/
inductive Outcome.Commits (s : Store) (P : Document → Prop) (o : Outcome) : Prop
  /-- It fails with the store as it was. -/
  | failed (e : StoreError) (agrees : o.Agrees (s.fail e))
  /-- It commits one of the documents. -/
  | committed (d : Document) (log : Log) (r : Reply) (drafted : P d)
      (agrees : o.Agrees (s.commit log d r))

namespace Store

variable {s : Store} {P : Document → Prop}

/-- A failure is one way to go. -/
lemma commits_fail (s : Store) (e : StoreError) : (s.fail e).Commits s P :=
  .failed e ⟨rfl, rfl, rfl, rfl⟩

/-- Committing a document is the other. -/
lemma commits_commit {d : Document} (hd : P d) (log : Log) (r : Reply) :
    (s.commit log d r).Commits s P :=
  .committed d log r hd ⟨rfl, rfl, rfl, rfl⟩

/-- Committing an edit is one of the two. -/
lemma commits_commitEdit {edited : Option Document} (h : ∀ d ∈ edited, P d) (id : Json) (log : Log)
    (r : Reply) : (s.commitEdit id log edited r).Commits s P := by
  cases edited with
  | none => exact s.commits_fail _
  | some d => exact commits_commit (h d rfl) log r

/-- What is done for the node of an id fails without the node, and is done for the node of a text
otherwise. -/
lemma withNode_cases (s : Store) (id : Json) (f : Text → Node → Outcome) :
    (∃ e, s.withNode id f = s.fail e) ∨
      ∃ pk n, id = .text pk ∧ s.document.node? pk = some n ∧ s.withNode id f = f pk n := by
  unfold withNode
  split
  · rename_i pk
    cases hn : s.document.node? pk with
    | none => exact .inl ⟨_, rfl⟩
    | some n => exact .inr ⟨pk, n, rfl, hn, rfl⟩
  · exact .inl ⟨_, rfl⟩

/-- What goes one of the two ways for the node of a text goes so for the node of an id. -/
lemma commits_withNode {id : Json} {f : Text → Node → Outcome}
    (hf : ∀ pk n, id = .text pk → s.document.node? pk = some n → (f pk n).Commits s P) :
    (s.withNode id f).Commits s P := by
  rcases s.withNode_cases id f with ⟨e, hrun⟩ | ⟨pk, n, hid, hn, hrun⟩
  · rw [hrun]
    exact s.commits_fail e
  · rw [hrun]
    exact hf pk n hid hn

/-- Committing a document goes one of three ways: it cannot be written, the medium does not take it,
or it is written and becomes current. -/
lemma commit_cases (s : Store) (log : Log) (d : Document) (r : Reply) :
    s.commit log d r = ⟨s, log, .error .unwritable⟩ ∨
    ∃ payload medium writeLog, d.write? .inline = some payload ∧
      ((∃ e, s.medium.write s.key (.text payload) = (medium, writeLog, .error e) ∧
          s.commit log d r =
            ⟨{ s with medium := medium }, log ++ writeLog, .error (.backend e)⟩) ∨
        (s.medium.write s.key (.text payload) = (medium, writeLog, .ok ()) ∧
          s.commit log d r =
            ⟨{ s with medium := medium, document := d }, log ++ writeLog, .ok r⟩)) := by
  unfold commit
  cases hpayload : d.write? .inline with
  | none => exact .inl rfl
  | some payload =>
    obtain ⟨⟨medium, writeLog, result⟩, hwrite⟩ :
        ∃ w, s.medium.write s.key (.text payload) = w := ⟨_, rfl⟩
    refine .inr ⟨payload, medium, writeLog, rfl, ?_⟩
    dsimp only
    rw [hwrite]
    cases result with
    | error e => exact .inl ⟨e, rfl, rfl⟩
    | ok u => exact .inr ⟨rfl, rfl⟩

/-- Committing a document that cannot be written leaves the store as it was. -/
lemma store_commit_of_write?_none (s : Store) (log : Log) (r : Reply) {d : Document}
    (h : d.write? .inline = none) : (s.commit log d r).store = s := by
  rw [commit, h]

/-- Committing a document writes its text under the key of the store. -/
lemma medium_commit_of_write? (s : Store) (log : Log) (r : Reply) {d : Document} {payload : Text}
    (h : d.write? .inline = some payload) :
    (s.commit log d r).store.medium = (s.medium.write s.key (.text payload)).1 := by
  rw [commit, h]
  dsimp only
  cases (s.medium.write s.key (.text payload)).2.2 <;> rfl

/-- How a document is committed does not depend on how many ids were drawn. -/
lemma commit_agrees (s : Store) (drawn : Nat) (log log' : Log) (d : Document) (r : Reply) :
    ({ s with drawn := drawn }.commit log d r).Agrees (s.commit log' d r) := by
  unfold commit
  cases d.write? .inline with
  | none => exact ⟨rfl, rfl, rfl, rfl⟩
  | some payload =>
    dsimp only
    cases (s.medium.write s.key (.text payload)).2.2 <;> exact ⟨rfl, rfl, rfl, rfl⟩

/-! ## Operations -/

variable {around : Surroundings}

/-- Adding an event fails before an id is drawn, or draws one for an event that fails its check, or
draws one and commits the event. -/
lemma addEvent_cases (around : Surroundings) (s : Store) (name code : Json)
    (position : Option Position) :
    (∃ e, s.addEvent around name code position = s.fail e) ∨
    (∃ e, s.addEvent around name code position = { s with drawn := s.drawn + 1 }.fail e) ∨
    ∃ name' code' e log, newEvent (around.eventId s.drawn) name' code' = .ok e ∧
      s.addEvent around name code position =
        { s with drawn := s.drawn + 1 }.commit log
          (s.document.addEvent e (position.getD standardPosition)) (.event e) := by
  unfold addEvent
  split
  · exact .inl ⟨_, rfl⟩
  split
  · exact .inl ⟨_, rfl⟩
  split
  · exact .inl ⟨_, rfl⟩
  split
  · exact .inl ⟨_, rfl⟩
  dsimp only
  split
  · exact .inr (.inl ⟨_, rfl⟩)
  · rename_i e he
    exact .inr (.inr ⟨_, _, e, _, he, rfl⟩)

/-- Adding an event fails or commits. -/
lemma commits_addEvent (around : Surroundings) (s : Store) (name code : Json)
    (position : Option Position) : (s.addEvent around name code position).Commits s
      (Operation.Drafts around s (.addEvent name code position)) := by
  rcases s.addEvent_cases around name code position with
    ⟨e, hrun⟩ | ⟨e, hrun⟩ | ⟨name', code', e, log, he, hrun⟩
  · rw [hrun]
    exact s.commits_fail e
  · rw [hrun]
    exact .failed e ⟨rfl, rfl, rfl, rfl⟩
  · rw [hrun]
    exact .committed _ [] (.event e) (.addEvent he) (s.commit_agrees _ _ _ _ _)

/-- Giving an event another name fails or commits. -/
lemma commits_rename (s : Store) (id name : Json) :
    (s.rename id name).Commits s (Operation.Drafts around s (.rename id name)) := by
  refine commits_withNode fun pk n hid _ => ?_
  subst hid
  split
  · exact s.commits_fail _
  · rename_i given hname
    exact commits_commitEdit (fun d hd => .rename hname hd) _ _ _

/-- Giving an event other code fails or commits. -/
lemma commits_recode (s : Store) (id code : Json) :
    (s.recode id code).Commits s (Operation.Drafts around s (.recode id code)) := by
  refine commits_withNode fun pk n hid _ => ?_
  subst hid
  split
  · exact commits_commitEdit (fun d hd => .recode hd) _ _ _
  · exact s.commits_fail _

/-- Moving an event fails or commits. -/
lemma commits_move (s : Store) (id : Json) (position : Option Position) :
    (s.move id position).Commits s (Operation.Drafts around s (.move id position)) := by
  refine commits_withNode fun pk n hid _ => ?_
  subst hid
  exact commits_commitEdit (fun d hd => .move hd) _ _ _

/-- Removing events fails or commits. -/
lemma commits_remove (s : Store) (ids : List Json) :
    (s.remove ids).Commits s (Operation.Drafts around s (.remove ids)) := by
  unfold remove
  split
  · exact commits_commit (.remove ids) _ _
  · exact s.commits_fail _

/-- Connecting two events fails or commits. -/
lemma commits_connect (s : Store) (source target : Json) :
    (s.connect source target).Commits s (Operation.Drafts around s (.connect source target)) := by
  refine commits_withNode fun pk n hsource hfrom => ?_
  refine commits_withNode fun pk' n' htarget hto => ?_
  subst hsource htarget
  exact commits_commit (.connect hfrom hto) _ _

/-- Removing a connection fails or commits. -/
lemma commits_disconnect (s : Store) (id : Json) :
    (s.disconnect id).Commits s (Operation.Drafts around s (.disconnect id)) := by
  unfold disconnect
  split
  · split
    · exact s.commits_fail _
    · rename_i hfound
      exact commits_commit (.disconnect _ (by simpa [Option.isSome_iff_ne_none] using hfound)) _ _
  · exact s.commits_fail _

/-- Taking over a document that was loaded fails or commits. -/
lemma commits_importLoaded (s : Store) {loaded : Except LoadError Document}
    (h : ∀ d, loaded = .ok d → P d.configured) : (s.importLoaded loaded).Commits s P := by
  cases loaded with
  | error e => exact .failed _ ⟨rfl, rfl, rfl, rfl⟩
  | ok d => exact commits_commit (h d rfl) _ _

/-- Taking over a pointy text fails or commits. -/
lemma commits_importPointy (around : Surroundings) (s : Store) (text : Json) (strict : Bool) :
    (s.importPointy around text strict).Commits s
      (Operation.Drafts around s (.importPointy text strict)) := by
  unfold importPointy
  split
  · exact s.commits_fail _
  · split
    · exact s.commits_fail _
    · rename_i reading hreading
      exact .committed _ [] (.document _) (.importPointy hreading) ⟨rfl, rfl, rfl, rfl⟩
  · exact s.commits_fail _

/-- An operation that changes the document fails with the store as it was, or commits a draft. -/
theorem run_commits (around : Surroundings) (s : Store) {op : Operation}
    (h : op.isMutating = true) : (s.run around op).Commits s (op.Drafts around s) := by
  cases op with
  | save d => exact commits_commit (.save d) _ _
  | replace d => exact commits_commit (.replace d) _ _
  | newPipeline config => exact commits_commit (.newPipeline config) _ _
  | addEvent name code position => exact s.commits_addEvent around name code position
  | rename id name => exact s.commits_rename id name
  | recode id code => exact s.commits_recode id code
  | move id position => exact s.commits_move id position
  | remove ids => exact s.commits_remove ids
  | connect source target => exact s.commits_connect source target
  | disconnect id => exact s.commits_disconnect id
  | importJson source => exact s.commits_importLoaded fun _ hd => .importJson hd
  | importBytes bytes => exact s.commits_importLoaded fun _ hd => .importBytes hd
  | importPointy text strict => exact s.commits_importPointy around text strict
  | load | exportJson | exportPointy | exportFileName | config | close => contradiction

/-! ## Loading -/

/-- The document in the slot of a store. -/
def slotDocument (s : Store) : Except StoreError Document :=
  match s.medium.read s.key with
  | .error e => .error (.backend e)
  | .ok .null => .ok emptyDocument
  | .ok payload => (Document.ofTextValue payload).mapError .load

/-- Loading makes the document in the slot current, if there is one. -/
theorem load_eq (s : Store) : s.load = match s.slotDocument with
    | .error e => s.fail e
    | .ok d => { s with document := d }.reply [] (.document d) := by
  unfold load slotDocument
  cases s.medium.read s.key with
  | error e => rfl
  | ok payload =>
    cases payload with
    | text t =>
      dsimp only
      cases Document.ofTextValue (.text t) <;> rfl
    | _ => rfl

/-- Loading gives back the document in the slot. -/
lemma result_load (s : Store) : s.load.result = s.slotDocument.map Reply.document := by
  rw [load_eq]
  cases s.slotDocument <;> rfl

/-- An operation that neither changes the document nor loads one nor closes the backend leaves the
store as it was. -/
theorem run_store_of_isMutating_eq_false (around : Surroundings) (s : Store) {op : Operation}
    (h : op.isMutating = false) (hload : op ≠ .load) (hclose : op ≠ .close) :
    (s.run around op).store = s := by
  cases op with
  | exportJson style =>
    unfold run
    dsimp only
    split <;> rfl
  | exportPointy | config => rfl
  | exportFileName extension =>
    unfold run exportFileName
    dsimp only
    split <;> rfl
  | load => exact absurd rfl hload
  | close => exact absurd rfl hclose
  | _ => contradiction

/-! ## All operations -/

/-- What follows an operation: whether it succeeded, and which document is current then. -/
inductive Follows (around : Surroundings) (s : Store) (op : Operation) (o : Outcome) : Prop
  /-- A failure leaves the document as it was. -/
  | failed (e : StoreError) (result : o.result = .error e)
      (document : o.store.document = s.document)
  /-- Loading with success makes the document in the slot current. -/
  | loaded (r : Reply) (result : o.result = .ok r) (load : op = .load)
      (document : s.slotDocument = .ok o.store.document)
  /-- Changing the document with success makes a draft current. -/
  | drafted (r : Reply) (result : o.result = .ok r)
      (document : op.Drafts around s o.store.document)
  /-- Any other success leaves the document as it was. -/
  | kept (r : Reply) (result : o.result = .ok r) (reads : op.isMutating = false)
      (document : o.store.document = s.document)

/-- An operation that changes the document leaves it alone when it fails, and makes a draft current
when it succeeds. -/
lemma follows_of_isMutating (around : Surroundings) (s : Store) {op : Operation}
    (h : op.isMutating = true) : Follows around s op (s.run around op) := by
  cases s.run_commits around h with
  | failed e agrees => exact .failed e agrees.result agrees.document
  | committed d log r drafted agrees =>
    rcases s.commit_cases log d r with hcommit | ⟨payload, medium, writeLog, -,
      ⟨e, -, hcommit⟩ | ⟨-, hcommit⟩⟩
    · rw [hcommit] at agrees
      exact .failed _ agrees.result agrees.document
    · rw [hcommit] at agrees
      exact .failed _ agrees.result agrees.document
    · rw [hcommit] at agrees
      exact .drafted r agrees.result (agrees.document ▸ drafted)

/-- There is no other way for an operation to go. -/
theorem run_follows (around : Surroundings) (s : Store) (op : Operation) :
    Follows around s op (s.run around op) := by
  cases hmutating : op.isMutating with
  | true => exact s.follows_of_isMutating around hmutating
  | false =>
    by_cases hload : op = .load
    · subst hload
      have hrun : s.run around .load = s.load := rfl
      rw [hrun, load_eq]
      cases hslot : s.slotDocument with
      | error e => exact .failed e rfl rfl
      | ok d => exact .loaded (.document d) rfl rfl hslot
    · have hdocument : (s.run around op).store.document = s.document := by
        by_cases hclose : op = .close
        · rw [hclose]
          rfl
        · rw [s.run_store_of_isMutating_eq_false around hmutating hload hclose]
      cases hresult : (s.run around op).result with
      | error e => exact .failed e hresult hdocument
      | ok r => exact .kept r hresult hmutating hdocument

/-- After an operation other than loading the document is as it was, or a draft of the operation. -/
theorem document_run (around : Surroundings) (s : Store) {op : Operation} (hload : op ≠ .load) :
    (s.run around op).store.document = s.document ∨
      op.Drafts around s (s.run around op).store.document := by
  cases s.run_follows around op with
  | failed e result document => exact .inl document
  | loaded r result load document => exact absurd load hload
  | drafted r result document => exact .inr document
  | kept r result reads document => exact .inl document

/-! ## Ids that are drawn -/

/-- Committing a document draws no id. -/
lemma drawn_commit (s : Store) (log : Log) (d : Document) (r : Reply) :
    (s.commit log d r).store.drawn = s.drawn := by
  rcases s.commit_cases log d r with hcommit | ⟨payload, medium, writeLog, -,
    ⟨e, -, hcommit⟩ | ⟨-, hcommit⟩⟩ <;> rw [hcommit]

/-- Committing an edit draws no id. -/
lemma drawn_commitEdit (s : Store) (id : Json) (log : Log) (edited : Option Document) (r : Reply) :
    (s.commitEdit id log edited r).store.drawn = s.drawn := by
  cases edited with
  | none => rfl
  | some d => exact s.drawn_commit log d r

/-- What draws no id for the node of a text draws none for the node of an id. -/
lemma drawn_withNode {s : Store} {id : Json} {f : Text → Node → Outcome}
    (hf : ∀ pk n, (f pk n).store.drawn = s.drawn) : (s.withNode id f).store.drawn = s.drawn := by
  rcases s.withNode_cases id f with ⟨e, hrun⟩ | ⟨pk, n, -, -, hrun⟩
  · rw [hrun]
    rfl
  · rw [hrun]
    exact hf pk n

/-- Taking over a document that was loaded draws no id. -/
lemma drawn_importLoaded (s : Store) (loaded : Except LoadError Document) :
    (s.importLoaded loaded).store.drawn = s.drawn := by
  cases loaded with
  | error e => rfl
  | ok d => exact s.drawn_commit _ _ _

/-- Adding an event draws one id, unless it fails before and leaves the store alone. -/
lemma drawn_addEvent (around : Surroundings) (s : Store) (name code : Json)
    (position : Option Position) :
    (s.addEvent around name code position).store.drawn = s.drawn + 1 ∨
      (s.addEvent around name code position).store = s := by
  rcases s.addEvent_cases around name code position with
    ⟨e, hrun⟩ | ⟨e, hrun⟩ | ⟨name', code', e, log, -, hrun⟩
  · exact .inr (by rw [hrun]; rfl)
  · exact .inl (by rw [hrun]; rfl)
  · exact .inl (by rw [hrun, drawn_commit])

/-- Only adding an event draws ids. -/
theorem drawn_run (around : Surroundings) (s : Store) {op : Operation}
    (h : ∀ name code position, op ≠ .addEvent name code position) :
    (s.run around op).store.drawn = s.drawn := by
  cases op with
  | addEvent name code position => exact absurd rfl (h name code position)
  | load =>
    unfold run
    rw [load_eq]
    cases s.slotDocument <;> rfl
  | save d => exact s.drawn_commit _ _ _
  | replace d => exact s.drawn_commit _ _ _
  | newPipeline config => exact s.drawn_commit _ _ _
  | rename id name =>
    refine drawn_withNode fun pk n => ?_
    split
    · rfl
    · exact s.drawn_commitEdit _ _ _ _
  | recode id code =>
    refine drawn_withNode fun pk n => ?_
    split
    · exact s.drawn_commitEdit _ _ _ _
    · rfl
  | move id position => exact drawn_withNode fun pk n => s.drawn_commitEdit _ _ _ _
  | remove ids =>
    unfold run remove
    dsimp only
    split
    · exact s.drawn_commit _ _ _
    · rfl
  | connect source target =>
    exact drawn_withNode fun pk n => drawn_withNode fun pk' n' => s.drawn_commit _ _ _
  | disconnect id =>
    unfold run disconnect
    dsimp only
    split
    · split
      · rfl
      · exact s.drawn_commit _ _ _
    · rfl
  | importJson source => exact s.drawn_importLoaded _
  | importBytes bytes => exact s.drawn_importLoaded _
  | importPointy text strict =>
    unfold run importPointy
    dsimp only
    split
    · rfl
    · split
      · rfl
      · exact s.drawn_commit _ _ _
    · rfl
  | exportJson _ | exportPointy | exportFileName _ | config =>
    rw [s.run_store_of_isMutating_eq_false around rfl (by simp) (by simp)]
  | close => rfl

end Store

end EventPipeline
