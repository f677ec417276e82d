import EventPipeline.Proofs.Document.Independent
import EventPipeline.Proofs.Store.Undone

/-!
# Operations that are independent

Editing an event makes no difference to what another operation does that leaves the event alone: to
an edit of another event or of another thing about it, to a connection that is made or removed, to
the removal of other events. In either order such operations leave the same document and the same
payload, and each of them fails for the same cause or succeeds. Removing events in several steps is
removing them in one, and an edit changes one thing about one node (`run_independent`). Nothing is
asked of the document, in which ids may be repeated.

An operation is described by its effect on documents: when it refuses a document, and which one it
writes otherwise. As long as the backend takes writes, the store shows no more than the effect
(`Operation.HasEffect.shows`), so operations are independent when their effects are
(`interchange_of_commutes`). A document that cannot be written makes no difference, since none of
these operations changes the configuration.
-/

namespace EventPipeline

/-! ## Outcomes -/

namespace Outcome

/-- The cause of a failure, if there was one. -/
def failure? (o : Outcome) : Option StoreError :=
  match o.result with
  | .ok _ => none
  | .error e => some e

/-- The backend did not fail. -/
def BackendHeld (o : Outcome) : Prop :=
  ∀ e, o.result ≠ .error (.backend e)

end Outcome

/-! ## Effects -/

/-- What an operation makes of documents. -/
structure Effect where
  /-- Why a document is refused, if it is. -/
  refusal? : Document → Option StoreError
  /-- The document that is written in the place of one that is not refused. -/
  document : Document → Document

namespace Effect

/-- Why an operation fails on a document although the backend holds, if it does. -/
def failure? (a : Effect) (d : Document) : Option StoreError :=
  (a.refusal? d).or (if d.isWritable then none else some .unwritable)

/-- Two effects that make no difference to one another. -/
structure Commutes (a b : Effect) : Prop where
  /-- The first one refuses a document alike before and after the second one. -/
  refusal?_left : ∀ d, a.refusal? (b.document d) = a.refusal? d
  /-- The second one refuses a document alike before and after the first one. -/
  refusal?_right : ∀ d, b.refusal? (a.document d) = b.refusal? d
  /-- In either order they give the same document. -/
  document : ∀ d, b.document (a.document d) = a.document (b.document d)

/-- Why a document is refused in which an event is looked for, if it is not found. -/
def missing? (d : Document) (id : Text) : Option StoreError :=
  if (d.node? id).isSome then none else some (.noEvent (.text id))

/-- A document that is not refused has a node of the id. -/
lemma exists_node? {d : Document} {id : Text} (h : missing? d id = none) :
    ∃ n, d.node? id = some n := by
  unfold missing? at h
  split at h
  · exact Option.isSome_iff_exists.1 ‹_›
  · contradiction

/-- Documents whose nodes have the same ids are refused alike. -/
lemma missing?_congr {d d' : Document} {id : Text} (h : id ∈ d.nodeIds ↔ id ∈ d'.nodeIds) :
    missing? d id = missing? d' id := by
  have hfound : (d.node? id).isSome = (d'.node? id).isSome := by
    rw [Bool.eq_iff_iff, Document.isSome_node?_iff, Document.isSome_node?_iff]
    exact h
  rw [missing?, missing?, hfound]

/-- Connecting two events adds a connection, once both are found. -/
def connect (source target : Text) : Effect where
  refusal? d := (missing? d source).or (missing? d target)
  document d := d.addConnection (d.newConnection source target)

/-- Removing a connection takes away all of its id, once there is one. -/
def disconnect (id : Text) : Effect where
  refusal? d := if (d.connection? id).isSome then none else some (.noConnection (.text id))
  document d := d.removeConnection id

/-- Removing events refuses nothing. -/
def remove (ids : List Text) : Effect where
  refusal? _ := none
  document d := d.removeEvents ids

end Effect

namespace NodeEdit

/-- The operation that edits the first node of an id. -/
def operation (id : Text) : NodeEdit → Operation
  | rename name => .rename (.text id) name.toJson
  | recode code => .recode (.text id) (.text code)
  | move position => .move (.text id) position

/-- What is reported when a node is edited. -/
def log (n : Node) : NodeEdit → Log
  | rename name => Store.nameLog name
  | recode code => Store.codeLog n.event.name (Lint.warnings code)
  | move _ => []

/-- What the edit of a node gives back. -/
def reply (n : Node) : NodeEdit → Reply
  | rename name => .event { n.event with name := name }
  | recode code => .remarks (Lint.warnings code)
  | move _ => .done

/-- Editing a node changes it, once it is found. -/
def effect (id : Text) (e : NodeEdit) : Effect where
  refusal? d := Effect.missing? d id
  document d := d.editNode id e

/-- Editing a node makes no difference to which events are found. -/
lemma missing?_editNode (e : NodeEdit) (d : Document) (id id' : Text) :
    Effect.missing? (d.editNode id e) id' = Effect.missing? d id' :=
  Effect.missing?_congr (by rw [Document.nodeIds_editNode])

/-- Edits of different nodes, or of different things about them, make no difference to one
another. -/
lemma effect_commutes {e e' : NodeEdit} {id id' : Text} (h : id ≠ id' ∨ e.aspect ≠ e'.aspect) :
    (e.effect id).Commutes (e'.effect id') :=
  ⟨fun d => e'.missing?_editNode d id' id, fun d => e.missing?_editNode d id id',
    fun d => (d.editNode_comm h).symm⟩

/-- An edit and a new connection make no difference to one another. -/
lemma effect_commutes_connect (e : NodeEdit) (id source target : Text) :
    (e.effect id).Commutes (.connect source target) := by
  refine ⟨fun d => rfl, fun d => ?_, fun d => rfl⟩
  simp only [effect, Effect.connect, missing?_editNode]

/-- An edit and the removal of a connection make no difference to one another. -/
lemma effect_commutes_disconnect (e : NodeEdit) (id id' : Text) :
    (e.effect id).Commutes (.disconnect id') :=
  ⟨fun _ => rfl, fun _ => rfl, fun _ => rfl⟩

/-- An edit and the removal of other events make no difference to one another. -/
lemma effect_commutes_remove (e : NodeEdit) {id : Text} {ids : List Text} (h : id ∉ ids) :
    (e.effect id).Commutes (.remove ids) := by
  refine ⟨fun d => ?_, fun d => rfl, fun d => d.removeEvents_editNode h e⟩
  exact Effect.missing?_congr (d.mem_nodeIds_removeEvents h)

end NodeEdit

/-- An operation has an effect when it fails as the effect refuses, commits the document of the
effect otherwise, and leaves the configuration alone. -/
structure Operation.HasEffect (around : Surroundings) (op : Operation) (a : Effect) : Prop where
  /-- The operation fails on a document that is refused. -/
  refused : ∀ (s : Store) e, a.refusal? s.document = some e → s.run around op = s.fail e
  /-- The operation commits a document in the place of one that is not. -/
  committed : ∀ s : Store, a.refusal? s.document = none →
    ∃ log r, s.run around op = s.commit log (a.document s.document) r
  /-- The configuration stays. -/
  config : ∀ d, (a.document d).config = d.config

namespace Store

variable {around : Surroundings} {s : Store}

/-! ## Effects of operations -/

/-- What is done for the node of an id fails if there is none, and is done for the first one
otherwise. -/
lemma withNode_missing? (s : Store) (id : Text) (f : Text → Node → Outcome) :
    (Effect.missing? s.document id = some (.noEvent (.text id)) ∧
      s.withNode (.text id) f = s.fail (.noEvent (.text id))) ∨
    (Effect.missing? s.document id = none ∧
      ∃ n, s.document.node? id = some n ∧ s.withNode (.text id) f = f id n) := by
  rw [withNode, Effect.missing?]
  cases s.document.node? id with
  | none => exact .inl ⟨rfl, rfl⟩
  | some n => exact .inr ⟨rfl, n, rfl, rfl⟩

/-- An edit of an event goes on with the first node of its id, and commits the edited document. -/
lemma run_edit (around : Surroundings) (s : Store) (id : Text) (e : NodeEdit) :
    s.run around (e.operation id) = s.withNode (.text id) fun pk n =>
      s.commitEdit (.text id) (e.log n) (s.document.updateNode? pk e.apply) (e.reply n) := by
  cases e with
  | rename name =>
    rw [NodeEdit.operation, run, rename, EventName.ofJson?_toJson]
    rfl
  | recode code => rfl
  | move position => rfl

/-- An edit of a node that there is commits the edited document. -/
lemma run_edit_of_node? (around : Surroundings) {id : Text} {n : Node}
    (h : s.document.node? id = some n) (e : NodeEdit) : s.run around (e.operation id) =
      s.commit (e.log n) (s.document.editNode id e) (e.reply n) := by
  obtain ⟨-, -, -, -, hedited, -⟩ := Document.editNode_eq h e
  rw [run_edit, withNode, h]
  dsimp only
  rw [hedited, commitEdit]

/-- An edit of an event edits the first node of its id. -/
lemma hasEffect_edit (around : Surroundings) (id : Text) (e : NodeEdit) :
    (e.operation id).HasEffect around (e.effect id) := by
  refine ⟨fun s cause hrefused => ?_, fun s hfound => ?_, fun d => rfl⟩
  · rw [run_edit]
    rcases s.withNode_missing? id _ with ⟨hmissing, hnode⟩ | ⟨hmissing, -⟩
    · rw [hnode, Option.some.inj (hmissing.symm.trans hrefused)]
    · exact absurd (hmissing.symm.trans hrefused) (by simp)
  · obtain ⟨n, hn⟩ := Effect.exists_node? hfound
    exact ⟨_, _, run_edit_of_node? around hn e⟩

/-- Connecting two events has the effect of adding a connection. -/
lemma hasEffect_connect (around : Surroundings) (source target : Text) :
    (Operation.connect (.text source) (.text target)).HasEffect around
      (.connect source target) := by
  refine ⟨fun s cause hrefused => ?_, fun s hfound => ?_, fun d => rfl⟩
  · dsimp only [Effect.connect] at hrefused
    rw [run, connect]
    rcases s.withNode_missing? source _ with ⟨hmissing, hnode⟩ | ⟨hmissing, n, -, hnode⟩
    · rw [hmissing, Option.some_or] at hrefused
      rw [hnode, Option.some.inj hrefused]
    rw [hmissing, Option.none_or] at hrefused
    rw [hnode]
    rcases s.withNode_missing? target _ with ⟨hmissing', hnode'⟩ | ⟨hmissing', -⟩
    · rw [hnode', Option.some.inj (hmissing'.symm.trans hrefused)]
    · exact absurd (hmissing'.symm.trans hrefused) (by simp)
  · obtain ⟨hsource, htarget⟩ := Option.or_eq_none_iff.1 hfound
    rw [run, connect]
    rcases s.withNode_missing? source _ with ⟨hmissing, -⟩ | ⟨-, n, -, hnode⟩
    · exact absurd (hmissing.symm.trans hsource) (by simp)
    rw [hnode]
    rcases s.withNode_missing? target _ with ⟨hmissing, -⟩ | ⟨-, n', -, hnode'⟩
    · exact absurd (hmissing.symm.trans htarget) (by simp)
    exact ⟨_, _, hnode'⟩

/-- Removing a connection has the effect of taking it away. -/
lemma hasEffect_disconnect (around : Surroundings) (id : Text) :
    (Operation.disconnect (.text id)).HasEffect around (.disconnect id) := by
  refine ⟨fun s cause hrefused => ?_, fun s hfound => ?_, fun d => rfl⟩
  · dsimp only [Effect.disconnect] at hrefused
    split at hrefused
    · contradiction
    · rename_i hmissing
      rw [← Option.some.inj hrefused]
      have hnone : (s.document.connection? id).isNone = true := by
        rwa [Option.not_isSome_iff_eq_none, ← Option.isNone_iff_eq_none] at hmissing
      exact if_pos hnone
  · dsimp only [Effect.disconnect] at hfound
    split at hfound
    · rename_i hsome
      exact ⟨[], .done, disconnect_eq hsome⟩
    · contradiction

/-- Removing events commits the document without them. -/
lemma run_remove (around : Surroundings) (s : Store) (ids : List Text) :
    s.run around (.remove (ids.map .text)) = s.commit [] (s.document.removeEvents ids) .done := by
  have hatoms : (ids.map Json.text).all Json.isAtom = true := by
    simp [Json.isAtom]
  have htexts : (ids.map Json.text).filterMap Json.text? = ids := by
    rw [List.filterMap_map]
    exact List.filterMap_some
  have hrun : s.run around (.remove (ids.map .text)) =
      s.commit [] (s.document.removeEvents ((ids.map Json.text).filterMap Json.text?)) .done :=
    if_pos hatoms
  rw [hrun, htexts]

/-- Removing events has the effect of taking them away. -/
lemma hasEffect_remove (around : Surroundings) (ids : List Text) :
    (Operation.remove (ids.map .text)).HasEffect around (.remove ids) :=
  ⟨fun _ _ hrefused => by contradiction, fun s _ => ⟨[], .done, run_remove around s ids⟩,
    fun _ => rfl⟩

/-! ## Operations of which the backend takes the writes -/

/-- Two stores of which a reader sees the same. -/
structure LooksLike (s t : Store) : Prop where
  /-- The key is the same. -/
  key : s.key = t.key
  /-- The document is the same. -/
  document : s.document = t.document
  /-- The payload under the key is the same. -/
  payload : s.medium.read s.key = t.medium.read t.key

/-- A store looks like itself. -/
lemma LooksLike.refl (s : Store) : s.LooksLike s :=
  ⟨rfl, rfl, rfl⟩

/-- A store whose document was written: the payload under its key is the text of the document. -/
def HasWritten (s : Store) : Prop :=
  ∃ payload, s.document.write? .inline = some payload ∧
    s.medium.read s.key = .ok (.text payload)

/-- Stores that have written the same document under the same key look alike. -/
lemma HasWritten.looksLike {t : Store} (hs : s.HasWritten) (ht : t.HasWritten)
    (hkey : s.key = t.key) (h : s.document = t.document) : s.LooksLike t := by
  obtain ⟨payload, hpayload, hread⟩ := hs
  obtain ⟨payload', hpayload', hread'⟩ := ht
  rw [h, hpayload'] at hpayload
  obtain rfl := Option.some.inj hpayload
  exact ⟨hkey, h, hread.trans hread'.symm⟩

end Store

/-- An outcome that shows an effect: it fails as the effect does with the store as it was, or has
written the document of the effect. -/
structure Outcome.Shows (o : Outcome) (a : Effect) (s : Store) : Prop where
  /-- The cause of the failure, if there is one, is that of the effect. -/
  failure : o.failure? = a.failure? s.document
  /-- The key stays. -/
  key : o.store.key = s.key
  /-- A failure leaves the store as it was. -/
  failed : ∀ e, a.failure? s.document = some e → o.store = s
  /-- A success writes the document of the effect. -/
  done : a.failure? s.document = none →
    o.store.document = a.document s.document ∧ o.store.HasWritten

namespace Store

variable {around : Surroundings} {s : Store}

/-- Committing a document leaves the key as it is. -/
lemma key_commit (s : Store) (log : Log) (d : Document) (r : Reply) :
    (s.commit log d r).store.key = s.key := by
  rcases s.commit_cases log d r with hcommit | ⟨payload, medium, writeLog, -,
    ⟨e, -, hcommit⟩ | ⟨-, hcommit⟩⟩ <;> rw [hcommit]

/-- A document that cannot be written is not committed. -/
lemma commit_of_unwritable {d : Document} (h : d.isWritable = false) (log : Log) (r : Reply) :
    s.commit log d r = ⟨s, log, .error .unwritable⟩ := by
  rw [commit, Document.write?, h]
  rfl

/-- A document that can be written is written and becomes current, unless the backend fails. -/
lemma commit_of_writable {d : Document} (h : d.isWritable = true) {log : Log} {r : Reply}
    (hheld : (s.commit log d r).BackendHeld) :
    (s.commit log d r).result = .ok r ∧ (s.commit log d r).store.document = d ∧
      (s.commit log d r).store.HasWritten := by
  have hresult := result_commit h hheld
  obtain ⟨hkey, hdocument, -⟩ := (commit_of_ok hresult).2
  obtain ⟨payload, hpayload, hwritten⟩ := (s.writeThrough_commit log d r).done r hresult
  refine ⟨hresult, hdocument, payload, hpayload, ?_⟩
  rw [hkey]
  exact hwritten.read

end Store

/-- An operation shows its effect as long as the backend takes its write. -/
lemma Operation.HasEffect.shows {around : Surroundings} {op : Operation} {a : Effect}
    (h : op.HasEffect around a) {s : Store} (hheld : (s.run around op).BackendHeld) :
    (s.run around op).Shows a s := by
  have hwritable : (a.document s.document).isWritable = s.document.isWritable :=
    Document.isWritable_congr (h.config s.document)
  cases hrefusal : a.refusal? s.document with
  | some e =>
    have hfailure : a.failure? s.document = some e := by
      rw [Effect.failure?, hrefusal, Option.some_or]
    rw [h.refused s e hrefusal]
    exact ⟨hfailure.symm, rfl, fun _ _ => rfl, fun hnone => absurd hnone (by simp [hfailure])⟩
  | none =>
    have hfailure : a.failure? s.document =
        if s.document.isWritable then none else some .unwritable := by
      rw [Effect.failure?, hrefusal, Option.none_or]
    obtain ⟨log, r, hrun⟩ := h.committed s hrefusal
    rw [hrun] at hheld ⊢
    cases hd : s.document.isWritable with
    | false =>
      rw [hd] at hfailure hwritable
      rw [Store.commit_of_unwritable hwritable]
      exact ⟨hfailure.symm, rfl, fun _ _ => rfl, fun hnone => absurd hnone (by simp [hfailure])⟩
    | true =>
      rw [hd] at hfailure hwritable
      obtain ⟨hresult, hdone⟩ := Store.commit_of_writable hwritable hheld
      refine ⟨?_, Store.key_commit _ _ _ _, fun e he => absurd he (by simp [hfailure]),
        fun _ => hdone⟩
      rw [Outcome.failure?, hresult, hfailure]
      rfl

namespace Store

variable {around : Surroundings} {s : Store} {op op' : Operation} {a b : Effect}

/-- Two operations of a store that can change places: in either order they leave the same to see,
and each of them fails for the same cause or succeeds. -/
structure Interchange (around : Surroundings) (s : Store) (op op' : Operation) : Prop where
  /-- In either order the same is left. -/
  looksLike : ((s.run around op).store.run around op').store.LooksLike
    ((s.run around op').store.run around op).store
  /-- The first operation fails as it does behind the second one. -/
  failure_left : (s.run around op).failure? = ((s.run around op').store.run around op).failure?
  /-- The second operation fails as it does behind the first one. -/
  failure_right : (s.run around op').failure? = ((s.run around op).store.run around op').failure?

/-- An effect fails alike behind an operation whose effect makes no difference to it. -/
lemma failure?_behind (ha : op.HasEffect around a) (hheld : (s.run around op).BackendHeld)
    (hb : ∀ d, b.refusal? (a.document d) = b.refusal? d) :
    b.failure? (s.run around op).store.document = b.failure? s.document := by
  have hshows := ha.shows hheld
  cases hfailure : a.failure? s.document with
  | some e => rw [hshows.failed e hfailure]
  | none =>
    rw [(hshows.done hfailure).1, Effect.failure?, Effect.failure?, hb,
      Document.isWritable_congr (ha.config s.document)]

/-- Operations whose effects make no difference to one another can change places, as long as the
backend takes their writes. -/
lemma interchange_of_commutes (ha : op.HasEffect around a) (hb : op'.HasEffect around b)
    (h : a.Commutes b) (hheld : (s.run around op).BackendHeld)
    (hheld' : (s.run around op').BackendHeld)
    (hthen : ((s.run around op).store.run around op').BackendHeld)
    (hthen' : ((s.run around op').store.run around op).BackendHeld) :
    s.Interchange around op op' := by
  have hleft := failure?_behind hb hheld' h.refusal?_left
  have hright := failure?_behind ha hheld h.refusal?_right
  have hfirst := ha.shows hheld
  have hsecond := hb.shows hheld'
  have hlast := hb.shows hthen
  have hlast' := ha.shows hthen'
  refine ⟨?_, ?_, ?_⟩
  · cases hfailure : a.failure? s.document with
    | some e =>
      -- The first operation fails in either order, so the second one is the only one.
      rw [hlast'.failed e (hleft.trans hfailure), hfirst.failed e hfailure]
      exact .refl _
    | none =>
      cases hfailure' : b.failure? s.document with
      | some e =>
        rw [hlast.failed e (hright.trans hfailure'), hsecond.failed e hfailure']
        exact .refl _
      | none =>
        obtain ⟨hdocument, hwritten⟩ := hlast.done (hright.trans hfailure')
        obtain ⟨hdocument', hwritten'⟩ := hlast'.done (hleft.trans hfailure)
        apply hwritten.looksLike hwritten'
        · rw [hlast.key, hlast'.key, hfirst.key, hsecond.key]
        · rw [hdocument, hdocument', (hfirst.done hfailure).1, (hsecond.done hfailure').1]
          exact h.document s.document
  · rw [hfirst.failure, hlast'.failure, hleft]
  · rw [hsecond.failure, hlast.failure, hright]

/-! ## Removals -/

/-- Two removals of a store that are one: they leave the same to see, and each of the three fails
for the same cause or succeeds. -/
structure RemovesTogether (around : Surroundings) (s : Store) (ids ids' both : List Text) :
    Prop where
  /-- The two removals leave the same as the one. -/
  looksLike : ((s.run around (.remove (ids.map .text))).store.run around
    (.remove (ids'.map .text))).store.LooksLike (s.run around (.remove (both.map .text))).store
  /-- The first one fails as the one does. -/
  failure_first : (s.run around (.remove (ids.map .text))).failure? =
    (s.run around (.remove (both.map .text))).failure?
  /-- The second one fails as the one does. -/
  failure_second : ((s.run around (.remove (ids.map .text))).store.run around
    (.remove (ids'.map .text))).failure? = (s.run around (.remove (both.map .text))).failure?

/-- Removing some events and then others is removing all of them, as long as the backend takes the
writes. -/
lemma removesTogether {ids ids' both : List Text} (h : ∀ id, id ∈ both ↔ id ∈ ids ∨ id ∈ ids')
    (hheld : (s.run around (.remove (ids.map .text))).BackendHeld)
    (hthen : ((s.run around (.remove (ids.map .text))).store.run around
      (.remove (ids'.map .text))).BackendHeld)
    (hboth : (s.run around (.remove (both.map .text))).BackendHeld) :
    s.RemovesTogether around ids ids' both := by
  have heffect := hasEffect_remove around ids
  have hfirst := heffect.shows hheld
  have hlast := (hasEffect_remove around ids').shows hthen
  have hone := (hasEffect_remove around both).shows hboth
  have halike : (Effect.remove ids).failure? s.document = (Effect.remove both).failure? s.document :=
    rfl
  have hbehind : (Effect.remove ids').failure?
      (s.run around (.remove (ids.map .text))).store.document =
      (Effect.remove both).failure? s.document :=
    failure?_behind heffect hheld fun _ => rfl
  refine ⟨?_, ?_, ?_⟩
  · cases hfailure : (Effect.remove both).failure? s.document with
    | some e =>
      rw [hlast.failed e (hbehind.trans hfailure), hfirst.failed e (halike.trans hfailure),
        hone.failed e hfailure]
      exact .refl s
    | none =>
      obtain ⟨hdocument, hwritten⟩ := hlast.done (hbehind.trans hfailure)
      obtain ⟨hdocument', hwritten'⟩ := hone.done hfailure
      apply hwritten.looksLike hwritten'
      · rw [hlast.key, hfirst.key, hone.key]
      · rw [hdocument, hdocument', (hfirst.done (halike.trans hfailure)).1]
        exact s.document.removeEvents_removeEvents h
  · rw [hfirst.failure, hone.failure, halike]
  · rw [hlast.failure, hone.failure, hbehind]

/-! ## Edits -/

/-- An operation of a store that edits the first node of an id, and nothing else. -/
structure EditsFirst (around : Surroundings) (s : Store) (id : Text) (e : NodeEdit) : Prop where
  /-- Without such a node the operation fails, and leaves the store as it was. -/
  missing : s.document.node? id = none →
    s.run around (e.operation id) = s.fail (.noEvent (.text id))
  /-- The first such node is edited where it stands, and all else is left as it was. -/
  found : ∀ n, s.document.node? id = some n → s.document.isWritable = true →
    (s.run around (e.operation id)).BackendHeld →
    (∃ r, (s.run around (e.operation id)).result = .ok r) ∧
    ∃ front back, s.document.nodes = front ++ n :: back ∧ (∀ m ∈ front, m.id ≠ id) ∧
      (s.run around (e.operation id)).store.document =
        { s.document with nodes := front ++ e.apply n :: back }

/-- The edits of an event are such operations. -/
lemma editsFirst (around : Surroundings) (s : Store) (id : Text) (e : NodeEdit) :
    s.EditsFirst around id e := by
  have heffect := hasEffect_edit around id e
  constructor
  · intro hnone
    apply heffect.refused
    show Effect.missing? s.document id = _
    rw [Effect.missing?, hnone]
    rfl
  · intro n hn hwritable hheld
    have hfound : (e.effect id).refusal? s.document = none := by
      show Effect.missing? s.document id = none
      rw [Effect.missing?, hn]
      rfl
    obtain ⟨log, r, hrun⟩ := heffect.committed s hfound
    obtain ⟨front, back, hnodes, hfront, -, hedited⟩ := Document.editNode_eq hn e
    rw [hrun] at hheld ⊢
    obtain ⟨hresult, hdocument, -⟩ := commit_of_writable
      ((Document.isWritable_congr (heffect.config s.document)).trans hwritable) hheld
    exact ⟨⟨r, hresult⟩, front, back, hnodes, hfront, hdocument.trans hedited⟩

end Store

/-- Operations that are independent: an edit of an event, and one that leaves alone what the edit
changes. -/
inductive Operation.Independent : Operation → Operation → Prop
  /-- Edits of different events, or of different things about one event. -/
  | edit {id id' : Text} {e e' : NodeEdit} (different : id ≠ id' ∨ e.aspect ≠ e'.aspect) :
      Independent (e.operation id) (e'.operation id')
  /-- An edit and a new connection, whichever. -/
  | connect (id : Text) (e : NodeEdit) (source target : Text) :
      Independent (e.operation id) (.connect (.text source) (.text target))
  /-- An edit and the removal of a connection, whichever. -/
  | disconnect (id : Text) (e : NodeEdit) (id' : Text) :
      Independent (e.operation id) (.disconnect (.text id'))
  /-- An edit and the removal of other events. -/
  | remove {id : Text} (e : NodeEdit) {ids : List Text} (kept : id ∉ ids) :
      Independent (e.operation id) (.remove (ids.map .text))

/-- Independent operations have effects that make no difference to one another. -/
lemma Operation.Independent.exists_effects {op op' : Operation} (h : op.Independent op')
    (around : Surroundings) :
    ∃ a b, op.HasEffect around a ∧ op'.HasEffect around b ∧ a.Commutes b := by
  cases h with
  | edit different =>
    exact ⟨_, _, Store.hasEffect_edit around _ _, Store.hasEffect_edit around _ _,
      NodeEdit.effect_commutes different⟩
  | connect id e source target =>
    exact ⟨_, _, Store.hasEffect_edit around _ _, Store.hasEffect_connect around _ _,
      e.effect_commutes_connect id source target⟩
  | disconnect id e id' =>
    exact ⟨_, _, Store.hasEffect_edit around _ _, Store.hasEffect_disconnect around _,
      e.effect_commutes_disconnect id id'⟩
  | remove e kept =>
    exact ⟨_, _, Store.hasEffect_edit around _ _, Store.hasEffect_remove around _,
      e.effect_commutes_remove kept⟩

namespace Store

/-- Independent operations can change places, whatever the document is: as long as the backend takes
the writes, in either order they leave the same document and the same payload, and each of them
fails for the same cause or succeeds. Removing some events and then others is removing all of them
at once. An edit fails without a node of its id, and otherwise changes one thing about the first
one, whereas the configuration, all other nodes and all connections stay. -/
theorem run_independent (around : Surroundings) (s : Store) :
    (∀ op op', op.Independent op' →
      (s.run around op).BackendHeld → (s.run around op').BackendHeld →
      ((s.run around op).store.run around op').BackendHeld →
      ((s.run around op').store.run around op).BackendHeld →
      s.Interchange around op op') ∧
    (∀ ids ids' both : List Text, (∀ id, id ∈ both ↔ id ∈ ids ∨ id ∈ ids') →
      (s.run around (.remove (ids.map .text))).BackendHeld →
      ((s.run around (.remove (ids.map .text))).store.run around
        (.remove (ids'.map .text))).BackendHeld →
      (s.run around (.remove (both.map .text))).BackendHeld →
      s.RemovesTogether around ids ids' both) ∧
    ∀ id e, s.EditsFirst around id e := by
  refine ⟨fun op op' h hheld hheld' hthen hthen' => ?_, fun _ _ _ h => removesTogether h,
    fun id e => s.editsFirst around id e⟩
  obtain ⟨a, b, ha, hb, hcommutes⟩ := h.exists_effects around
  exact interchange_of_commutes ha hb hcommutes hheld hheld' hthen hthen'

/-- In the crafted document an event gets another name and other code in either order, an event is
put nowhere before or after another one is removed, and two events are removed one by one; of the
two nodes of one id the first one is edited. -/
theorem run_independent_crafted :
    crafted.Interchange unvaried (.rename (.text ['a']) (.text ['z']))
      (.recode (.text ['a']) (.text ['c'])) ∧
    crafted.Interchange unvaried (.move (.text ['a']) none) (.remove [.text ['b']]) ∧
    crafted.RemovesTogether unvaried [['a']] [['b']] [['b'], ['a']] ∧
    ∃ front back, front ++ Node.ofEvent ⟨['a'], .given ['x'], []⟩ .origin :: back =
        crafted.document.nodes ∧
      (crafted.run unvaried (.rename (.text ['a']) (.text ['z']))).store.document =
        { crafted.document with
          nodes := front ++ Node.ofEvent ⟨['a'], .given ['z'], []⟩ .origin :: back } := by
  obtain ⟨hindependent, hremoves, hedits⟩ := run_independent unvaried crafted
  have haspects : Operation.Independent (.rename (.text ['a']) (.text ['z']))
      (.recode (.text ['a']) (.text ['c'])) :=
    @Operation.Independent.edit _ _ (.rename (.given ['z'])) (.recode ['c']) (.inr nofun)
  have hkept : Operation.Independent (.move (.text ['a']) none) (.remove [.text ['b']]) :=
    @Operation.Independent.remove ['a'] (.move none) [['b']] (by decide)
  have hids : ∀ id : Text, id ∈ [['b'], ['a']] ↔ id ∈ [['a']] ∨ id ∈ [['b']] := by
    intro id
    simp only [List.mem_cons, List.not_mem_nil, or_false]
    exact or_comm
  refine ⟨?_, ?_, ?_, ?_⟩
  · exact hindependent _ _ haspects (fun e => nofun) (fun e => nofun) (fun e => nofun)
      fun e => nofun
  · exact hindependent _ _ hkept (fun e => nofun) (fun e => nofun) (fun e => nofun) fun e => nofun
  · exact hremoves _ _ _ hids (fun e => nofun) (fun e => nofun) fun e => nofun
  · obtain ⟨-, front, back, hnodes, -, hdocument⟩ :=
      (hedits ['a'] (.rename (.given ['z']))).found _ rfl rfl fun e => nofun
    exact ⟨front, back, hnodes.symm, hdocument⟩

end Store

end EventPipeline
