import EventPipeline.Proofs.Document.Objects
import EventPipeline.Proofs.Store.Independent

/-!
# Stores whose documents are made of objects

An operation that changes a document works on a copy of its objects, which refer to one another as
the ones copied do, and assigns to what it finds there. The copy takes the place of the document
once it is written.

Where no two nodes refer to one event, such a store shows what a store of values does, operation by
operation (`shown_run`) and throughout a run (`shown_runAll`). So independent operations can change
places there (`looksLike_of_independent`). Where nodes share an event they cannot: edits of
different nodes are edits of one event, of which the last one counts (`not_forall_looksLike`).
-/

namespace EventPipeline

/-- A store that holds its document as objects. -/
structure ObjectStore (N E : Type) where
  /-- The key of the slot. -/
  key : Json
  /-- The objects of the current document. -/
  objects : DocumentObjects N E
  /-- Where the slot is. -/
  medium : Medium
  /-- How many ids for new events were drawn so far. -/
  drawn : Nat

/-- The outcome of an operation of such a store. -/
structure ObjectOutcome (N E : Type) where
  /-- The store after it. -/
  store : ObjectStore N E
  /-- What was reported. -/
  log : Log
  /-- The reply, or why it failed. -/
  result : Except StoreError Reply

/-- An operation that changes nodes or connections, which it finds by ids. -/
inductive Change
  /-- Edit the first node of an id. -/
  | edit (id : Text) (e : NodeEdit)
  /-- Remove events and their connections. -/
  | remove (ids : List Text)
  /-- Connect two events. -/
  | connect (source target : Text)
  /-- Remove a connection. -/
  | disconnect (id : Text)

/-- The operation of a store. -/
def Change.operation : Change → Operation
  | edit id e => e.operation id
  | remove ids => .remove (ids.map .text)
  | connect source target => .connect (.text source) (.text target)
  | disconnect id => .disconnect (.text id)

namespace ObjectStore

variable {N E : Type}

/-- The store that objects show. -/
def shown (s : ObjectStore N E) : Store where
  key := s.key
  document := s.objects.shown
  medium := s.medium
  drawn := s.drawn

end ObjectStore

/-- The outcome that objects show. -/
def ObjectOutcome.shown {N E : Type} (o : ObjectOutcome N E) : Outcome where
  store := o.store.shown
  log := o.log
  result := o.result

namespace ObjectStore

variable {N E : Type}

/-! ## Operations on objects -/

/-- The store is as it was and the operation failed. -/
def fail (s : ObjectStore N E) (e : StoreError) : ObjectOutcome N E :=
  ⟨s, [], .error e⟩

/-- Writes what objects show to the slot, and makes them current if that succeeds. -/
def commit (s : ObjectStore N E) (log : Log) (o : DocumentObjects N E) (r : Reply) :
    ObjectOutcome N E :=
  match o.shown.write? .inline with
  | none => ⟨s, log, .error .unwritable⟩
  | some payload =>
    let (medium, writeLog, result) := s.medium.write s.key (.text payload)
    match result with
    | .error e => ⟨{ s with medium := medium }, log ++ writeLog, .error (.backend e)⟩
    | .ok () => ⟨{ s with medium := medium, objects := o }, log ++ writeLog, .ok r⟩

/-- Goes on with the first node object of an id, or fails because there is none. -/
def withNode (s : ObjectStore N E) (id : Text) (f : N → ObjectOutcome N E) : ObjectOutcome N E :=
  match s.objects.node? id with
  | none => s.fail (.noEvent (.text id))
  | some n => f n

/-- The outcome of an operation on objects. -/
def run [DecidableEq N] [DecidableEq E] (s : ObjectStore N E) : Change → ObjectOutcome N E
  | .edit id e => s.withNode id fun n =>
    s.commit (e.log (s.objects.value n)) (s.objects.assign n e) (e.reply (s.objects.value n))
  | .remove ids => s.commit [] (s.objects.remove ids) .done
  | .connect source target => s.withNode source fun _ => s.withNode target fun _ =>
    let c := s.objects.shown.newConnection source target
    s.commit [] (s.objects.withEdges (s.objects.edges ++ [c])) (.connection c)
  | .disconnect id =>
    if (s.objects.shown.connection? id).isNone then s.fail (.noConnection (.text id))
    else s.commit [] (s.objects.withEdges (s.objects.edges.filter fun c => c.id ≠ id)) .done

/-! ## What operations show -/

variable {s : ObjectStore N E}

/-- Committing objects makes them current or keeps those that were. -/
lemma objects_commit (s : ObjectStore N E) (log : Log) (o : DocumentObjects N E) (r : Reply) :
    (s.commit log o r).store.objects = s.objects ∨ (s.commit log o r).store.objects = o := by
  unfold commit
  cases o.shown.write? .inline with
  | none => exact .inl rfl
  | some payload =>
    dsimp only
    obtain ⟨medium, writeLog, _ | _⟩ := s.medium.write s.key (.text payload)
    · exact .inl rfl
    · exact .inr rfl

/-- What is done for a node object happens, or the store fails as it was. -/
lemma withNode_cases (s : ObjectStore N E) (id : Text) (f : N → ObjectOutcome N E) :
    (∃ n, s.withNode id f = f n) ∨ (s.withNode id f).store = s := by
  rw [withNode]
  cases s.objects.node? id with
  | none => exact .inr rfl
  | some n => exact .inl ⟨n, rfl⟩

/-- Committing objects shows as committing the document that they show. -/
lemma shown_commit (s : ObjectStore N E) (log : Log) (o : DocumentObjects N E) (r : Reply) :
    (s.commit log o r).shown = s.shown.commit log o.shown r := by
  unfold commit Store.commit
  cases o.shown.write? .inline with
  | none => rfl
  | some payload =>
    dsimp only [shown]
    obtain ⟨medium, writeLog, result⟩ := s.medium.write s.key (.text payload)
    cases result <;> rfl

/-- What is done for the first node object of an id shows as what is done for its node. -/
lemma shown_withNode {id : Text} {f : N → ObjectOutcome N E} {g : Text → Node → Outcome}
    (h : ∀ n, s.objects.node? id = some n → (f n).shown = g id (s.objects.value n)) :
    (s.withNode id f).shown = s.shown.withNode (.text id) g := by
  have hfound : s.shown.document.node? id = (s.objects.node? id).map s.objects.value :=
    s.objects.node?_shown id
  rw [withNode, Store.withNode, hfound]
  cases hn : s.objects.node? id with
  | none => rfl
  | some n => exact h n hn

variable [DecidableEq N] [DecidableEq E]

/-- An operation on nodes that have events of their own shows as the operation on the document. -/
theorem shown_run (around : Surroundings) (h : s.objects.Unshared) (c : Change) :
    (s.run c).shown = s.shown.run around c.operation := by
  cases c with
  | edit id e =>
    rw [run, Change.operation, Store.run_edit]
    refine shown_withNode fun n hn => ?_
    have hnode : s.shown.document.node? id = some (s.objects.value n) := by
      rw [shown, DocumentObjects.node?_shown, hn, Option.map_some]
    obtain ⟨-, -, -, -, hedited, -⟩ := Document.editNode_eq hnode e
    rw [shown_commit, h.shown_assign hn, hedited]
    rfl
  | remove ids =>
    rw [run, Change.operation, Store.run_remove, shown_commit, DocumentObjects.shown_remove]
    rfl
  | connect source target =>
    rw [run, Change.operation, Store.run, Store.connect]
    refine shown_withNode fun _ _ => ?_
    refine shown_withNode fun _ _ => ?_
    exact shown_commit s _ _ _
  | disconnect id =>
    rw [run, Change.operation, Store.run, Store.disconnect]
    split
    · rename_i hmissing
      exact (if_pos hmissing).symm
    · rename_i hfound
      rw [shown_commit]
      exact (if_neg hfound).symm

/-- An operation commits objects whose events are not shared if they were not before, or leaves the
objects as they are. -/
theorem unshared_run (h : s.objects.Unshared) (c : Change) :
    (s.run c).store.objects.Unshared := by
  have hcommit : ∀ log (o : DocumentObjects N E) r, o.Unshared →
      (s.commit log o r).store.objects.Unshared := by
    intro log o r ho
    rcases s.objects_commit log o r with hkept | hnew
    · rw [hkept]
      exact h
    · rw [hnew]
      exact ho
  have hnode : ∀ id f, (∀ n, (f n).store.objects.Unshared) →
      (s.withNode id f).store.objects.Unshared := by
    intro id f hf
    rcases s.withNode_cases id f with ⟨n, hn⟩ | hfailed
    · rw [hn]
      exact hf n
    · rw [hfailed]
      exact h
  cases c with
  | edit id e => exact hnode id _ fun n => hcommit _ _ _ (h.assign n e)
  | remove ids => exact hcommit _ _ _ (h.remove ids)
  | connect source target =>
    exact hnode source _ fun _ => hnode target _ fun _ => hcommit _ _ _ h
  | disconnect id =>
    rw [run]
    split
    · exact h
    · exact hcommit _ _ _ h

/-- An operation behind another one shows as the one behind the other on the document. -/
lemma shown_run_run (around : Surroundings) (h : s.objects.Unshared) (c c' : Change) :
    ((s.run c).store.run c').shown =
      (s.shown.run around c.operation).store.run around c'.operation := by
  rw [shown_run around (unshared_run h c), ← shown_run around h c]
  rfl

/-- Operations that are independent can change places where no two nodes refer to one event. -/
theorem looksLike_of_independent (around : Surroundings) (h : s.objects.Unshared) {c c' : Change}
    (hindependent : c.operation.Independent c'.operation)
    (hheld : (s.run c).shown.BackendHeld) (hheld' : (s.run c').shown.BackendHeld)
    (hthen : ((s.run c).store.run c').shown.BackendHeld)
    (hthen' : ((s.run c').store.run c).shown.BackendHeld) :
    ((s.run c).store.run c').shown.store.LooksLike ((s.run c').store.run c).shown.store := by
  obtain ⟨a, b, ha, hb, hcommutes⟩ := hindependent.exists_effects around
  rw [shown_run around h] at hheld hheld'
  rw [shown_run_run around h] at hthen hthen'
  rw [shown_run_run around h, shown_run_run around h]
  exact (Store.interchange_of_commutes ha hb hcommutes hheld hheld' hthen hthen').looksLike

/-- The store after some operations. -/
def runAll (s : ObjectStore N E) (changes : List Change) : ObjectStore N E :=
  changes.foldl (fun s c => (s.run c).store) s

/-- Nodes that have events of their own have them throughout a run, which shows as the run of the
same operations on the document. -/
theorem shown_runAll (around : Surroundings) (h : s.objects.Unshared) (changes : List Change) :
    (s.runAll changes).objects.Unshared ∧ (s.runAll changes).shown =
      changes.foldl (fun t c => (t.run around c.operation).store) s.shown := by
  induction changes generalizing s with
  | nil => exact ⟨h, rfl⟩
  | cons c changes ih =>
    obtain ⟨hunshared, hrun⟩ := ih (unshared_run h c)
    refine ⟨hunshared, ?_⟩
    rw [List.foldl_cons, ← shown_run around h c]
    exact hrun

/-! ## Events that are shared -/

/-- A store of two nodes, of the ids `a` and `b`, that wrap one event. -/
def twins : ObjectStore Bool Unit where
  key := .text ['p']
  objects :=
    { config := some Config.empty
      nodes := [false, true]
      node := fun n => ⟨[if n then 'b' else 'a'], Node.eventKind, some .origin, ()⟩
      event := fun _ => ⟨['a'], .given ['x'], []⟩
      edges := [] }
  medium := ⟨.memory [], .empty, false⟩
  drawn := 0

/-- Where nodes share an event, edits of different nodes cannot change places, and an edit changes
other nodes than the one that it is of. -/
theorem not_forall_looksLike :
    (¬ ∀ (s : ObjectStore Bool Unit) (id id' : Text) (e e' : NodeEdit), id ≠ id' →
      (s.run (.edit id e)).shown.BackendHeld → (s.run (.edit id' e')).shown.BackendHeld →
      ((s.run (.edit id e)).store.run (.edit id' e')).shown.BackendHeld →
      ((s.run (.edit id' e')).store.run (.edit id e)).shown.BackendHeld →
      ((s.run (.edit id e)).store.run (.edit id' e')).shown.store.LooksLike
        ((s.run (.edit id' e')).store.run (.edit id e)).shown.store) ∧
    ¬ ∀ (s : ObjectStore Bool Unit) (id : Text) (e : NodeEdit),
      (s.run (.edit id e)).shown.BackendHeld → ∀ n ∈ s.objects.nodes,
        (s.objects.node n).id ≠ id →
          (s.run (.edit id e)).store.objects.value n = s.objects.value n := by
  refine ⟨fun hall => ?_, fun hall => ?_⟩
  · have halike := hall twins ['a'] ['b'] (.rename (.given ['y'])) (.rename (.given ['z']))
      (by decide) (fun e => nofun) (fun e => nofun) (fun e => nofun) fun e => nofun
    exact absurd halike.document (by decide +kernel)
  · have hkept := hall twins ['a'] (.rename (.given ['y'])) (fun e => nofun) true
      (by decide) (by decide)
    exact absurd hkept (by decide +kernel)

end ObjectStore

end EventPipeline
