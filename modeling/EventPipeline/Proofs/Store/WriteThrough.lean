import EventPipeline.Proofs.Store.Draft
import EventPipeline.Proofs.Store.Slot

/-!
# Operations of a store are all or nothing

An operation that fails leaves the current document and every slot as they were, wherever it failed:
when something was looked up, validated or written. The slot of the store is read as it was, too;
only an empty one may become unreadable, when a directory was made on the way. An operation that changes the document and
succeeds has written the new document to the slot of the store, and nothing else. Loading and
exporting change no slot (`run_allOrNothing`).

Every operation that changes the document fails before anything happened or commits a draft, so what
is shown here is a fact about `commit` alone.
-/

namespace EventPipeline

/-- An outcome of a store that changes everything or nothing: after a failure the document and the
slots are as they were, and after a success the slot of the store holds the text of the document. -/
structure Outcome.WriteThrough (s : Store) (o : Outcome) : Prop where
  /-- A failure changes neither the document nor a slot, nor what the slot of the store is read as. -/
  failed : ∀ e, o.result = .error e →
    o.store.document = s.document ∧ s.medium.SameSlots o.store.medium ∧
      s.medium.StillReads o.store.medium s.key
  /-- A success writes the document to the slot of the store and changes no other slot. -/
  done : ∀ r, o.result = .ok r → ∃ payload,
    o.store.document.write? .inline = some payload ∧
      s.medium.Written o.store.medium s.key payload

namespace Store

variable {s : Store}

/-! ## Committing -/

/-- The text of a document on one line is printable. -/
lemma isPrintable_of_write? {d : Document} {payload : Text} (h : d.write? .inline = some payload) :
    ∀ c ∈ payload, IsPrintable c := by
  unfold Document.write? at h
  split at h
  · rw [← Option.some.inj h]
    exact fun c hc => Json.isPrintable_of_mem_render hc
  · contradiction

/-- The text of a document on one line has no carriage return. -/
lemma return_not_mem_of_write? {d : Document} {payload : Text}
    (h : d.write? .inline = some payload) : '\r' ∉ payload :=
  fun hr => absurd (isPrintable_of_write? h _ hr) (by decide)

/-- Committing a document changes everything or nothing. -/
lemma writeThrough_commit (s : Store) (log : Log) (d : Document) (r : Reply) :
    (s.commit log d r).WriteThrough s := by
  rcases s.commit_cases log d r with hcommit | ⟨payload, medium, writeLog, hpayload,
    ⟨e, hwrite, hcommit⟩ | ⟨hwrite, hcommit⟩⟩
  · rw [hcommit]
    exact ⟨fun _ _ => ⟨rfl, s.medium.sameSlots_refl, s.medium.stillReads_refl s.key⟩,
      fun _ h => by contradiction⟩
  · rw [hcommit]
    exact ⟨fun _ _ => ⟨rfl, Medium.sameSlots_of_write hwrite, Medium.stillReads_of_write hwrite⟩,
      fun _ h => by contradiction⟩
  · have hwritten := Medium.written_of_write (return_not_mem_of_write? hpayload) hwrite
    rw [hcommit]
    exact ⟨fun _ h => by contradiction, fun _ _ => ⟨payload, hpayload, hwritten⟩⟩

end Store

/-- What only fails or commits changes everything or nothing. -/
lemma Outcome.Commits.writeThrough {s : Store} {P : Document → Prop} {o : Outcome}
    (h : o.Commits s P) : o.WriteThrough s := by
  cases h with
  | failed e agrees =>
    refine ⟨fun _ _ => ⟨agrees.document, ?_⟩, fun r hr => ?_⟩
    · rw [agrees.medium]
      exact ⟨s.medium.sameSlots_refl, s.medium.stillReads_refl s.key⟩
    · rw [agrees.result] at hr
      contradiction
  | committed d log r _ agrees =>
    have hcommit := s.writeThrough_commit log d r
    constructor
    · rw [agrees.result, agrees.document, agrees.medium]
      exact hcommit.failed
    · rw [agrees.result, agrees.document, agrees.medium]
      exact hcommit.done

namespace Store

/-! ## Operations -/

/-- Loading leaves the medium as it was, and changes the document only when it succeeds. -/
lemma load_spec (s : Store) :
    (∀ e, s.load.result = .error e → s.load.store.document = s.document) ∧
      s.load.store.medium = s.medium := by
  rw [load_eq]
  cases s.slotDocument with
  | error e => exact ⟨fun _ _ => rfl, rfl⟩
  | ok d => exact ⟨fun _ h => by contradiction, rfl⟩

/-- An operation that fails leaves the document and every slot as they were, and the slot of the
store is read as before unless it was empty and a directory was made. One that succeeds has written
the current document to the slot of the store and changed no other slot, if it changes the document,
and has changed no slot at all otherwise. -/
theorem run_allOrNothing (around : Surroundings) (s : Store) {op : Operation}
    (hclose : op ≠ .close) :
    (∀ e, (s.run around op).result = .error e →
      (s.run around op).store.document = s.document ∧
        s.medium.SameSlots (s.run around op).store.medium ∧
        s.medium.StillReads (s.run around op).store.medium s.key) ∧
    (∀ r, (s.run around op).result = .ok r →
      if op.isMutating then ∃ payload,
        (s.run around op).store.document.write? .inline = some payload ∧
          s.medium.Written (s.run around op).store.medium s.key payload
      else s.medium.SameSlots (s.run around op).store.medium) := by
  cases h : op.isMutating with
  | true =>
    have hrun := (s.run_commits around h).writeThrough
    exact ⟨hrun.failed, hrun.done⟩
  | false =>
    have hkept : s.medium.SameSlots s.medium ∧ s.medium.StillReads s.medium s.key :=
      ⟨s.medium.sameSlots_refl, s.medium.stillReads_refl s.key⟩
    by_cases hload : op = .load
    · subst hload
      obtain ⟨hfailed, hmedium⟩ := s.load_spec
      rw [run, hmedium]
      exact ⟨fun e he => ⟨hfailed e he, hkept⟩, fun _ _ => hkept.1⟩
    · rw [s.run_store_of_isMutating_eq_false around h hload hclose]
      exact ⟨fun _ _ => ⟨rfl, hkept⟩, fun _ _ => hkept.1⟩

/-- A store in memory beside a slot of somebody else, on a medium that may refuse writes. -/
def shared (refusing : Bool) : Store where
  key := .text ['p']
  document := emptyDocument
  medium := ⟨.memory [(.text ['q'], .text ['k', 'e', 'p', 't'])], .empty, refusing⟩
  drawn := 0

/-- A new pipeline fills the slot of its store and leaves the other slot alone, and one whose write
is refused leaves everything alone. -/
theorem run_allOrNothing_newPipeline :
    ∃ op : Operation, op ≠ .close ∧
      (((shared true).run ⟨[], [], fun _ => []⟩ op).store.document = emptyDocument ∧
        (shared true).medium.SameSlots
          ((shared true).run ⟨[], [], fun _ => []⟩ op).store.medium ∧
        (shared true).medium.StillReads
          ((shared true).run ⟨[], [], fun _ => []⟩ op).store.medium (.text ['p'])) ∧
      ∃ payload,
        (Document.empty ⟨['f'], []⟩).write? .inline = some payload ∧
          (shared false).medium.Written
            ((shared false).run ⟨[], [], fun _ => []⟩ op).store.medium (.text ['p']) payload := by
  have hop : Operation.newPipeline ⟨['f'], []⟩ ≠ .close := nofun
  refine ⟨.newPipeline ⟨['f'], []⟩, hop, ?_, ?_⟩
  · exact (run_allOrNothing ⟨[], [], fun _ => []⟩ (shared true) hop).1 (.backend .refused) rfl
  · exact (run_allOrNothing ⟨[], [], fun _ => []⟩ (shared false) hop).2
      (.document (Document.empty ⟨['f'], []⟩)) rfl

end Store

end EventPipeline
