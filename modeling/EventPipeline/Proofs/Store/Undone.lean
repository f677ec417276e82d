import EventPipeline.Proofs.Document.Undone
import EventPipeline.Proofs.Store.WriteThrough

/-!
# Operations that are undone

Connecting two events, adding one and giving one another name are each undone by the operation that
takes the addition away, or gives the old name back. The store then has the document that it had
before, node by node and connection by connection in their order, and has written its text
(`run_undone`). The document may be any: connections may dangle or be repeated, and so may ids.

An operation that succeeds has committed a document that can be written. Its configuration is the
former one, so the former document can be written as well, and the undoing operation fails only if
the backend does (`restores_commit`).
-/

namespace EventPipeline

/-- An outcome that restores the document of a store: there is a reply, the document is that of the
store again, and its text was written to the slot, which `before` is the state in front of. -/
structure Outcome.Restores (o : Outcome) (s before : Store) (r : Reply) : Prop where
  /-- There is a reply. -/
  result : o.result = .ok r
  /-- The document is the former one. -/
  document : o.store.document = s.document
  /-- The slot holds the text of the former document, and no other slot has changed. -/
  payload : ∃ payload, s.document.write? .inline = some payload ∧
    before.medium.Written o.store.medium s.key payload

namespace Store

/-- An operation is undone by another one when that one, run behind it, restores the document,
unless the backend fails. -/
def IsUndoneBy (around : Surroundings) (s : Store) (op undo : Operation) (r : Reply) : Prop :=
  (∀ e, ((s.run around op).store.run around undo).result ≠ .error (.backend e)) →
    ((s.run around op).store.run around undo).Restores s (s.run around op).store r

/-- A store behind another one that has committed a document. -/
structure HasCommitted (s : Store) (d : Document) (s' : Store) : Prop where
  /-- The slot is the same. -/
  key : s'.key = s.key
  /-- The document is current. -/
  document : s'.document = d
  /-- The document can be written. -/
  writable : d.isWritable = true

variable {s before : Store}

/-! ## Committing -/

/-- A commit that succeeds replies what it was given, and the document is committed. -/
lemma commit_of_ok {log : Log} {d : Document} {r reply : Reply}
    (h : (s.commit log d r).result = .ok reply) :
    reply = r ∧ s.HasCommitted d (s.commit log d r).store := by
  rcases s.commit_cases log d r with hcommit | ⟨payload, medium, writeLog, hpayload,
    ⟨e, -, hcommit⟩ | ⟨-, hcommit⟩⟩
  · rw [hcommit] at h
    contradiction
  · rw [hcommit] at h
    contradiction
  · have hwritable : d.isWritable = true := by
      unfold Document.write? at hpayload
      split at hpayload
      · assumption
      · contradiction
    rw [hcommit] at h ⊢
    exact ⟨(Except.ok.inj h).symm, rfl, rfl, hwritable⟩

/-- A document that can be written is not refused. -/
lemma result_commit_ne_unwritable {d : Document} (h : d.isWritable = true) (log : Log) (r : Reply) :
    (s.commit log d r).result ≠ .error .unwritable := by
  intro hresult
  rw [commit, Document.write?, if_pos h] at hresult
  dsimp only at hresult
  cases hwrite : (s.medium.write s.key (.text (d.render .inline))).2.2 with
  | error e => simp [hwrite] at hresult
  | ok u => simp [hwrite] at hresult

/-- A document that can be written is committed, unless the backend fails. -/
lemma result_commit {d : Document} (hwritable : d.isWritable = true) {log : Log} {r : Reply}
    (h : ∀ e, (s.commit log d r).result ≠ .error (.backend e)) :
    (s.commit log d r).result = .ok r := by
  rcases s.commit_cases log d r with hcommit | ⟨payload, medium, writeLog, -,
    ⟨e, -, hcommit⟩ | ⟨-, hcommit⟩⟩
  · exact absurd (congrArg Outcome.result hcommit) (result_commit_ne_unwritable hwritable log r)
  · exact absurd (congrArg Outcome.result hcommit) (h e)
  · rw [hcommit]

/-- Committing the document of a store behind another one restores it, unless the backend fails. -/
lemma restores_commit (hkey : before.key = s.key) (hwritable : s.document.isWritable = true)
    {log : Log} {r : Reply}
    (h : ∀ e, (before.commit log s.document r).result ≠ .error (.backend e)) :
    (before.commit log s.document r).Restores s before r := by
  have hresult := result_commit hwritable h
  have hdocument := (commit_of_ok hresult).2.document
  obtain ⟨payload, hpayload, hwritten⟩ :=
    (before.writeThrough_commit log s.document r).done r hresult
  rw [hdocument] at hpayload
  rw [hkey] at hwritten
  exact ⟨hresult, hdocument, payload, hpayload, hwritten⟩

/-! ## Operations that succeed -/

/-- What succeeds for the node of an id has found the node. -/
lemma withNode_of_ok {id : Json} {f : Text → Node → Outcome} {reply : Reply}
    (h : (s.withNode id f).result = .ok reply) :
    ∃ pk n, id = .text pk ∧ s.document.node? pk = some n ∧ s.withNode id f = f pk n := by
  rcases s.withNode_cases id f with ⟨e, hrun⟩ | hfound
  · rw [hrun] at h
    contradiction
  · exact hfound

/-- Connecting with success commits a new connection and replies it. -/
lemma connect_of_ok {source target : Json} {reply : Reply}
    (h : (s.connect source target).result = .ok reply) :
    ∃ pk pk', reply = .connection (s.document.newConnection pk pk') ∧
      s.HasCommitted (s.document.addConnection (s.document.newConnection pk pk'))
        (s.connect source target).store := by
  obtain ⟨pk, n, -, -, houter⟩ := withNode_of_ok h
  rw [connect, houter] at h ⊢
  obtain ⟨pk', n', -, -, hinner⟩ := withNode_of_ok h
  rw [hinner] at h ⊢
  exact ⟨pk, pk', commit_of_ok h⟩

/-- Adding an event with success commits it and replies it. -/
lemma addEvent_of_ok {around : Surroundings} {name code : Json} {position : Option Position}
    {reply : Reply} (h : (s.addEvent around name code position).result = .ok reply) :
    ∃ e, reply = .event e ∧
      s.HasCommitted (s.document.addEvent e (position.getD standardPosition))
        (s.addEvent around name code position).store := by
  rcases s.addEvent_cases around name code position with
    ⟨e, hrun⟩ | ⟨e, hrun⟩ | ⟨name', code', e, log, -, hrun⟩
  · rw [hrun] at h
    contradiction
  · rw [hrun] at h
    contradiction
  · rw [hrun] at h ⊢
    obtain ⟨hreply, hkey, hdocument, hwritable⟩ := commit_of_ok h
    exact ⟨e, hreply, hkey, hdocument, hwritable⟩

/-- Giving an event another name with success commits the document with that name. -/
lemma rename_of_ok {id new : Json} {reply : Reply} (h : (s.rename id new).result = .ok reply) :
    ∃ pk name d, id = .text pk ∧ s.document.rename? pk name = some d ∧
      s.HasCommitted d (s.rename id new).store := by
  obtain ⟨pk, n, hid, -, houter⟩ := withNode_of_ok h
  rw [rename, houter] at h ⊢
  split at h
  · contradiction
  · rename_i name hname
    cases hrenamed : s.document.rename? pk name with
    | none =>
      rw [hrenamed] at h
      contradiction
    | some d =>
      rw [hrenamed] at h
      exact ⟨pk, name, d, hid, hrenamed, (commit_of_ok h).2⟩

/-! ## Operations that undo -/

/-- A connection that is found is removed. -/
lemma disconnect_eq {pk : Text} (h : (s.document.connection? pk).isSome = true) :
    s.disconnect (.text pk) = s.commit [] (s.document.removeConnection pk) .done := by
  have hnone : ¬ (s.document.connection? pk).isNone = true := by
    intro hnone
    rw [Option.isNone_iff_eq_none.1 hnone] at h
    contradiction
  rw [disconnect, if_neg hnone]

/-- An event that is found gets another name. -/
lemma rename_eq {pk : Text} {n : Node} {v : Json} {name : EventName} {d : Document}
    (hn : s.document.node? pk = some n) (hname : EventName.ofJson? v = some name)
    (hd : s.document.rename? pk name = some d) :
    s.rename (.text pk) v =
      s.commit (nameLog name) d (.event { n.event with name := name }) := by
  simp only [rename, withNode, hn, hname, hd, commitEdit]

section Undo

variable {around : Surroundings}

/-- An operation that has committed a document of the same configuration is undone by one that
commits the former document. -/
lemma isUndoneBy_of_commit {op undo : Operation} {d : Document} {r : Reply}
    (hop : s.HasCommitted d (s.run around op).store) (hconfig : d.config = s.document.config)
    (hundo : ∀ b : Store, b.document = d → ∃ log, b.run around undo = b.commit log s.document r) :
    s.IsUndoneBy around op undo r := by
  intro hbackend
  have hwritable : s.document.isWritable = true := by
    rw [← Document.isWritable_congr hconfig]
    exact hop.writable
  obtain ⟨log, hlog⟩ := hundo _ hop.document
  rw [hlog] at hbackend ⊢
  exact restores_commit hop.key hwritable hbackend

/-- A connection is removed again by its id. -/
lemma isUndoneBy_disconnect {source target : Json} {reply : Reply}
    (h : (s.run around (.connect source target)).result = .ok reply) :
    ∃ c, reply = .connection c ∧
      s.IsUndoneBy around (.connect source target) (.disconnect (.text c.id)) .done := by
  obtain ⟨pk, pk', hreply, hcommitted⟩ := connect_of_ok h
  refine ⟨s.document.newConnection pk pk', hreply, isUndoneBy_of_commit hcommitted rfl ?_⟩
  intro b hb
  have hfound : (b.document.connection? (s.document.newConnection pk pk').id).isSome = true := by
    rw [hb]
    exact Document.isSome_connection?_addConnection _ _
  have hremoved := s.document.removeConnection_newConnection pk pk'
  rw [← hb] at hremoved
  exact ⟨[], (disconnect_eq hfound).trans (by rw [hremoved])⟩

/-- An event is removed again by its id, which is new to nodes and ends of connections. -/
lemma isUndoneBy_remove {name code : Json} {position : Option Position} {reply : Reply}
    (h : (s.run around (.addEvent name code position)).result = .ok reply) :
    ∃ e, reply = .event e ∧
      (e.id ∉ s.document.nodeIds →
        (∀ c ∈ s.document.edges, c.source ≠ e.id ∧ c.target ≠ e.id) →
        s.IsUndoneBy around (.addEvent name code position) (.remove [.text e.id]) .done) := by
  obtain ⟨e, hreply, hcommitted⟩ := addEvent_of_ok h
  refine ⟨e, hreply, fun hnodes hends => isUndoneBy_of_commit hcommitted rfl ?_⟩
  intro b hb
  have hremoved := Document.removeEvents_addEvent hnodes hends (position.getD standardPosition)
  rw [← hb] at hremoved
  have hremove : b.remove [.text e.id] = b.commit [] (b.document.removeEvents [e.id]) .done := rfl
  exact ⟨[], hremove.trans (by rw [hremoved])⟩

/-- The first event of an id gets its old name back. -/
lemma isUndoneBy_rename {id : Text} {new : Json} {n : Node} {reply : Reply}
    (hn : s.document.node? id = some n)
    (h : (s.run around (.rename (.text id) new)).result = .ok reply) :
    s.IsUndoneBy around (.rename (.text id) new) (.rename (.text id) n.event.name.toJson)
      (.event n.event) := by
  obtain ⟨pk, name, d, hid, hrenamed, hcommitted⟩ := rename_of_ok h
  obtain rfl := Json.text.inj hid
  refine isUndoneBy_of_commit hcommitted (Document.config_rename? hrenamed) ?_
  intro b hb
  have hfound := Document.node?_rename? hrenamed
  have hundone := Document.rename?_undone hn hrenamed
  rw [hn, Option.map_some, ← hb] at hfound
  rw [← hb] at hundone
  have hrename := rename_eq hfound (EventName.ofJson?_toJson _) hundone
  exact ⟨_, hrename⟩

end Undo

/-- Creating edits are undone exactly, whatever the document is. A connection that was made is
removed again by its id. An event that was added is removed again by its id, if no node and no end
of a connection had that. The first event of an id gets its old name back. Each time the undoing
operation, unless the backend fails, restores the document that there was and writes its text to
the slot. -/
theorem run_undone (around : Surroundings) (s : Store) :
    (∀ source target reply, (s.run around (.connect source target)).result = .ok reply →
      ∃ c, reply = .connection c ∧
        s.IsUndoneBy around (.connect source target) (.disconnect (.text c.id)) .done) ∧
    (∀ name code position reply,
      (s.run around (.addEvent name code position)).result = .ok reply →
      ∃ e, reply = .event e ∧
        (e.id ∉ s.document.nodeIds →
          (∀ c ∈ s.document.edges, c.source ≠ e.id ∧ c.target ≠ e.id) →
          s.IsUndoneBy around (.addEvent name code position) (.remove [.text e.id]) .done)) ∧
    (∀ id new n reply, s.document.node? id = some n →
      (s.run around (.rename (.text id) new)).result = .ok reply →
      s.IsUndoneBy around (.rename (.text id) new) (.rename (.text id) n.event.name.toJson)
        (.event n.event)) :=
  ⟨fun _ _ _ h => isUndoneBy_disconnect h, fun _ _ _ _ h => isUndoneBy_remove h,
    fun _ _ _ _ hn h => isUndoneBy_rename hn h⟩

/-- Surroundings that give every event the same id. -/
def unvaried : Surroundings where
  settings := []
  environment := []
  eventId := fun _ => ['e']

/-- A store whose document repeats ids of nodes and connections and has a connection that
dangles. -/
def crafted : Store where
  key := .text ['p']
  document :=
    { config := some ⟨['p'], []⟩
      nodes := [Node.ofEvent ⟨['a'], .given ['x'], []⟩ .origin,
        Node.ofEvent ⟨['b'], .given ['x'], []⟩ .origin,
        Node.ofEvent ⟨['a'], .given ['y'], []⟩ .origin]
      edges := [⟨['a', '-', 'b', '-', '1'], ['a'], ['c']⟩, ⟨['a', '-', 'b'], ['b'], ['b']⟩,
        ⟨['a', '-', 'b'], ['a'], ['b']⟩] }
  medium := ⟨.memory [], .empty, false⟩
  drawn := 0

/-- The ids that look like numbered ones are passed over, and each edit is undone. -/
theorem run_undone_crafted :
    (∃ before, (crafted.run unvaried (.connect (.text ['a']) (.text ['b']))).store = before ∧
      (before.run unvaried (.disconnect (.text ['a', '-', 'b', '-', '2']))).Restores crafted before
        .done) ∧
    (∃ before, (crafted.run unvaried (.addEvent (.text ['z']) (.text []) none)).store = before ∧
      (before.run unvaried (.remove [.text ['e']])).Restores crafted before .done) ∧
    (∃ before, (crafted.run unvaried (.rename (.text ['a']) (.text ['z']))).store = before ∧
      (before.run unvaried (.rename (.text ['a']) (.text ['x']))).Restores crafted before
        (.event ⟨['a'], .given ['x'], []⟩)) := by
  obtain ⟨hconnect, hadd, hrename⟩ := run_undone unvaried crafted
  refine ⟨⟨_, rfl, ?_⟩, ⟨_, rfl, ?_⟩, ⟨_, rfl, ?_⟩⟩
  · have hdone : (crafted.run unvaried (.connect (.text ['a']) (.text ['b']))).result =
        .ok (.connection ⟨['a', '-', 'b', '-', '2'], ['a'], ['b']⟩) := rfl
    obtain ⟨c, hc, hundone⟩ := hconnect _ _ _ hdone
    cases hc
    exact hundone fun e => nofun
  · have hdone : (crafted.run unvaried (.addEvent (.text ['z']) (.text []) none)).result =
        .ok (.event ⟨['e'], .given ['z'], []⟩) := rfl
    obtain ⟨e, he, hundone⟩ := hadd _ _ _ _ hdone
    cases he
    exact hundone (by decide) (by decide) fun e => nofun
  · have hdone : (crafted.run unvaried (.rename (.text ['a']) (.text ['z']))).result =
        .ok (.event ⟨['a'], .given ['z'], []⟩) := rfl
    exact hrename ['a'] _ _ _ rfl hdone fun e => nofun

end Store

end EventPipeline
