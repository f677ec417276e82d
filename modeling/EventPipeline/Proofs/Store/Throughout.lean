import EventPipeline.Proofs.Store.WellFormed

/-!
# What holds throughout a run

Whether an operation that succeeds keeps a property of the current document is often seen from the
operation alone (`Operation.KeepsIff`). Then a property that holds at the beginning of a run holds
at every moment of it just if every operation that succeeds is of the kind that keeps it
(`throughout_iff`).

The first use is the configuration. A document need not have one, and those of pointy texts have
none. Every way into a store fills a missing one in but for one: saving takes a document as it is.
So a store has a configuration at every moment just if every document that is saved with success has
one (`config_isSome_iff`). Without one, the store has no name for a file, and refuses new events for
another reason than that the pipeline has no name.
-/

namespace EventPipeline

/-! ## Operations -/

/-- Whether an operation keeps a property of documents, when it succeeds, is decided by a condition
on the operation. -/
structure Operation.KeepsIff (around : Surroundings) (op : Operation) (P : Document → Prop)
    (condition : Prop) : Prop where
  /-- Operations that do not change the document meet the condition. -/
  reads : op.isMutating = false → condition
  /-- Loading gives documents with the property. -/
  loads : op = .load → ∀ (s : Store) d, s.slotDocument = .ok d → P d
  /-- Drafts from documents with the property have it just if the condition is met. -/
  drafts : ∀ (s : Store) d, P s.document → op.Drafts around s d → (P d ↔ condition)

namespace Store

variable {around : Surroundings} {s : Store} {P : Document → Prop}

/-- A call keeps a property just if it fails or the condition of its operation is met. -/
lemma keeps_call_iff {c : Call} {condition : Prop} (h : c.operation.KeepsIff around P condition)
    (hs : P s.document) :
    P (s.call around c).store.document ↔
      ((∃ r, (s.call around c).result = .ok r) → condition) := by
  cases s.call_follows around c with
  | failed e result document =>
    rw [document, result]
    exact iff_of_true hs nofun
  | loaded r result load document =>
    refine iff_of_true (h.loads load _ _ document) fun _ => h.reads ?_
    rw [load]
    rfl
  | drafted r result document =>
    rw [h.drafts { s with medium := { s.medium with refusing := c.refused } } _ hs document]
    constructor
    · intro hcondition _
      exact hcondition
    · intro hcondition
      exact hcondition ⟨r, result⟩
  | kept r result reads document =>
    rw [document]
    exact iff_of_true hs fun _ => h.reads reads

/-! ## Runs -/

/-- The store after one more call. -/
lemma afterCalls_concat (around : Surroundings) (s : Store) (calls : List Call) (c : Call) :
    s.afterCalls around (calls ++ [c]) = ((s.afterCalls around calls).call around c).store := by
  rw [afterCalls, List.foldl_append]
  rfl

/-- A property that holds at the beginning of a run holds at every moment of it just if the
condition of every operation that succeeds is met. -/
lemma throughout_iff {calls : List Call} {condition : Operation → Prop} (hs : P s.document)
    (h : ∀ c ∈ calls, c.operation.KeepsIff around P (condition c.operation)) :
    (∀ before, before <+: calls → P (s.afterCalls around before).document) ↔
      ∀ before c, before ++ [c] <+: calls →
        (∃ r, ((s.afterCalls around before).call around c).result = .ok r) →
          condition c.operation := by
  have hstep : ∀ before c, before ++ [c] <+: calls → P (s.afterCalls around before).document →
      (P (s.afterCalls around (before ++ [c])).document ↔
        ((∃ r, ((s.afterCalls around before).call around c).result = .ok r) →
          condition c.operation)) := by
    intro before c hbegin hbefore
    rw [afterCalls_concat]
    exact keeps_call_iff (h c (hbegin.subset List.mem_concat_self)) hbefore
  constructor
  · intro hall before c hbegin
    have hbefore := hall before ((List.prefix_append before [c]).trans hbegin)
    exact (hstep before c hbegin hbefore).1 (hall _ hbegin)
  · intro hmet before hbegin
    induction before using List.reverseRecOn with
    | nil => exact hs
    | append_singleton before c ih =>
      have hbefore := ih ((List.prefix_append before [c]).trans hbegin)
      exact (hstep before c hbegin hbefore).2 (hmet before c hbegin)

end Store

/-! ## Configurations -/

/-- Whether an operation saves no document without a configuration. -/
def Operation.SavesConfigured (op : Operation) : Prop :=
  ∀ d, op = .save (some d) → d.config.isSome = true

/-- Of the drafts of a store with a configuration only a document that is saved as it is may lack
one. -/
lemma Operation.Drafts.isSome_config_iff {around : Surroundings} {s : Store} {op : Operation}
    {d : Document} (h : op.Drafts around s d) (hs : s.document.config.isSome = true) :
    d.config.isSome = true ↔ op.SavesConfigured := by
  -- A changed node leaves the configuration as it is.
  have hedit : ∀ {pk : Text} {f : Node → Node}, s.document.updateNode? pk f = some d →
      d.config.isSome = true := by
    intro pk f hd
    obtain ⟨nodes, -, rfl⟩ := Option.map_eq_some_iff.1 hd
    exact hs
  cases h with
  | save given =>
    cases given with
    | none => exact iff_of_true hs nofun
    | some given =>
      constructor
      · rintro hd _ ⟨⟩
        exact hd
      · intro hgiven
        exact hgiven given rfl
  | rename _ renamed => exact iff_of_true (hedit renamed) nofun
  | recode recoded => exact iff_of_true (hedit recoded) nofun
  | move moved => exact iff_of_true (hedit moved) nofun
  | addEvent | remove | connect | disconnect => exact iff_of_true hs nofun
  | newPipeline | replace | importJson | importBytes | importPointy => exact iff_of_true rfl nofun

/-- An operation keeps the configuration there, unless it saves a document without one. -/
lemma Operation.keepsIff_isSome_config (around : Surroundings) (op : Operation) :
    op.KeepsIff around (fun d => d.config.isSome = true) op.SavesConfigured where
  reads := by
    rintro h d rfl
    cases h
  loads _ _ _ hslot := (Store.held_of_slotDocument hslot).2
  drafts _ _ hs hd := hd.isSome_config_iff hs

namespace Store

/-- The name of a file for an export is there just if there is a configuration. -/
lemma isSome_config_iff_exportFileName (around : Surroundings) (s : Store) :
    s.document.config.isSome = true ↔ ∀ extension, ∃ name, name ≠ [] ∧
      (s.run around (.exportFileName extension)).result =
        .ok (.text (name ++ '.' :: extension.plain)) := by
  have hrun : ∀ extension, s.run around (.exportFileName extension) = s.exportFileName extension :=
    fun _ => rfl
  simp only [hrun, exportFileName]
  cases s.document.config with
  | none =>
    refine iff_of_false nofun fun h => ?_
    obtain ⟨name, -, hresult⟩ := h .null
    cases hresult
  | some config =>
    refine iff_of_true rfl fun extension => ⟨_, ?_, rfl⟩
    split
    · decide
    · rename_i hname
      simpa using hname

/-- Committing a document never fails for want of a name. -/
lemma result_commit_ne_notConfigured (s : Store) (log : Log) (d : Document) (r : Reply) :
    (s.commit log d r).result ≠ .error .notConfigured := by
  rcases s.commit_cases log d r with hcommit | ⟨payload, medium, writeLog, -,
    ⟨e, -, hcommit⟩ | ⟨-, hcommit⟩⟩ <;> rw [hcommit] <;> exact nofun

/-- New events are refused because the pipeline has no name just if there is a configuration, and
that has none. -/
lemma nameless_iff_addEvent (around : Surroundings) (s : Store) :
    (∃ config, s.document.config = some config ∧ config.name = []) ↔
      ∀ name code position,
        (s.run around (.addEvent name code position)).result = .error .notConfigured := by
  have hrun : ∀ name code position,
      s.run around (.addEvent name code position) = s.addEvent around name code position :=
    fun _ _ _ => rfl
  constructor
  · rintro ⟨config, hconfig, hname⟩ name code position
    have hconfigured : config.isConfigured = false := by simp [Config.isConfigured, hname]
    simp only [hrun, addEvent, hconfig, hconfigured, Bool.not_false, if_true]
    rfl
  · intro h
    have hresult := h .null .null none
    rw [hrun, addEvent] at hresult
    split at hresult
    · cases hresult
    · rename_i config hconfig
      split at hresult
      · rename_i hname
        exact ⟨config, hconfig, by simpa [Config.isConfigured] using hname⟩
      -- A pipeline with a name fails for other reasons, if at all.
      · split at hresult
        · cases hresult
        split at hresult
        · cases hresult
        dsimp only at hresult
        split at hresult
        · cases hresult
        · exact absurd hresult (result_commit_ne_notConfigured _ _ _ _)

/-! ## The configuration of a store -/

/-- A store that begins empty has a configuration at every moment of a run just if every document
that the run saves with success has one. Wherever it has one, there is a name of a file for every
export, and new events are refused, for want of a name and for no other reason, when that
configuration has no name. Where it has none, neither is so. -/
theorem config_isSome_iff (around : Surroundings) (key : Json) (medium : Medium) (drawn : Nat)
    (calls : List Call) :
    ((∀ before, before <+: calls →
        ((opened key medium drawn).afterCalls around before).document.config.isSome = true) ↔
      ∀ before c, before ++ [c] <+: calls →
        (∃ r, (((opened key medium drawn).afterCalls around before).call around c).result = .ok r) →
          c.operation.SavesConfigured) ∧
    ∀ s : Store,
      (s.document.config.isSome = true ↔ ∀ extension, ∃ name, name ≠ [] ∧
        (s.run around (.exportFileName extension)).result =
          .ok (.text (name ++ '.' :: extension.plain))) ∧
      ((∃ config, s.document.config = some config ∧ config.name = []) ↔
        ∀ name code position,
          (s.run around (.addEvent name code position)).result = .error .notConfigured) := by
  have hopened : (opened key medium drawn).document.config.isSome = true := rfl
  refine ⟨throughout_iff (P := fun d => d.config.isSome = true) hopened fun c _ => ?_,
    fun s => ⟨s.isSome_config_iff_exportFileName around, s.nameless_iff_addEvent around⟩⟩
  exact c.operation.keepsIff_isSome_config around

/-- A document as pointy text gives it, without a configuration. -/
def unnamed : Document where
  config := none
  nodes := []
  edges := []

/-- After an unnamed document was saved there is no configuration, no name for a file, and no event
can be added, for want of a configuration. -/
theorem not_forall_config_isSome :
    (¬ ∀ (around : Surroundings) (key : Json) (medium : Medium) (drawn : Nat) (calls : List Call),
      ((opened key medium drawn).afterCalls around calls).document.config.isSome = true) ∧
    ((vacant.afterCalls clocked [⟨.save (some unnamed), false⟩]).run clocked
      (.exportFileName (.text "json".toList))).result = .error .noConfig ∧
    ((vacant.afterCalls clocked [⟨.save (some unnamed), false⟩]).run clocked
      (.addEvent .null .null none)).result = .error .noConfig := by
  refine ⟨fun h => ?_, rfl, rfl⟩
  have hsome := h clocked vacant.key vacant.medium 0 [⟨.save (some unnamed), false⟩]
  revert hsome
  decide

end Store

end EventPipeline
