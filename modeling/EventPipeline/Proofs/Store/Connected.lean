import EventPipeline.Proofs.Document.Connection
import EventPipeline.Proofs.Store.Throughout

/-!
# Ids tell connections apart

While a store that begins a new pipeline takes over no documents but those of pointy texts, the ids
of its connections are distinct at every moment just if no text is taken over that declares a
connection twice (`nodup_edgeIds_throughout_iff`): such a text gives both the same id, where
connecting the events a second time would have numbered it. Where ids are distinct, removing a
connection takes that one away and leaves all others; where they are not, it takes all of the id
(`not_forall_nodup_edgeIds`).
-/

namespace EventPipeline

/-! ## Operations -/

/-- Whether an operation takes over no document, unless it is that of a pointy text. -/
def Operation.TakesOnlyPointy : Operation → Prop
  | .load => False
  | .save d => d = none
  | .replace _ => False
  | .importJson _ => False
  | .importBytes _ => False
  | _ => True

/-- Whether an operation takes over no pointy text that declares a connection twice. -/
def Operation.ConnectsOnce (op : Operation) : Prop :=
  ∀ text strict, op = .importPointy (.text text) strict → (Pointy.connectionLines text).Nodup

/-- Drafts of such an operation have distinct ids of connections when the current document has, but
for those of a text that declares a connection twice. -/
lemma Operation.Drafts.nodup_edgeIds_iff {around : Surroundings} {s : Store} {op : Operation}
    {d : Document} (h : op.Drafts around s d) (hop : op.TakesOnlyPointy)
    (hs : s.document.edgeIds.Nodup) :
    d.edgeIds.Nodup ↔ op.ConnectsOnce := by
  have hfewer : d.edges.Sublist s.document.edges → d.edgeIds.Nodup :=
    Document.nodup_edgeIds_of_sublist hs
  have hedit : ∀ {pk : Text} {f : Node → Node}, s.document.updateNode? pk f = some d →
      d.edgeIds.Nodup := by
    intro pk f hd
    rw [Document.edgeIds, Document.edges_updateNode? hd]
    exact hs
  cases h with
  | save given =>
    obtain rfl : given = none := hop
    exact iff_of_true hs (by rintro _ _ ⟨⟩)
  | newPipeline config => exact iff_of_true List.nodup_nil (by rintro _ _ ⟨⟩)
  | addEvent event => exact iff_of_true hs (by rintro _ _ ⟨⟩)
  | rename _ renamed => exact iff_of_true (hedit renamed) (by rintro _ _ ⟨⟩)
  | recode recoded => exact iff_of_true (hedit recoded) (by rintro _ _ ⟨⟩)
  | move moved => exact iff_of_true (hedit moved) (by rintro _ _ ⟨⟩)
  | remove ids => exact iff_of_true (hfewer List.filter_sublist) (by rintro _ _ ⟨⟩)
  | connect _ _ => exact iff_of_true (Document.nodup_edgeIds_addConnection hs _ _) (by rintro _ _ ⟨⟩)
  | disconnect pk => exact iff_of_true (hfewer List.filter_sublist) (by rintro _ _ ⟨⟩)
  | importPointy read =>
    have hread := Pointy.nodup_edgeIds_of_read_iff read
    constructor
    · rintro hd _ _ ⟨⟩
      exact hread.1 hd
    · intro htext
      exact hread.2 (htext _ _ rfl)
  | replace | importJson | importBytes => exact hop.elim

/-- Such an operation keeps the ids of connections distinct, unless it takes over a text that
declares a connection twice. -/
lemma Operation.TakesOnlyPointy.keepsIff_nodup_edgeIds {op : Operation} (hop : op.TakesOnlyPointy)
    (around : Surroundings) :
    op.KeepsIff around (fun d => d.edgeIds.Nodup) op.ConnectsOnce where
  reads := by
    rintro h text strict rfl
    cases h
  loads := by
    rintro rfl
    exact hop.elim
  drafts _ _ hs hd := hd.nodup_edgeIds_iff hop hs

namespace Store

/-! ## Removing a connection -/

/-- Where ids tell connections apart, removing one with success leaves all others. -/
lemma exists_eq_append_of_disconnect {around : Surroundings} {s : Store} {id : Json}
    {refused : Bool} {r : Reply} (hs : s.document.edgeIds.Nodup)
    (h : (s.call around ⟨.disconnect id, refused⟩).result = .ok r) :
    ∃ front c back, id = .text c.id ∧ s.document.edges = front ++ c :: back ∧
      (s.call around ⟨.disconnect id, refused⟩).store.document =
        { s.document with edges := front ++ back } := by
  cases call_follows around s ⟨.disconnect id, refused⟩ with
  | failed e result document =>
    rw [result] at h
    cases h
  | loaded r' result load document => cases load
  | drafted r' result document =>
    generalize (s.call around ⟨.disconnect id, refused⟩).store.document = d at document ⊢
    cases document with
    | disconnect pk found =>
      obtain ⟨front, c, back, rfl, hedges, hremoved⟩ :=
        Document.exists_eq_append_of_removeConnection hs found
      exact ⟨front, c, back, rfl, hedges, hremoved⟩
  | kept r' result reads document => cases reads

/-! ## Runs -/

/-- Let a run begin a new pipeline with success and take over no documents but those of pointy
texts. The ids of connections are distinct at every moment of it just if each text that is taken
over with success declares no connection twice. Whenever they are distinct, removing a connection
with success takes away one connection and leaves all else in place. -/
theorem nodup_edgeIds_throughout_iff (around : Surroundings) (s : Store) {config : Config}
    {refused : Bool} {r : Reply} {calls : List Call} {start : Store}
    (hnew : (s.call around ⟨.newPipeline config, refused⟩).result = .ok r)
    (hstart : (s.call around ⟨.newPipeline config, refused⟩).store = start)
    (hcalls : ∀ c ∈ calls, c.operation.TakesOnlyPointy) :
    ((∀ before, before <+: calls → (start.afterCalls around before).document.edgeIds.Nodup) ↔
      ∀ before c, before ++ [c] <+: calls →
        (∃ r, ((start.afterCalls around before).call around c).result = .ok r) →
          c.operation.ConnectsOnce) ∧
    ∀ (s' : Store) id refused r, s'.document.edgeIds.Nodup →
      (s'.call around ⟨.disconnect id, refused⟩).result = .ok r →
        ∃ front c back, id = .text c.id ∧ s'.document.edges = front ++ c :: back ∧
          (s'.call around ⟨.disconnect id, refused⟩).store.document =
            { s'.document with edges := front ++ back } := by
  have hempty : start.document.edgeIds.Nodup := by
    rw [← hstart, document_newPipeline hnew]
    exact List.nodup_nil
  refine ⟨throughout_iff (P := fun d => d.edgeIds.Nodup) hempty fun c hc => ?_,
    fun s' id refused r hs' h => exists_eq_append_of_disconnect hs' h⟩
  exact (hcalls c hc).keepsIff_nodup_edgeIds around

/-- A pointy text that connects two events is taken over, and they are connected twice more. -/
def connectedThrice : List Call :=
  [⟨.importPointy (.text chained) true, false⟩,
    ⟨.connect (.text (eventIdOfName ['f'])) (.text (eventIdOfName ['g'])), false⟩,
    ⟨.connect (.text (eventIdOfName ['f'])) (.text (eventIdOfName ['g'])), false⟩]

/-- Of three connections between the same events, one can be removed. -/
theorem nodup_edgeIds_throughout_iff_connectedThrice :
    ∃ start, (∃ r, (vacant.call clocked ⟨.newPipeline ⟨['f'], []⟩, false⟩).result = .ok r) ∧
      (vacant.call clocked ⟨.newPipeline ⟨['f'], []⟩, false⟩).store = start ∧
      (∀ c ∈ connectedThrice, c.operation.TakesOnlyPointy) ∧
      (∀ before, before <+: connectedThrice →
        (start.afterCalls clocked before).document.edgeIds.Nodup) ∧
      ∃ front c back, c.id = ['f', '-', 'g'] ∧
        (start.afterCalls clocked connectedThrice).document.edges = front ++ c :: back ∧
        ((start.afterCalls clocked connectedThrice).call clocked
          ⟨.disconnect (.text ['f', '-', 'g']), false⟩).store.document.edges = front ++ back ∧
        (front ++ back).length = 2 := by
  have hnew : (vacant.call clocked ⟨.newPipeline ⟨['f'], []⟩, false⟩).result =
      .ok (.document (Document.empty ⟨['f'], []⟩)) := rfl
  have hcalls : ∀ c ∈ connectedThrice, c.operation.TakesOnlyPointy := by
    simp only [connectedThrice, List.forall_mem_cons]
    exact ⟨trivial, trivial, trivial, nofun⟩
  obtain ⟨hiff, hdisconnect⟩ := nodup_edgeIds_throughout_iff clocked vacant hnew rfl hcalls
  have honce : ∀ c ∈ connectedThrice, c.operation.ConnectsOnce := by
    simp only [connectedThrice, List.forall_mem_cons]
    refine ⟨?_, nofun, nofun, nofun⟩
    rintro _ _ ⟨⟩
    decide
  have hnodup := hiff.2 fun before c hbegin _ => honce c (hbegin.subset List.mem_concat_self)
  have hedges : ((vacant.call clocked ⟨.newPipeline ⟨['f'], []⟩, false⟩).store.afterCalls clocked
      connectedThrice).document.edges.length = 3 := by decide +kernel
  have hremoved : ((((vacant.call clocked ⟨.newPipeline ⟨['f'], []⟩, false⟩).store.afterCalls
      clocked connectedThrice).call clocked
        ⟨.disconnect (.text ['f', '-', 'g']), false⟩).result).isOk = true := by decide +kernel
  obtain ⟨_, hok⟩ := isOk_iff_exists.1 hremoved
  obtain ⟨front, c, back, hid, hbefore, hafter⟩ :=
    hdisconnect _ _ _ _ (hnodup _ (List.prefix_refl _)) hok
  refine ⟨_, ⟨_, hnew⟩, rfl, hcalls, hnodup, front, c, back, (Json.text.inj hid).symm, hbefore, ?_,
    ?_⟩
  · rw [hafter]
  · rw [hbefore, List.length_append, List.length_cons] at hedges
    rw [List.length_append]
    omega

/-- A pointy text that connects an event with itself twice. -/
def repeated : Text :=
  ['a', ' ', '{', '\n', '}', '\n', 'a', ' ', '-', '>', ' ', 'a', '\n', 'a', '-', '>', 'a', '\n']

/-- Both connections of such a text get the same id, so that removing one takes away both. -/
theorem not_forall_nodup_edgeIds :
    (¬ ∀ (around : Surroundings) (s : Store) (config : Config) (refused : Bool) (r : Reply)
      (calls : List Call), (s.call around ⟨.newPipeline config, refused⟩).result = .ok r →
      (∀ c ∈ calls, c.operation.TakesOnlyPointy) →
      (s.afterCalls around (⟨.newPipeline config, refused⟩ :: calls)).document.edgeIds.Nodup) ∧
    ∃ s', vacant.afterCalls clocked [⟨.newPipeline ⟨['f'], []⟩, false⟩,
        ⟨.importPointy (.text repeated) false, false⟩] = s' ∧
      s'.document.edgeIds = [['a', '-', 'a'], ['a', '-', 'a']] ∧
      (∃ r, (s'.call clocked ⟨.disconnect (.text ['a', '-', 'a']), false⟩).result = .ok r) ∧
      (s'.call clocked ⟨.disconnect (.text ['a', '-', 'a']), false⟩).store.document.edges = [] := by
  have hids : (vacant.afterCalls clocked [⟨.newPipeline ⟨['f'], []⟩, false⟩,
      ⟨.importPointy (.text repeated) false, false⟩]).document.edgeIds =
        [['a', '-', 'a'], ['a', '-', 'a']] := by decide +kernel
  refine ⟨fun h => ?_, _, rfl, hids, isOk_iff_exists.1 (by decide +kernel), by decide +kernel⟩
  have hnodup := h clocked vacant ⟨['f'], []⟩ false (.document (Document.empty ⟨['f'], []⟩))
    [⟨.importPointy (.text repeated) false, false⟩] rfl (by simp [Operation.TakesOnlyPointy])
  rw [hids] at hnodup
  revert hnodup
  decide

end Store

end EventPipeline
