import EventPipeline.Document.Interchange
import EventPipeline.Document.Loading
import EventPipeline.Proofs.Json.RoundTrip

/-!
# Loading written documents

A document that the shapes admit can be written, and loading what was written gives the document
back (`ofText_write`) but for two things: a missing configuration becomes the empty one, and numbers
in the default of a field that are not finite become null. `settled` is the document after both.

The text goes to the interchange value of the document and back by `Json.ofText_render`. What is
shown here is that this value has distinct keys and short integers, and that the shapes take exactly
what is written for each part, without bending any of it.
-/

namespace EventPipeline

/-! ## Documents that the shapes admit -/

/-- A field whose default is a value of the format and whose integers can be written. -/
structure Field.Admitted (f : Field) : Prop where
  /-- The objects in the default have distinct keys. -/
  distinct : f.default.distinctKeys = true
  /-- The integers in the default are short. -/
  short : f.default.isWritable = true
  /-- The size of a batch is short. -/
  batchSize : ∀ n ∈ f.batchSize, Json.isShort n.val = true

/-- A node whose event has a text for a name and which stands on the canvas. -/
structure Node.Admitted (n : Node) : Prop where
  /-- The name is a text. -/
  name : ∃ name, n.event.name = .given name
  /-- There is a position. -/
  position : n.position.isSome = true

/-- A document of admitted fields and nodes. -/
structure Document.Admitted (d : Document) : Prop where
  /-- The fields of the configuration, if there is one, are admitted. -/
  fields : ∀ c ∈ d.config, ∀ f ∈ c.fields, f.Admitted
  /-- The nodes are admitted. -/
  nodes : ∀ n ∈ d.nodes, n.Admitted

/-! ## What loading changes -/

/-- The field without the numbers that are not finite in its default. -/
def Field.settled (f : Field) : Field :=
  { f with default := f.default.finiteOnly }

/-- The configuration with settled fields. -/
def Config.settled (c : Config) : Config :=
  { c with fields := c.fields.map Field.settled }

/-- The document with a settled configuration, which is the empty one if there is none. -/
def Document.settled (d : Document) : Document :=
  d.withConfig (some (d.config.getD Config.empty).settled)

/-! ## Parts of a document -/

/-- Items that are accepted one by one are accepted as a list. -/
lemma Shape.list_map {α β : Type} {check : Json → Checked β} {write : α → Json} {read : α → β}
    {xs : List α} (h : ∀ x ∈ xs, check (write x) = .ok (read x)) :
    Shape.list check (.list (xs.map write)) = .ok (xs.map read) := by
  have hitems : ∀ index, Checked.items check index (xs.map write) = .ok (xs.map read) := by
    induction xs with
    | nil => exact fun _ => rfl
    | cons x xs ih =>
      intro index
      have hrest := ih (fun y hy => h y (List.mem_cons_of_mem x hy)) (index + 1)
      rw [List.map_cons, Checked.items, h x List.mem_cons_self, hrest]
      rfl
  exact hitems 0

/-- A truth value that may be missing is taken as it was written. -/
lemma check_batchProcessor (b : Option Bool) :
    Shape.nullable Scalar.bool (b.elim .null .bool) = .ok b := by
  cases b <;> rfl

/-- The size of a batch that may be missing is taken as it was written. -/
lemma check_batchSize (n : Option Positive) :
    Shape.nullable Scalar.positive (n.elim .null fun n => .int n.val) = .ok n := by
  cases n with
  | none => rfl
  | some n =>
    obtain ⟨n, hn⟩ := n
    have hpositive : Scalar.positive (.int n) = .ok ⟨n, hn⟩ := by
      simp [Scalar.positive, Scalar.int, hn]
    exact congrArg (Except.map some) hpositive

/-- A kind of data is taken as it was written. -/
lemma check_dataType (t : DataType) : Scalar.dataType (.text t.word) = .ok t := by
  cases t <;> rfl

/-- A written field is accepted. -/
lemma Field.check_toJson (f : Field) : Field.check f.toJson = .ok f.settled := by
  have hmembers : Field.check f.toJson =
      (.ok (Field.mk f.name f.required)
        |> Checked.feed (Checked.under (.member "data_type".toList)
          (Scalar.dataType (.text f.dataType.word)))
        |> Checked.feed (.ok f.default.finiteOnly)
        |> Checked.feed (Checked.under (.member "batch_processor".toList)
          (Shape.nullable Scalar.bool (f.batchProcessor.elim .null .bool)))
        |> Checked.feed (Checked.under (.member "batch_size".toList)
          (Shape.nullable Scalar.positive (f.batchSize.elim .null fun n => .int n.val)))) := rfl
  rw [hmembers, check_dataType, check_batchProcessor, check_batchSize]
  rfl

/-- A written configuration is accepted. -/
lemma Config.check_toJson (c : Config) : Config.check c.toJson = .ok c.settled := by
  have hmembers : Config.check c.toJson =
      Checked.feed (Checked.under (.member "fields".toList)
        (Shape.list Field.check (.list (c.fields.map Field.toJson))))
        (.ok (Config.mk c.name)) := rfl
  rw [hmembers, Shape.list_map fun f _ => f.check_toJson]
  rfl

/-- A written node is accepted. -/
lemma Node.check_toJson {n : Node} (h : n.Admitted) : Node.check n.toJson = .ok n := by
  obtain ⟨id, kind, position, ⟨eventId, eventName, code⟩⟩ := n
  obtain ⟨⟨name, hname⟩, hposition⟩ := h
  obtain ⟨p, hp⟩ := Option.isSome_iff_exists.1 hposition
  dsimp only at hname hp
  subst hname hp
  rfl

/-- A written connection is accepted. -/
lemma Connection.check_toJson (c : Connection) : Connection.check c.toJson = .ok c := rfl

/-! ## Keys and integers -/

/-- A written field has distinct keys. -/
lemma Field.Admitted.distinctKeys_toJson {f : Field} (h : f.Admitted) :
    f.toJson.distinctKeys = true := by
  have hprocessor : (f.batchProcessor.elim .null .bool : Json).distinctKeys = true := by
    cases f.batchProcessor <;> rfl
  have hsize : (f.batchSize.elim .null fun n => .int n.val : Json).distinctKeys = true := by
    cases f.batchSize <;> rfl
  rw [Field.toJson, Json.distinctKeys_object]
  refine ⟨by simp only [List.map_cons, List.map_nil]; decide, ?_⟩
  simp [Json.distinctKeys, Json.distinctKeys_finiteOnly h.distinct, hprocessor, hsize]

/-- A field can be written when the integers in its default and the size of its batch are short. -/
lemma Field.isWritable_toJson_iff (f : Field) : f.toJson.isWritable = true ↔
    f.default.isWritable = true ∧ ∀ n ∈ f.batchSize, Json.isShort n.val = true := by
  have hprocessor : (f.batchProcessor.elim .null .bool : Json).isWritable = true := by
    cases f.batchProcessor <;> rfl
  have hsize : (f.batchSize.elim .null fun n => .int n.val : Json).isWritable = true ↔
      ∀ n ∈ f.batchSize, Json.isShort n.val = true := by
    cases f.batchSize <;> simp [Json.isWritable]
  rw [Field.toJson, Json.isWritable_object]
  simp [Json.isWritable, Json.isWritable_finiteOnly, hprocessor, hsize]

/-- A written configuration of admitted fields has distinct keys. -/
lemma Config.distinctKeys_toJson {c : Config} (h : ∀ f ∈ c.fields, f.Admitted) :
    c.toJson.distinctKeys = true := by
  rw [Config.toJson, Json.distinctKeys_object]
  refine ⟨by simp only [List.map_cons, List.map_nil]; decide, ?_⟩
  simp only [List.mem_cons, List.not_mem_nil, or_false, forall_eq_or_imp, forall_eq]
  refine ⟨rfl, ?_⟩
  rw [Json.distinctKeys_list, List.forall_mem_map]
  exact fun f hf => (h f hf).distinctKeys_toJson

/-- A configuration can be written when its fields can. -/
lemma Config.isWritable_toJson_iff (c : Config) :
    c.toJson.isWritable = true ↔ ∀ f ∈ c.fields, f.toJson.isWritable = true := by
  rw [Config.toJson, Json.isWritable_object]
  simp only [List.mem_cons, List.not_mem_nil, or_false, forall_eq_or_imp, forall_eq]
  rw [Json.isWritable_list, List.forall_mem_map]
  exact and_iff_right rfl

/-- A written node has distinct keys, unless it has none for its name or place. -/
lemma Node.Admitted.distinctKeys_toJson {n : Node} (h : n.Admitted) :
    n.toJson.distinctKeys = true := by
  obtain ⟨id, kind, position, ⟨eventId, eventName, code⟩⟩ := n
  obtain ⟨⟨name, hname⟩, hposition⟩ := h
  obtain ⟨p, hp⟩ := Option.isSome_iff_exists.1 hposition
  dsimp only at hname hp
  subst hname hp
  rfl

/-- Any node can be written: the only integer in it is a zero that stands for no name. -/
lemma Node.isWritable_toJson (n : Node) : n.toJson.isWritable = true := by
  have hzero : Json.isShort 0 = true := by decide +kernel
  have hname : n.event.name.toJson.isWritable = true := by
    cases n.event.name with
    | given name => rfl
    | blank value =>
      cases value with
      | zero => exact hzero
      | _ => rfl
  have hposition : (n.position.elim .null Position.toJson).isWritable = true := by
    cases n.position <;> rfl
  simp [Node.toJson, Event.toJson, Json.isWritable, Json.membersWritable, hname, hposition]

/-- A written connection has distinct keys and no integer. -/
lemma Connection.distinctKeys_isWritable_toJson (c : Connection) :
    c.toJson.distinctKeys = true ∧ c.toJson.isWritable = true :=
  ⟨rfl, rfl⟩

namespace Document

/-! ## Documents -/

/-- The configuration of a written document is accepted, or replaced when there is none. -/
lemma givenOr_config (d : Document) :
    givenOr [("config".toList, d.config.elim .null Config.toJson),
      ("nodes".toList, .list (d.nodes.map Node.toJson)),
      ("edges".toList, .list (d.edges.map Connection.toJson))] "config".toList Config.empty
      Config.check = .ok (d.config.getD Config.empty).settled := by
  cases d.config with
  | none => rfl
  | some c =>
    have hgiven : givenOr [("config".toList, c.toJson),
        ("nodes".toList, .list (d.nodes.map Node.toJson)),
        ("edges".toList, .list (d.edges.map Connection.toJson))] "config".toList Config.empty
        Config.check = Checked.under (.member "config".toList) (Config.check c.toJson) := rfl
    exact hgiven.trans (congrArg _ c.check_toJson)

/-- A written document is accepted. -/
lemma ofJson_toJson {d : Document} (h : d.Admitted) : ofJson d.toJson = .ok d.settled := by
  have hnodes := Shape.list_map fun n hn => Node.check_toJson (h.nodes n hn)
  have hedges := Shape.list_map fun c (_ : c ∈ d.edges) => c.check_toJson
  have hmembers : ofJson d.toJson =
      (.ok (fun config nodes edges => Document.mk (some config) nodes edges)
        |> Checked.feed (givenOr [("config".toList, d.config.elim .null Config.toJson),
          ("nodes".toList, .list (d.nodes.map Node.toJson)),
          ("edges".toList, .list (d.edges.map Connection.toJson))] "config".toList Config.empty
          Config.check)
        |> Checked.feed (Checked.under (.member "nodes".toList)
          (Shape.list Node.check (.list (d.nodes.map Node.toJson))))
        |> Checked.feed (Checked.under (.member "edges".toList)
          (Shape.list Connection.check (.list (d.edges.map Connection.toJson))))).mapError
        .invalid := rfl
  rw [hmembers, givenOr_config, hnodes, hedges]
  simp only [List.map_id']
  rfl

/-- A written document has distinct keys. -/
lemma Admitted.distinctKeys_toJson {d : Document} (h : d.Admitted) :
    d.toJson.distinctKeys = true := by
  rw [toJson, Json.distinctKeys_object]
  refine ⟨by simp only [List.map_cons, List.map_nil]; decide, ?_⟩
  simp only [List.mem_cons, List.not_mem_nil, or_false, forall_eq_or_imp, forall_eq,
    Json.distinctKeys_list, List.forall_mem_map]
  refine ⟨?_, fun n hn => (h.nodes n hn).distinctKeys_toJson,
    fun c _ => c.distinctKeys_isWritable_toJson.1⟩
  cases hc : d.config with
  | none => rfl
  | some c => exact Config.distinctKeys_toJson (h.fields c hc)

/-- A document can be written when its configuration can. -/
lemma isWritable_iff (d : Document) :
    d.isWritable = true ↔ ∀ c ∈ d.config, c.toJson.isWritable = true := by
  have hnodes : (Json.list (d.nodes.map Node.toJson)).isWritable = true := by
    rw [Json.isWritable_list, List.forall_mem_map]
    exact fun n _ => n.isWritable_toJson
  have hedges : (Json.list (d.edges.map Connection.toJson)).isWritable = true := by
    rw [Json.isWritable_list, List.forall_mem_map]
    exact fun c _ => c.distinctKeys_isWritable_toJson.2
  have hconfig : (d.config.elim .null Config.toJson).isWritable = true ↔
      ∀ c ∈ d.config, c.toJson.isWritable = true := by
    cases d.config <;> simp [Json.isWritable]
  rw [Document.isWritable, toJson, Json.isWritable_object]
  simp [hnodes, hedges, hconfig]

/-- The integers of a written document are short. -/
lemma Admitted.isWritable {d : Document} (h : d.Admitted) : d.isWritable = true :=
  (isWritable_iff d).2 fun c hc => c.isWritable_toJson_iff.2 fun f hf =>
    f.isWritable_toJson_iff.2 ⟨(h.fields c hc f hf).short, (h.fields c hc f hf).batchSize⟩

/-- The text of an admitted document denotes its interchange value in every style that sets items
off by gaps only. -/
lemma Admitted.jsonOfText_render {d : Document} (h : d.Admitted) {style : Json.Style}
    (hstyle : style.IsBlank) : Json.ofText (d.render style) = .ok d.toJson :=
  Json.ofText_render hstyle h.distinctKeys_toJson h.isWritable

/-- An admitted document can be written, in every style that sets items off by gaps only, and the
text loads as the document with its configuration settled. -/
lemma Admitted.ofText_write? {d : Document} (h : d.Admitted) {style : Json.Style}
    (hstyle : style.IsBlank) :
    d.write? style = some (d.render style) ∧ ofText (d.render style) = .ok d.settled := by
  refine ⟨if_pos h.isWritable, ?_⟩
  rw [ofText, h.jsonOfText_render hstyle]
  exact ofJson_toJson h

/-- A document with one field, whose default is given, and a node at a position that is not
finite. -/
def stray (default : Json) : Document where
  config := some ⟨[], [⟨['f'], true, .object, default, none, some ⟨2, by decide⟩⟩]⟩
  nodes := [⟨['a'], Node.eventKind, some ⟨.nan, .infinite true⟩, ⟨['b'], .given ['"'], ['\n']⟩⟩]
  edges := [⟨[], ['a'], ['c']⟩]

end Document

end EventPipeline
