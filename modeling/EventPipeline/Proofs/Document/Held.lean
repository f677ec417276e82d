import EventPipeline.Document.Edit
import EventPipeline.Pointy.Reader
import EventPipeline.Proofs.Document.RoundTrip
import EventPipeline.Proofs.Document.Validation
import EventPipeline.Proofs.Json.Parsed

/-!
# Documents that stay loadable

A document is held when each of its nodes has a text for a name and stands on the canvas, and the
defaults of its fields are values of the format. Documents that were loaded or read are held
(`held_of_ofText`, `held_of_read`), and edits keep them so. A held document that can be written at
all loads as itself if it has a configuration and the numbers in its defaults are finite
(`Held.ofText_of_write?`): that its integers are short is then no assumption.
-/

namespace EventPipeline

/-- The items of an updated list are those of the list, or an item of it that was changed. -/
lemma mem_of_mem_updateFirst {α : Type} {p : α → Bool} {f : α → α} {l l' : List α} {a : α}
    (h : updateFirst p f l = some l') (ha : a ∈ l') : a ∈ l ∨ ∃ b ∈ l, a = f b := by
  induction l generalizing l' with
  | nil => contradiction
  | cons b rest ih =>
    rw [updateFirst] at h
    split at h
    · rw [← Option.some.inj h] at ha
      rcases List.mem_cons.1 ha with rfl | ha
      · exact .inr ⟨b, List.mem_cons_self, rfl⟩
      · exact .inl (List.mem_cons_of_mem _ ha)
    · obtain ⟨rest', hrest, rfl⟩ := Option.map_eq_some_iff.1 h
      rcases List.mem_cons.1 ha with rfl | ha
      · exact .inl List.mem_cons_self
      · rcases ih hrest ha with ha | ⟨c, hc, rfl⟩
        · exact .inl (List.mem_cons_of_mem _ ha)
        · exact .inr ⟨c, List.mem_cons_of_mem _ hc, rfl⟩

/-- A value that does not stand for nothing gives a text for a name, if any. -/
lemma EventName.exists_given_of_ofJson? {v : Json} {name : EventName} (h : ofJson? v = some name)
    (hv : v.blank? = none) : ∃ text, name = .given text := by
  unfold ofJson? at h
  split at h
  · exact ⟨_, (Option.some.inj h).symm⟩
  · rw [hv] at h
    contradiction

namespace Document

/-- A document of admitted nodes, whose fields have values of the format for their defaults. -/
structure Held (d : Document) : Prop where
  /-- The objects in the defaults of fields have distinct keys. -/
  keys : ∀ c ∈ d.config, ∀ f ∈ c.fields, f.default.distinctKeys = true
  /-- The nodes are admitted. -/
  nodes : ∀ n ∈ d.nodes, n.Admitted

/-- An empty document is held when its fields allow it. -/
lemma held_empty {config : Config} (h : ∀ f ∈ config.fields, f.default.distinctKeys = true) :
    (Document.empty config).Held :=
  ⟨fun _ hc => Option.some.inj hc ▸ h, fun _ hn => by contradiction⟩

/-- Whether no default of a field holds a number that is not finite. -/
def HasFiniteDefaults (d : Document) : Prop :=
  ∀ c ∈ d.config, ∀ f ∈ c.fields, f.default.finiteOnly = f.default

/-! ## Writing and loading -/

/-- A held document that can be written is admitted. -/
lemma Held.admitted {d : Document} (h : d.Held) (hd : d.isWritable = true) : d.Admitted := by
  refine ⟨fun c hc f hf => ?_, h.nodes⟩
  have hfields := c.isWritable_toJson_iff.1 ((isWritable_iff d).1 hd c hc)
  obtain ⟨hshort, hsize⟩ := f.isWritable_toJson_iff.1 (hfields f hf)
  exact ⟨h.keys c hc f hf, hshort, hsize⟩

/-- A document with a configuration and finite defaults is settled. -/
lemma settled_eq {d : Document} (hconfig : d.config.isSome = true) (hd : d.HasFiniteDefaults) :
    d.settled = d := by
  obtain ⟨config, nodes, edges⟩ := d
  obtain ⟨c, rfl⟩ := Option.isSome_iff_exists.1 hconfig
  have hfields : c.fields.map Field.settled = c.fields := by
    refine (List.map_congr_left fun f hf => ?_).trans (List.map_id _)
    rw [Field.settled, hd c rfl f hf]
    rfl
  rw [settled, withConfig, Option.getD_some, Config.settled, hfields]

/-- A held document that was written loads as itself. -/
lemma Held.ofText_of_write? {d : Document} (h : d.Held) (hconfig : d.config.isSome = true)
    (hd : d.HasFiniteDefaults) {style : Json.Style} (hstyle : style.IsBlank) {s : Text}
    (hs : d.write? style = some s) : ofText s = .ok d := by
  unfold write? at hs
  split at hs
  · rename_i hwritable
    obtain ⟨-, hload⟩ := (h.admitted hwritable).ofText_write? hstyle
    rw [← Option.some.inj hs, hload, settled_eq hconfig hd]
  · contradiction

/-! ## Sources -/

/-- A document that a value denotes is held and has a configuration, if the value has distinct
keys. -/
lemma held_of_ofJson {v : Json} {d : Document} (h : ofJson v = .ok d)
    (hv : v.distinctKeys = true) : d.Held ∧ d.config.isSome = true := by
  obtain ⟨members, rfl, hparts⟩ : ∃ members, v = .object members ∧ ofMembers members = .ok d := by
    cases v with
    | object members => exact ⟨members, rfl, mapError_eq_ok_iff.1 h⟩
    | _ => contradiction
  have hkeys := ((Json.distinctKeys_object members).1 hv).2
  unfold ofMembers at hparts
  simp only [Checked.feed_eq_ok_iff] at hparts
  obtain ⟨edges, _, -, ⟨nodes, _, hnodes, ⟨config, _, hconfig, hmk, rfl⟩, rfl⟩, rfl⟩ := hparts
  rw [← Except.ok.inj hmk]
  refine ⟨⟨fun c hc => ?_, ?_⟩, rfl⟩
  · obtain rfl := Option.some.inj hc
    rcases eq_or_exists_of_givenOr hconfig with rfl | ⟨w, hw, hcheck⟩
    · exact fun f hf => by contradiction
    · exact Config.distinctKeys_of_check hcheck (hkeys _ hw)
  · rcases eq_or_exists_of_givenOr hnodes with rfl | ⟨w, -, hcheck⟩
    · exact fun n hn => by contradiction
    · obtain ⟨values, -, hitems⟩ := Shape.exists_of_list hcheck
      intro n hn
      obtain ⟨u, -, hu⟩ := hitems n hn
      obtain ⟨hname, hposition⟩ := Node.check_eq_ok hu
      exact ⟨hname, hposition⟩

/-- A document that was loaded from a text is held and has a configuration. -/
theorem held_of_ofText {s : Text} {d : Document} (h : ofText s = .ok d) :
    d.Held ∧ d.config.isSome = true := by
  unfold ofText at h
  split at h
  · rename_i hread
    exact held_of_ofJson h (Json.distinctKeys_of_ofText hread)
  · contradiction

/-- A document that was loaded from bytes is held and has a configuration. -/
theorem held_of_ofBytes {bytes : Bytes} {d : Document} (h : ofBytes bytes = .ok d) :
    d.Held ∧ d.config.isSome = true := by
  unfold ofBytes at h
  split at h
  · rename_i hread
    exact held_of_ofJson h (Json.distinctKeys_of_ofBytes hread)
  · contradiction

/-- A document that is taken from a value is held and has a configuration. -/
lemma held_of_ofTextValue {v : Json} {d : Document} (h : ofTextValue v = .ok d) :
    d.Held ∧ d.config.isSome = true := by
  cases v with
  | text s => exact held_of_ofText h
  | _ => contradiction

/-- A node of an event whose name is a text is admitted. -/
lemma admitted_ofEvent {e : Event} (h : ∃ name, e.name = .given name) (position : Position) :
    (Node.ofEvent e position).Admitted :=
  ⟨h, rfl⟩

/-- A document that was read from pointy text is held. -/
theorem held_of_read {strict : Bool} {grid : Grid} {s : Text} {reading : Pointy.Reading}
    (h : Pointy.read strict grid s = .ok reading) : reading.document.Held := by
  obtain ⟨d, hd, rfl⟩ := map_eq_ok_iff.1 h
  obtain ⟨positions, -, rfl⟩ := map_eq_ok_iff.1 hd
  refine ⟨fun c hc => by contradiction, fun n hn => ?_⟩
  obtain ⟨⟨e, p⟩, -, rfl⟩ := List.mem_map.1 hn
  exact admitted_ofEvent ⟨_, rfl⟩ p

/-! ## Edits -/

/-- Another configuration leaves a document held when the fields of it allow it. -/
lemma Held.withConfig {d : Document} (h : d.Held) {config : Option Config}
    (hconfig : ∀ c ∈ config, ∀ f ∈ c.fields, f.default.distinctKeys = true) :
    (d.withConfig config).Held :=
  ⟨hconfig, h.nodes⟩

/-- Other nodes leave a document held when each of them is admitted. -/
lemma Held.withNodes {d : Document} (h : d.Held) {nodes : List Node} (edges : List Connection)
    (hnodes : ∀ n ∈ nodes, n.Admitted) : Held { d with nodes := nodes, edges := edges } :=
  ⟨h.keys, hnodes⟩

/-- Changing a node leaves a document held when the change leaves nodes admitted, and keeps the
configuration. -/
lemma Held.updateNode? {d d' : Document} (h : d.Held) {id : Text} {f : Node → Node}
    (hf : ∀ n, n.Admitted → (f n).Admitted) (hd : d.updateNode? id f = some d') :
    d'.Held ∧ d'.config = d.config := by
  obtain ⟨nodes, hnodes, rfl⟩ := Option.map_eq_some_iff.1 hd
  refine ⟨h.withNodes d.edges fun n hn => ?_, rfl⟩
  rcases mem_of_mem_updateFirst hnodes hn with hn | ⟨m, hm, rfl⟩
  · exact h.nodes n hn
  · exact hf m (h.nodes m hm)

/-- An event with a text for its name leaves a document held. -/
lemma Held.rename? {d d' : Document} (h : d.Held) {id : Text} {name : EventName}
    (hname : ∃ text, name = .given text) (hd : d.rename? id name = some d') :
    d'.Held ∧ d'.config = d.config :=
  h.updateNode? (f := fun n => { n with event := { n.event with name := name } })
    (fun _ hn => ⟨hname, hn.position⟩) hd

/-- Other code leaves a document held. -/
lemma Held.recode? {d d' : Document} (h : d.Held) {id code : Text}
    (hd : d.recode? id code = some d') : d'.Held ∧ d'.config = d.config :=
  h.updateNode? (f := fun n => { n with event := { n.event with code := code } })
    (fun _ hn => ⟨hn.name, hn.position⟩) hd

/-- An event that stays on the canvas leaves a document held. -/
lemma Held.move? {d d' : Document} (h : d.Held) {id : Text} {position : Option Position}
    (hposition : position.isSome = true) (hd : d.move? id position = some d') :
    d'.Held ∧ d'.config = d.config :=
  h.updateNode? (f := fun n => { n with position := position })
    (fun _ hn => ⟨hn.name, hposition⟩) hd

/-- An empty configuration for a missing one leaves a document held. -/
lemma Held.withDefault {d : Document} (h : d.Held) :
    (d.withConfig (some (d.config.getD Config.empty))).Held := by
  refine h.withConfig fun c hc => ?_
  obtain rfl := Option.some.inj hc
  cases hgiven : d.config with
  | none => exact fun f hf => by contradiction
  | some c => exact h.keys c hgiven

end Document

end EventPipeline
