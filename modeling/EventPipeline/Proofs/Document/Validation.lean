import EventPipeline.Document.Loading
import EventPipeline.Proofs.Json.Value
import EventPipeline.Proofs.Result

/-!
# What the shapes accept

What is known of a value that a shape accepted, and of the part that it denotes: every combinator of
the shapes is inverted once, and the parts are gone through with these. An accepted event has a text
for a name, an accepted node stands on the canvas (`Node.check_eq_ok`), and the default of an
accepted field is a part of the value (`Field.distinctKeys_of_check`).
-/

namespace EventPipeline

/-! ## Combinators -/

section Combinators

variable {α : Type} {a : α}

/-- What is found at the end of a step is accepted when it is accepted. -/
lemma Checked.under_eq_ok_iff {step : Step} {r : Checked α} :
    Checked.under step r = .ok a ↔ r = .ok a :=
  mapError_eq_ok_iff

/-- Accepted items come from values that are accepted. -/
lemma Checked.exists_of_mem_items {check : Json → Checked α} {values : List Json} {index : Nat}
    {items : List α} (h : Checked.items check index values = .ok items) (ha : a ∈ items) :
    ∃ v ∈ values, check v = .ok a := by
  induction values generalizing index items with
  | nil =>
    rw [← Except.ok.inj h] at ha
    contradiction
  | cons v values ih =>
    rw [Checked.items] at h
    simp only [Checked.feed_eq_ok_iff, Checked.under_eq_ok_iff] at h
    obtain ⟨rest, cons, hrest, ⟨first, cons', hfirst, hcons', rfl⟩, rfl⟩ := h
    rw [← Except.ok.inj hcons'] at ha
    rcases List.mem_cons.1 ha with rfl | ha
    · exact ⟨v, List.mem_cons_self, hfirst⟩
    · obtain ⟨w, hw, hcheck⟩ := ih hrest ha
      exact ⟨w, List.mem_cons_of_mem _ hw, hcheck⟩

namespace Shape

/-- An accepted list is a list, and its items come from accepted values. -/
lemma exists_of_list {check : Json → Checked α} {v : Json} {items : List α}
    (h : list check v = .ok items) :
    ∃ values, v = .list values ∧ ∀ a ∈ items, ∃ w ∈ values, check w = .ok a := by
  unfold list at h
  split at h
  · rename_i values
    exact ⟨values, rfl, fun a ha => Checked.exists_of_mem_items h ha⟩
  · contradiction

/-- An accepted object is an object, and its members are accepted. -/
lemma exists_of_object {part : Part} {check : List (Text × Json) → Checked α} {v : Json}
    (h : object part check v = .ok a) : ∃ members, v = .object members ∧ check members = .ok a := by
  unfold object at h
  split at h
  · rename_i members
    exact ⟨members, rfl, h⟩
  · contradiction

/-- A required member is there and accepted. -/
lemma exists_of_required {members : List (Text × Json)} {name : Text} {check : Json → Checked α}
    (h : required members name check = .ok a) :
    ∃ v, Dictionary.get? members name = some v ∧ check v = .ok a := by
  rw [required, Checked.under_eq_ok_iff] at h
  cases hv : Dictionary.get? members name with
  | none =>
    rw [hv] at h
    contradiction
  | some v =>
    rw [hv] at h
    exact ⟨v, rfl, h⟩

/-- An optional member has its value for being missing, or is there and accepted. -/
lemma eq_or_exists_of_optional {members : List (Text × Json)} {name : Text} {value : α}
    {check : Json → Checked α} (h : optional members name value check = .ok a) :
    a = value ∨ ∃ v, Dictionary.get? members name = some v ∧ check v = .ok a := by
  unfold optional at h
  cases hv : Dictionary.get? members name with
  | none =>
    rw [hv] at h
    exact .inl (Except.ok.inj h).symm
  | some v =>
    rw [hv] at h
    exact .inr ⟨v, rfl, Checked.under_eq_ok_iff.1 h⟩

end Shape

/-- A part of a document has its value for being missing, or is there and accepted. -/
lemma Document.eq_or_exists_of_givenOr {members : List (Text × Json)} {name : Text} {value : α}
    {check : Json → Checked α} (h : Document.givenOr members name value check = .ok a) :
    a = value ∨ ∃ v, (name, v) ∈ members ∧ check v = .ok a := by
  unfold Document.givenOr Document.givenMember? at h
  split at h
  · rename_i v hv
    split at hv
    · contradiction
    · exact .inr ⟨v, Dictionary.mem_of_get?_eq_some hv, Checked.under_eq_ok_iff.1 h⟩
  · exact .inl (Except.ok.inj h).symm

end Combinators

/-! ## Parts -/

/-- The default of an accepted field is a part of the value. -/
lemma Field.distinctKeys_of_check {v : Json} {f : Field} (h : Field.check v = .ok f)
    (hv : v.distinctKeys = true) : f.default.distinctKeys = true := by
  obtain ⟨members, rfl, hparts⟩ := Shape.exists_of_object h
  simp only [Checked.feed_eq_ok_iff] at hparts
  obtain ⟨size, _, -, ⟨processor, _, -, ⟨default, _, hdefault, ⟨type, _, -, ⟨required, _, -,
    ⟨name, _, -, hmk, rfl⟩, rfl⟩, rfl⟩, rfl⟩, rfl⟩, rfl⟩ := hparts
  rw [← Except.ok.inj hmk]
  rcases Shape.eq_or_exists_of_optional hdefault with rfl | ⟨w, hw, hok⟩
  · rfl
  · rw [← Except.ok.inj hok]
    exact ((Json.distinctKeys_object members).1 hv).2 _ (Dictionary.mem_of_get?_eq_some hw)

/-- The defaults of the fields of an accepted configuration are parts of the value. -/
lemma Config.distinctKeys_of_check {v : Json} {c : Config} (h : Config.check v = .ok c)
    (hv : v.distinctKeys = true) : ∀ f ∈ c.fields, f.default.distinctKeys = true := by
  obtain ⟨members, rfl, hparts⟩ := Shape.exists_of_object h
  simp only [Checked.feed_eq_ok_iff] at hparts
  obtain ⟨fields, _, hfields, ⟨name, _, -, hmk, rfl⟩, rfl⟩ := hparts
  rw [← Except.ok.inj hmk]
  rcases Shape.eq_or_exists_of_optional hfields with rfl | ⟨w, hw, hlist⟩
  · exact fun f hf => by contradiction
  · have hkeys := ((Json.distinctKeys_object members).1 hv).2 _ (Dictionary.mem_of_get?_eq_some hw)
    obtain ⟨values, rfl, hitems⟩ := Shape.exists_of_list hlist
    intro f hf
    obtain ⟨u, hu, hcheck⟩ := hitems f hf
    exact Field.distinctKeys_of_check hcheck ((Json.distinctKeys_list values).1 hkeys u hu)

/-- An accepted event has a text for a name. -/
lemma Event.exists_name_of_check {v : Json} {e : Event} (h : Event.check v = .ok e) :
    ∃ name, e.name = .given name := by
  obtain ⟨members, rfl, hparts⟩ := Shape.exists_of_object h
  simp only [Checked.feed_eq_ok_iff] at hparts
  obtain ⟨code, _, -, ⟨name, _, hname, ⟨id, _, -, hmk, rfl⟩, rfl⟩, rfl⟩ := hparts
  rw [← Except.ok.inj hmk]
  obtain ⟨w, -, hw⟩ := Shape.exists_of_required hname
  cases w with
  | text s => exact ⟨s, (Except.ok.inj hw).symm⟩
  | _ => contradiction

/-- An accepted node has a text for a name and stands on the canvas. -/
lemma Node.check_eq_ok {v : Json} {n : Node} (h : Node.check v = .ok n) :
    (∃ name, n.event.name = .given name) ∧ n.position.isSome = true := by
  obtain ⟨members, rfl, hparts⟩ := Shape.exists_of_object h
  simp only [Checked.feed_eq_ok_iff] at hparts
  obtain ⟨event, _, hdata, ⟨position, _, hposition, ⟨kind, _, -, ⟨id, _, -, hmk, rfl⟩, rfl⟩, rfl⟩,
    rfl⟩ := hparts
  rw [← Except.ok.inj hmk]
  constructor
  · obtain ⟨w, -, hw⟩ := Shape.exists_of_required hdata
    obtain ⟨members', rfl, hevent⟩ := Shape.exists_of_object hw
    obtain ⟨u, -, hu⟩ := Shape.exists_of_required hevent
    exact Event.exists_name_of_check hu
  · rcases Shape.eq_or_exists_of_optional hposition with rfl | ⟨w, -, hw⟩
    · rfl
    · obtain ⟨p, -, rfl⟩ := map_eq_ok_iff.1 hw
      rfl

end EventPipeline
