import EventPipeline.Json.Parser
import EventPipeline.Proofs.Json.Value
import EventPipeline.Proofs.Result

/-!
# Values that were read

Whatever it came from, a value that was read has distinct keys (`distinctKeys_of_ofText`,
`distinctKeys_of_ofBytes`): the members of an object become a dictionary, in which a key that comes
again takes the place of the first. Only `value` makes objects, so lists of items and of members are
gone through for any property of what is between their separators.
-/

namespace EventPipeline

namespace Dictionary

variable {κ α : Type} [DecidableEq κ]

/-- An entry after a key was bound is the new one or was there before. -/
lemma mem_put {d : Dictionary κ α} {key : κ} {value : α} {entry : κ × α}
    (h : entry ∈ d.put key value) : entry = (key, value) ∨ entry ∈ d := by
  induction d with
  | nil => exact .inl (List.mem_singleton.1 h)
  | cons first rest ih =>
    rw [put] at h
    split at h
    · rcases List.mem_cons.1 h with rfl | h
      · exact .inl rfl
      · exact .inr (List.mem_cons_of_mem _ h)
    · rcases List.mem_cons.1 h with rfl | h
      · exact .inr List.mem_cons_self
      · exact (ih h).imp_right (List.mem_cons_of_mem _)

/-- The entries of a dictionary of bindings are among the bindings. -/
lemma mem_ofBindings {bindings : List (κ × α)} {entry : κ × α} (h : entry ∈ ofBindings bindings) :
    entry ∈ bindings := by
  rw [ofBindings] at h
  induction bindings using List.reverseRecOn with
  | nil => exact h
  | append_singleton front b ih =>
    rw [List.foldl_append, List.foldl_cons, List.foldl_nil] at h
    rcases mem_put h with rfl | h
    · exact List.mem_append_right _ List.mem_cons_self
    · exact List.mem_append_left _ (ih h)

end Dictionary

namespace Json

variable {P : Json → Prop} {item : Text → Reading Json}

/-- Items that were read have what every item has that is read. -/
lemma forall_of_items (hitem : ∀ s v r, item s = .ok (v, r) → P v) {limit : Nat} {s r : Text}
    {vs : List Json} (h : items item limit s = .ok (vs, r)) : ∀ v ∈ vs, P v := by
  induction limit generalizing s vs r with
  | zero => contradiction
  | succ limit ih =>
    rw [items] at h
    split at h
    · contradiction
    rename_i v _ hv
    split at h
    · obtain ⟨rfl, -⟩ := Prod.mk.inj (Except.ok.inj h)
      simpa using hitem _ _ _ hv
    · split at h
      · contradiction
      · rename_i rest _ hrest
        obtain ⟨rfl, -⟩ := Prod.mk.inj (Except.ok.inj h)
        exact List.forall_mem_cons.2 ⟨hitem _ _ _ hv, ih hrest⟩
    · contradiction

/-- Members that were read have values that have what every value has that is read. -/
lemma forall_of_members (hitem : ∀ s v r, item s = .ok (v, r) → P v) {limit : Nat} {s r : Text}
    {ms : List (Text × Json)} (h : members item limit s = .ok (ms, r)) : ∀ m ∈ ms, P m.2 := by
  induction limit generalizing s ms r with
  | zero => contradiction
  | succ limit ih =>
    unfold members at h
    split at h
    on_goal 2 => contradiction
    split at h
    · contradiction
    split at h
    on_goal 2 => contradiction
    split at h
    · contradiction
    rename_i v _ hv
    split at h
    · obtain ⟨rfl, -⟩ := Prod.mk.inj (Except.ok.inj h)
      simpa using hitem _ _ _ hv
    · split at h
      · contradiction
      · rename_i rest _ hrest
        obtain ⟨rfl, -⟩ := Prod.mk.inj (Except.ok.inj h)
        exact List.forall_mem_cons.2 ⟨hitem _ _ _ hv, ih hrest⟩
    · contradiction

/-- A number that was read has no parts. -/
lemma isAtom_of_numberFrom {negative : Bool} {whole rest r : Text} {v : Json}
    (h : numberFrom negative whole rest = .ok (v, r)) : v.isAtom = true := by
  unfold numberFrom at h
  dsimp only at h
  split at h
  · split at h
    · contradiction
    · obtain ⟨rfl, -⟩ := Prod.mk.inj (Except.ok.inj h)
      rfl
  · obtain ⟨rfl, -⟩ := Prod.mk.inj (Except.ok.inj h)
    rfl

/-- A word or a number that was read has no parts. -/
lemma isAtom_of_scalar {s r : Text} {v : Json} (h : scalar s = .ok (v, r)) :
    v.isAtom = true := by
  have hwords : ∀ word ∈ words, word.2.isAtom = true := by decide
  unfold scalar at h
  split at h
  · rename_i word v' hfind
    obtain ⟨rfl, -⟩ := Prod.mk.inj (Except.ok.inj h)
    exact hwords _ (List.mem_of_find?_eq_some hfind)
  · unfold number at h
    dsimp only at h
    split at h
    · exact isAtom_of_numberFrom h
    · -- The number has a sign or has none.
      split at h
      all_goals
        split at h
        · contradiction
        · exact isAtom_of_numberFrom h

/-- What has no parts has no keys. -/
lemma distinctKeys_of_isAtom {v : Json} (h : v.isAtom = true) : v.distinctKeys = true := by
  cases v with
  | list items => contradiction
  | object members => contradiction
  | _ => rfl

/-- A value that was read has distinct keys, however deep it may be nested. -/
lemma distinctKeys_of_value {depth : Nat} {s r : Text} {v : Json}
    (h : value depth s = .ok (v, r)) : v.distinctKeys = true := by
  induction depth generalizing s v r with
  | zero => contradiction
  | succ depth ih =>
    have hitem : ∀ s v r, value depth s = .ok (v, r) → v.distinctKeys = true := fun _ _ _ => ih
    unfold value at h
    split at h
    · obtain ⟨p, -, hp⟩ := map_eq_ok_iff.1 h
      obtain ⟨rfl, -⟩ := Prod.mk.inj hp
      rfl
    · split at h
      · obtain ⟨rfl, -⟩ := Prod.mk.inj (Except.ok.inj h)
        rfl
      · obtain ⟨p, hread, hp⟩ := map_eq_ok_iff.1 h
        obtain ⟨rfl, -⟩ := Prod.mk.inj hp
        exact (distinctKeys_list _).2 (forall_of_items hitem hread)
    · split at h
      · obtain ⟨rfl, -⟩ := Prod.mk.inj (Except.ok.inj h)
        rfl
      · obtain ⟨p, hread, hp⟩ := map_eq_ok_iff.1 h
        obtain ⟨rfl, -⟩ := Prod.mk.inj hp
        have hmembers := forall_of_members hitem hread
        exact (distinctKeys_object _).2 ⟨Dictionary.nodup_keys_ofBindings _,
          fun m hm => hmembers m (Dictionary.mem_ofBindings hm)⟩
    · exact distinctKeys_of_isAtom (isAtom_of_scalar h)

/-- The value of a text in which no mark is looked for has distinct keys. -/
lemma distinctKeys_of_ofUnmarked {s : Text} {v : Json} (h : ofUnmarked s = .ok v) :
    v.distinctKeys = true := by
  have hwhole : whole s = .ok v := by
    rwa [ofUnmarked, mapError_eq_ok_iff] at h
  unfold whole at hwhole
  split at hwhole
  · contradiction
  · rename_i hread
    split at hwhole
    · rw [← Except.ok.inj hwhole]
      exact distinctKeys_of_value hread
    · contradiction

/-- The value of a text has distinct keys. -/
theorem distinctKeys_of_ofText {s : Text} {v : Json} (h : ofText s = .ok v) :
    v.distinctKeys = true := by
  unfold ofText at h
  split at h
  · contradiction
  · exact distinctKeys_of_ofUnmarked h

/-- The value of bytes has distinct keys. -/
theorem distinctKeys_of_ofBytes {bytes : Bytes} {v : Json} (h : ofBytes bytes = .ok v) :
    v.distinctKeys = true := by
  unfold ofBytes at h
  split at h
  · contradiction
  · exact distinctKeys_of_ofUnmarked h

end Json

end EventPipeline
