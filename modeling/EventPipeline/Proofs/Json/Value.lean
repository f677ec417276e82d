import EventPipeline.Json
import EventPipeline.Proofs.Dictionary
import Mathlib.Tactic.Common

/-!
# Interchange values part by part

The induction over interchange values, in which a list is reached from its items and an object from
its members, and what the functions that go through a value say about its parts. `distinctKeys` is
the well-formedness that dictionaries have by themselves: no object has two members of one key.
-/

namespace EventPipeline

namespace Json

/-! ## Induction -/

/-- What holds of a list because it holds of the items, of an object because it holds of the values
of its members, and of all other values, holds of every value. -/
@[elab_as_elim]
theorem induction {motive : Json → Prop} (null : motive .null) (bool : ∀ b, motive (.bool b))
    (int : ∀ n, motive (.int n)) (float : ∀ x, motive (.float x)) (text : ∀ s, motive (.text s))
    (list : ∀ items, (∀ v ∈ items, motive v) → motive (.list items))
    (object : ∀ members, (∀ m ∈ members, motive m.2) → motive (.object members)) (v : Json) :
    motive v := by
  match v with
  | .null => exact null
  | .bool b => exact bool b
  | .int n => exact int n
  | .float x => exact float x
  | .text s => exact text s
  | .list items =>
    exact list items fun v _ => induction null bool int float text list object v
  | .object members =>
    exact object members fun m _ => induction null bool int float text list object m.2
termination_by sizeOf v
decreasing_by
  · rename_i hv
    have := List.sizeOf_lt_of_mem hv
    simp only [Json.list.sizeOf_spec]
    omega
  · rename_i hm
    have hmem := List.sizeOf_lt_of_mem hm
    have hvalue : sizeOf m.2 < sizeOf m := by
      cases m
      simp only [Prod.mk.sizeOf_spec]
      omega
    simp only [Json.object.sizeOf_spec]
    omega

/-! ## Keys -/

mutual

/-- Whether no object in a value has two members of one key. -/
def distinctKeys : Json → Bool
  | list items => itemsDistinct items
  | object members => decide (members.map Prod.fst).Nodup && membersDistinct members
  | _ => true

/-- Whether no object in a list of values has two members of one key. -/
def itemsDistinct : List Json → Bool
  | [] => true
  | v :: rest => distinctKeys v && itemsDistinct rest

/-- Whether no object in a list of members has two members of one key. -/
def membersDistinct : List (Text × Json) → Bool
  | [] => true
  | (_, v) :: rest => distinctKeys v && membersDistinct rest

end

/-- A list has distinct keys when its items do. -/
lemma distinctKeys_list (items : List Json) :
    (list items).distinctKeys = true ↔ ∀ v ∈ items, v.distinctKeys = true := by
  rw [distinctKeys]
  induction items with
  | nil => simp [itemsDistinct]
  | cons v rest ih => simp [itemsDistinct, ih]

/-- An object has distinct keys when its own are and the values of its members have them. -/
lemma distinctKeys_object (members : List (Text × Json)) :
    (object members).distinctKeys = true ↔
      (members.map Prod.fst).Nodup ∧ ∀ m ∈ members, m.2.distinctKeys = true := by
  have hmembers : membersDistinct members = true ↔ ∀ m ∈ members, m.2.distinctKeys = true := by
    induction members with
    | nil => simp [membersDistinct]
    | cons m rest ih =>
      obtain ⟨key, v⟩ := m
      rw [membersDistinct, Bool.and_eq_true, ih]
      simp
  rw [distinctKeys, Bool.and_eq_true, decide_eq_true_eq, hmembers]

/-! ## Integers -/

/-- A list is short when its items are. -/
lemma isWritable_list (items : List Json) :
    (list items).isWritable = true ↔ ∀ v ∈ items, v.isWritable = true := by
  rw [isWritable]
  induction items with
  | nil => simp [itemsWritable]
  | cons v rest ih => simp [itemsWritable, ih]

/-- An object is short when the values of its members are. -/
lemma isWritable_object (members : List (Text × Json)) :
    (object members).isWritable = true ↔ ∀ m ∈ members, m.2.isWritable = true := by
  rw [isWritable]
  induction members with
  | nil => simp [membersWritable]
  | cons m rest ih =>
    obtain ⟨key, v⟩ := m
    rw [membersWritable, Bool.and_eq_true, ih]
    simp

/-! ## Numbers that are not finite -/

/-- The numbers of a list are those of its items. -/
lemma finiteOnly_list (items : List Json) :
    (list items).finiteOnly = .list (items.map finiteOnly) := by
  rw [finiteOnly]
  induction items with
  | nil => rfl
  | cons v rest ih =>
    rw [finiteOnlyItems, List.map_cons]
    injection ih with ih
    rw [ih]

/-- The numbers of an object are those of the values of its members. -/
lemma finiteOnly_object (members : List (Text × Json)) :
    (object members).finiteOnly = .object (members.map fun m => (m.1, m.2.finiteOnly)) := by
  rw [finiteOnly]
  induction members with
  | nil => rfl
  | cons m rest ih =>
    obtain ⟨key, v⟩ := m
    rw [finiteOnlyMembers, List.map_cons]
    injection ih with ih
    rw [ih]

/-- Keys that are distinct stay so without the numbers that are not finite. -/
lemma distinctKeys_finiteOnly {v : Json} (h : v.distinctKeys = true) :
    v.finiteOnly.distinctKeys = true := by
  induction v using Json.induction with
  | float x =>
    rw [finiteOnly]
    split <;> rfl
  | list items ih =>
    rw [distinctKeys_list] at h
    rw [finiteOnly_list, distinctKeys_list, List.forall_mem_map]
    exact fun v hv => ih v hv (h v hv)
  | object members ih =>
    rw [distinctKeys_object] at h
    rw [finiteOnly_object, distinctKeys_object, List.forall_mem_map, List.map_map]
    exact ⟨h.1, fun m hm => ih m hm (h.2 m hm)⟩
  | _ => exact h

/-- The integers of a value are those that it has without the numbers that are not finite. -/
lemma isWritable_finiteOnly (v : Json) : v.finiteOnly.isWritable = v.isWritable := by
  induction v using Json.induction with
  | float x =>
    rw [finiteOnly]
    split <;> rfl
  | list items ih =>
    rw [finiteOnly_list, Bool.eq_iff_iff, isWritable_list, isWritable_list, List.forall_mem_map]
    exact forall₂_congr fun v hv => by rw [ih v hv]
  | object members ih =>
    rw [finiteOnly_object, Bool.eq_iff_iff, isWritable_object, isWritable_object,
      List.forall_mem_map]
    exact forall₂_congr fun m hm => by rw [ih m hm]
  | _ => rfl

end Json

end EventPipeline
