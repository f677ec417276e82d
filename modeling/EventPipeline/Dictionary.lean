import EventPipeline.Text

/-!
# Dictionaries

A dictionary is a list of entries in the order in which their keys first came in. `put` replaces
the value of a key where it stands, `putNew` leaves a key that is present alone, and both add a
new key at the end. A dictionary built by either has each key once.

The view of a dictionary is `get?` together with the order of its `keys`; the laws at the end say
what each operation does to the two.
-/

namespace EventPipeline

/-- Entries in the order in which their keys came in. -/
abbrev Dictionary (κ α : Type) := List (κ × α)

namespace Dictionary

variable {κ α : Type} [DecidableEq κ]

/-- The value of a key, if it is present. -/
def get? (d : Dictionary κ α) (key : κ) : Option α :=
  d.lookup key

/-- Whether a key is present. -/
def contains (d : Dictionary κ α) (key : κ) : Bool :=
  (d.get? key).isSome

/-- The keys in order. -/
def keys (d : Dictionary κ α) : List κ :=
  d.map Prod.fst

/-- The dictionary with a key bound to a value: a present key keeps its place. -/
def put : Dictionary κ α → κ → α → Dictionary κ α
  | [], key, value => [(key, value)]
  | (k, v) :: rest, key, value =>
    if k = key then (key, value) :: rest else (k, v) :: put rest key value

/-- The dictionary with a key bound to a value unless it is bound already. -/
def putNew (d : Dictionary κ α) (key : κ) (value : α) : Dictionary κ α :=
  if d.contains key then d else d ++ [(key, value)]

/-- The dictionary without a key. -/
def erase (d : Dictionary κ α) (key : κ) : Dictionary κ α :=
  d.filter fun entry => entry.1 ≠ key

/-- The dictionary of a list of bindings, of which the last one of a key counts. -/
def ofBindings (bindings : List (κ × α)) : Dictionary κ α :=
  bindings.foldl (fun d b => d.put b.1 b.2) []

/-- The dictionary with every value put another way. -/
def mapValues {β : Type} (d : Dictionary κ α) (f : α → β) : Dictionary κ β :=
  List.map (fun entry => (entry.1, f entry.2)) d

/-! ## Laws -/

/-- An empty dictionary has no key. -/
@[simp] theorem get?_nil (key : κ) : get? ([] : Dictionary κ α) key = none := rfl

/-- The first entry of a key gives its value. -/
theorem get?_cons (entry : κ × α) (rest : Dictionary κ α) (key : κ) :
    get? (entry :: rest) key = if key = entry.1 then some entry.2 else get? rest key := by
  obtain ⟨k, v⟩ := entry
  simp only [get?, List.lookup_cons]
  by_cases h : key = k
  · simp [h]
  · simp [h, beq_eq_false_iff_ne.2 h]

/-- A key has the value that it was bound to last. -/
theorem get?_put_self (d : Dictionary κ α) (key : κ) (value : α) :
    (d.put key value).get? key = some value := by
  induction d with
  | nil => simp [put, get?_cons]
  | cons entry rest ih =>
    by_cases h : entry.1 = key
    · simp [put, get?_cons, h]
    · rw [put, if_neg h, get?_cons, if_neg (Ne.symm h), ih]

/-- Binding a key leaves the other keys as they are. -/
theorem get?_put_of_ne (d : Dictionary κ α) {key other : κ} (value : α) (h : other ≠ key) :
    (d.put key value).get? other = d.get? other := by
  induction d with
  | nil => simp [put, get?_cons, h]
  | cons entry rest ih =>
    by_cases hk : entry.1 = key
    · rw [put, if_pos hk, get?_cons, get?_cons, hk, if_neg h, if_neg h]
    · rw [put, if_neg hk, get?_cons, get?_cons, ih]

/-- A key is present when it is one of the keys. -/
theorem contains_iff_mem_keys (d : Dictionary κ α) (key : κ) :
    d.contains key = true ↔ key ∈ d.keys := by
  induction d with
  | nil => simp [contains, keys]
  | cons entry rest ih =>
    rw [contains, get?_cons, keys, List.map_cons, List.mem_cons]
    by_cases h : key = entry.1
    · simp [h]
    · rw [if_neg h, or_iff_right h]
      exact ih

/-- A key that is present keeps its place, and a new one comes last. -/
theorem keys_put (d : Dictionary κ α) (key : κ) (value : α) :
    (d.put key value).keys = if key ∈ d.keys then d.keys else d.keys ++ [key] := by
  induction d with
  | nil => rfl
  | cons entry rest ih =>
    rw [keys] at ih
    by_cases h : entry.1 = key
    · simp [put, keys, h]
    · by_cases hm : key ∈ keys rest <;> simp_all [put, keys, Ne.symm h]

/-- Binding a key unless it is bound has the same effect on the keys. -/
theorem keys_putNew (d : Dictionary κ α) (key : κ) (value : α) :
    (d.putNew key value).keys = if key ∈ d.keys then d.keys else d.keys ++ [key] := by
  by_cases h : key ∈ d.keys
  · rw [putNew, if_pos ((contains_iff_mem_keys d key).2 h), if_pos h]
  · rw [putNew, if_neg (fun hc => h ((contains_iff_mem_keys d key).1 hc)), if_neg h]
    simp [keys]

/-- An entry goes or stays by its own key. -/
theorem erase_cons (entry : κ × α) (rest : Dictionary κ α) (key : κ) :
    erase (entry :: rest) key =
      if entry.1 = key then erase rest key else entry :: erase rest key := by
  by_cases h : entry.1 = key <;> simp [erase, h]

/-- An erased key is gone. -/
theorem get?_erase_self (d : Dictionary κ α) (key : κ) : (d.erase key).get? key = none := by
  induction d with
  | nil => rfl
  | cons entry rest ih =>
    rw [erase_cons]
    by_cases h : entry.1 = key
    · rwa [if_pos h]
    · rw [if_neg h, get?_cons, if_neg (Ne.symm h), ih]

/-- Erasing a key leaves the other keys as they are. -/
theorem get?_erase_of_ne (d : Dictionary κ α) {key other : κ} (h : other ≠ key) :
    (d.erase key).get? other = d.get? other := by
  induction d with
  | nil => rfl
  | cons entry rest ih =>
    rw [erase_cons, get?_cons]
    by_cases hk : entry.1 = key
    · rw [if_pos hk, hk, if_neg h, ih]
    · rw [if_neg hk, get?_cons, ih]

/-- A key that was not bound leaves no trace when it is bound and erased. -/
theorem erase_put {d : Dictionary κ α} {key : κ} (h : d.get? key = none) (value : α) :
    (d.put key value).erase key = d := by
  induction d with
  | nil => simp [put, erase]
  | cons entry rest ih =>
    rw [get?_cons] at h
    have hne : ¬entry.1 = key := fun heq => by simp [heq] at h
    rw [if_neg (Ne.symm hne)] at h
    rw [put, if_neg hne, erase_cons, if_neg hne, ih h]

end Dictionary

end EventPipeline
