import EventPipeline.Dictionary
import Mathlib.Tactic.Common
import Mathlib.Data.List.Induction
import Mathlib.Data.List.Perm.Basic

/-!
# Dictionaries built from bindings

A dictionary is built by going through bindings and taking each of them in, with `put` or with
`putNew`. Both ways give the keys in the order in which they first occur (`keys_foldl_put`,
`keys_foldl_putNew`); they differ in which binding of a key counts, the last one or the first one
(`get?_foldl_put`, `get?_foldl_putNew`). A dictionary that has each key once is determined by its
keys and their values (`eq_map_keys`), and the order of its entries makes no difference to the
values (`get?_perm`).
-/

namespace EventPipeline.Dictionary

section Distinct

variable {κ α : Type} [BEq κ] [LawfulBEq κ]

/-- Taking in one more key adds it to the distinct ones unless it is among them. -/
lemma eraseDups_append_singleton (keys : List κ) (key : κ) :
    (keys ++ [key]).eraseDups =
      if key ∈ keys.eraseDups then keys.eraseDups else keys.eraseDups ++ [key] := by
  rw [List.eraseDups_append]
  by_cases h : key ∈ keys <;> simp [List.removeAll, h, List.eraseDups_cons]

/-- The distinct keys of a list occur once. -/
lemma nodup_eraseDups (keys : List κ) : keys.eraseDups.Nodup := by
  induction keys using List.reverseRecOn with
  | nil => simp
  | append_singleton front key ih =>
    rw [eraseDups_append_singleton]
    split
    · exact ih
    · rename_i h
      rw [List.nodup_append]
      refine ⟨ih, by simp, fun a ha b hb => ?_⟩
      rw [List.mem_singleton.1 hb]
      exact fun e => h (e ▸ ha)

/-- The distinct keys of a list are some of them, in their order. -/
lemma eraseDups_sublist (keys : List κ) : keys.eraseDups.Sublist keys := by
  induction keys using List.reverseRecOn with
  | nil => exact List.Sublist.refl []
  | append_singleton front key ih =>
    rw [eraseDups_append_singleton]
    split
    · exact ih.trans (List.sublist_append_left front [key])
    · exact ih.append (List.Sublist.refl [key])

/-- Keys that are distinct already are their own distinct keys. -/
lemma eraseDups_of_nodup {keys : List κ} (h : keys.Nodup) : keys.eraseDups = keys := by
  induction keys using List.reverseRecOn with
  | nil => rfl
  | append_singleton front key ih =>
    rw [List.nodup_append] at h
    have hkey : key ∉ front.eraseDups := fun hmem =>
      h.2.2 key (List.mem_eraseDups.1 hmem) key (List.mem_singleton.2 rfl) rfl
    rw [eraseDups_append_singleton, if_neg hkey, ih h.1]

/-- Keys are told apart just as their images under an injective function are. -/
lemma eraseDups_map {β : Type} [BEq β] [LawfulBEq β] {f : κ → β} (hf : Function.Injective f)
    (keys : List κ) : (keys.map f).eraseDups = keys.eraseDups.map f := by
  induction keys using List.reverseRecOn with
  | nil => rfl
  | append_singleton front key ih =>
    rw [List.map_append, List.map_singleton, eraseDups_append_singleton, ih,
      eraseDups_append_singleton]
    by_cases hkey : key ∈ front.eraseDups
    · rw [if_pos hkey, if_pos (List.mem_map_of_mem hkey)]
    · have himage : f key ∉ front.eraseDups.map f := by
        intro hmem
        obtain ⟨other, hother, heq⟩ := List.mem_map.1 hmem
        exact hkey (hf heq ▸ hother)
      rw [if_neg hkey, if_neg himage, List.map_append, List.map_singleton]

/-- Which keys are distinct does not depend on others that are left out. -/
lemma eraseDups_filter (p : κ → Bool) (keys : List κ) :
    (keys.filter p).eraseDups = keys.eraseDups.filter p := by
  induction keys using List.reverseRecOn with
  | nil => rfl
  | append_singleton front key ih =>
    rw [List.filter_append, eraseDups_append_singleton]
    cases hp : p key with
    | true =>
      rw [List.filter_cons_of_pos hp, List.filter_nil, eraseDups_append_singleton, ih]
      by_cases hkey : key ∈ front <;> simp [hkey, hp]
    | false =>
      rw [List.filter_cons_of_neg (by simp [hp]), List.filter_nil, List.append_nil, ih]
      by_cases hkey : key ∈ front <;> simp [hkey, hp]

/-- Whatever takes in each key once, behind those that are there, gives the keys in the order in
which they first occur. -/
lemma keys_foldl {step : Dictionary κ α → κ × α → Dictionary κ α}
    (h : ∀ d b, (step d b).keys = if b.1 ∈ d.keys then d.keys else d.keys ++ [b.1])
    (bindings : List (κ × α)) :
    (bindings.foldl step []).keys = (bindings.map Prod.fst).eraseDups := by
  induction bindings using List.reverseRecOn with
  | nil => rfl
  | append_singleton front b ih =>
    rw [List.foldl_append, List.foldl_cons, List.foldl_nil, h, ih, List.map_append,
      List.map_singleton, eraseDups_append_singleton]

end Distinct

variable {κ α : Type} [DecidableEq κ]

/-- The value of a key in two dictionaries put together is that of the first one that has it. -/
lemma get?_append (d e : Dictionary κ α) (key : κ) :
    get? (d ++ e) key = (get? d key).or (get? e key) := by
  induction d with
  | nil => rfl
  | cons entry rest ih =>
    rw [List.cons_append, get?_cons, get?_cons, ih]
    split <;> rfl

/-- A key that is not among the keys has no value. -/
lemma get?_eq_none_iff {d : Dictionary κ α} {key : κ} : d.get? key = none ↔ key ∉ d.keys := by
  rw [← contains_iff_mem_keys, contains, Bool.not_eq_true, Option.isSome_eq_false_iff,
    Option.isNone_iff_eq_none]

/-- The value of a key stands among the entries. -/
lemma mem_of_get?_eq_some {d : Dictionary κ α} {key : κ} {value : α}
    (h : d.get? key = some value) : (key, value) ∈ d := by
  induction d with
  | nil => contradiction
  | cons entry rest ih =>
    rw [get?_cons] at h
    split at h
    · rename_i hkey
      rw [hkey, ← Option.some.inj h]
      exact List.mem_cons_self
    · exact List.mem_cons_of_mem _ (ih h)

/-- An entry of distinct keys gives the value of its key. -/
lemma get?_of_mem {d : Dictionary κ α} (h : d.keys.Nodup) {key : κ} {value : α}
    (hmem : (key, value) ∈ d) : d.get? key = some value := by
  induction d with
  | nil => contradiction
  | cons entry rest ih =>
    obtain ⟨hnew, hrest⟩ := List.nodup_cons.1 h
    rw [get?_cons]
    rcases List.mem_cons.1 hmem with rfl | hmem
    · exact if_pos rfl
    · rw [if_neg, ih hrest hmem]
      rintro rfl
      exact hnew (List.mem_map.2 ⟨_, hmem, rfl⟩)

/-- The order of distinct keys makes no difference to their values. -/
lemma get?_perm {d e : Dictionary κ α} (hperm : d.Perm e) (h : d.keys.Nodup) (key : κ) :
    d.get? key = e.get? key := by
  have hkeys : e.keys.Nodup := (hperm.map Prod.fst).nodup_iff.1 h
  cases hd : d.get? key with
  | some value => exact (get?_of_mem hkeys (hperm.subset (mem_of_get?_eq_some hd))).symm
  | none =>
    rw [get?_eq_none_iff] at hd
    exact (get?_eq_none_iff.2 fun hmem => hd ((hperm.map Prod.fst).mem_iff.2 hmem)).symm

/-- An entry makes no difference to the values of other keys. -/
lemma get?_insert_of_ne (before after : Dictionary κ α) {entry : κ × α} {key : κ}
    (h : key ≠ entry.1) : get? (before ++ entry :: after) key = get? (before ++ after) key := by
  rw [get?_append, get?_append, get?_cons, if_neg h]

/-- A binding that is taken in unless the key is bound counts only for a key that is not. -/
lemma get?_putNew (d : Dictionary κ α) (key other : κ) (value : α) :
    (d.putNew key value).get? other =
      (d.get? other).or (if other = key then some value else none) := by
  unfold putNew contains
  split
  · rename_i h
    obtain ⟨v, hv⟩ := Option.isSome_iff_exists.1 h
    by_cases ho : other = key
    · simp [ho, hv]
    · simp [ho]
  · rw [get?_append, get?_cons, get?_nil]

/-- A key that is new comes last. -/
lemma put_of_not_mem {d : Dictionary κ α} {key : κ} (h : key ∉ d.keys) (value : α) :
    d.put key value = d ++ [(key, value)] := by
  induction d with
  | nil => rfl
  | cons entry rest ih =>
    obtain ⟨k, v⟩ := entry
    rw [keys, List.map_cons, List.mem_cons, not_or] at h
    rw [put, if_neg (Ne.symm h.1), ih h.2, List.cons_append]

/-- Bindings of distinct keys are a dictionary as they are. -/
lemma ofBindings_of_nodup {bindings : List (κ × α)} (h : (bindings.map Prod.fst).Nodup) :
    ofBindings bindings = bindings := by
  have hfold : ∀ (front back : List (κ × α)), ((front ++ back).map Prod.fst).Nodup →
      back.foldl (fun (d : Dictionary κ α) b => d.put b.1 b.2) front = front ++ back := by
    intro front back
    induction back generalizing front with
    | nil => simp
    | cons b back ih =>
      intro hnodup
      have hnew : b.1 ∉ keys front := by
        rw [List.map_append, List.map_cons] at hnodup
        intro hmem
        exact (List.nodup_append.1 hnodup).2.2 _ hmem _ List.mem_cons_self rfl
      rw [List.foldl_cons, put_of_not_mem hnew, ih _ (by simpa using hnodup)]
      simp
  exact hfold [] bindings h

section Keys

-- The equality that the distinct keys are told apart by need not be the decided one.
variable [BEq κ] [LawfulBEq κ]

/-- Bindings taken in with `put` give the keys in the order in which they first occur. -/
lemma keys_foldl_put (bindings : List (κ × α)) :
    keys (bindings.foldl (fun (d : Dictionary κ α) b => d.put b.1 b.2) []) =
      (bindings.map Prod.fst).eraseDups :=
  keys_foldl (fun d b => (keys_put d b.1 b.2).trans (by congr)) bindings

/-- Bindings taken in with `putNew` give the keys in the order in which they first occur. -/
lemma keys_foldl_putNew (bindings : List (κ × α)) :
    keys (bindings.foldl (fun (d : Dictionary κ α) b => d.putNew b.1 b.2) []) =
      (bindings.map Prod.fst).eraseDups :=
  keys_foldl (fun d b => (keys_putNew d b.1 b.2).trans (by congr)) bindings

end Keys

/-- Of things that are taken in with `put` behind what is there, each under a key of its own, the
last one of a key counts. -/
lemma get?_foldl_put_from {β : Type} (keyOf : β → κ) (valueOf : β → α) (d : Dictionary κ α)
    (items : List β) (key : κ) :
    get? (items.foldl (fun (d : Dictionary κ α) b => d.put (keyOf b) (valueOf b)) d) key =
      ((items.reverse.find? fun b => keyOf b = key).map valueOf).or (d.get? key) := by
  induction items using List.reverseRecOn with
  | nil => rfl
  | append_singleton front b ih =>
    rw [List.foldl_append, List.foldl_cons, List.foldl_nil, List.reverse_append,
      List.reverse_singleton, List.singleton_append, List.find?_cons]
    by_cases hk : keyOf b = key
    · simp [hk, get?_put_self]
    · rw [get?_put_of_ne _ _ (Ne.symm hk), ih]
      simp [hk]

/-- Of bindings taken in with `put` the last one of a key counts. -/
lemma get?_foldl_put (bindings : List (κ × α)) (key : κ) :
    get? (bindings.foldl (fun (d : Dictionary κ α) b => d.put b.1 b.2) []) key =
      (bindings.reverse.find? fun b => b.1 = key).map Prod.snd := by
  rw [get?_foldl_put_from Prod.fst Prod.snd, get?_nil, Option.or_none]

/-- A dictionary of bindings has each key once. -/
lemma nodup_keys_ofBindings (bindings : List (κ × α)) : (ofBindings bindings).keys.Nodup := by
  rw [ofBindings, keys_foldl_put]
  exact nodup_eraseDups _

/-- The entries of a dictionary of bindings are the last bindings of their keys. -/
lemma mem_ofBindings_iff (bindings : List (κ × α)) {key : κ} {value : α} :
    (key, value) ∈ ofBindings bindings ↔
      (bindings.reverse.find? fun b => b.1 = key).map Prod.snd = some value := by
  rw [← get?_foldl_put]
  exact ⟨get?_of_mem (nodup_keys_ofBindings bindings), mem_of_get?_eq_some⟩

/-- Of bindings taken in with `putNew` the first one of a key counts. -/
lemma get?_foldl_putNew (bindings : List (κ × α)) (key : κ) :
    get? (bindings.foldl (fun (d : Dictionary κ α) b => d.putNew b.1 b.2) []) key =
      (bindings.find? fun b => b.1 = key).map Prod.snd := by
  induction bindings using List.reverseRecOn with
  | nil => rfl
  | append_singleton front b ih =>
    rw [List.foldl_append, List.foldl_cons, List.foldl_nil, get?_putNew, ih, List.find?_append]
    by_cases hk : b.1 = key
    · cases List.find? (fun b => decide (b.1 = key)) front <;> simp [hk]
    · simp [hk, Ne.symm hk]

/-- What bindings give that are taken in with `putNew` is some of them. -/
lemma mem_of_mem_foldl_putNew {bindings : List (κ × α)} {entry : κ × α}
    (h : entry ∈ bindings.foldl (fun (d : Dictionary κ α) b => d.putNew b.1 b.2) []) :
    entry ∈ bindings := by
  induction bindings using List.reverseRecOn with
  | nil => exact h
  | append_singleton front b ih =>
    rw [List.foldl_append, List.foldl_cons, List.foldl_nil, putNew] at h
    split at h
    · exact List.mem_append_left _ (ih h)
    · rcases List.mem_append.1 h with h | h
      · exact List.mem_append_left _ (ih h)
      · exact List.mem_append_right _ h

/-- A dictionary that has each key once is determined by its keys and their values. -/
lemma eq_map_keys {d : Dictionary κ α} (hd : d.keys.Nodup) {value : κ → α}
    (hv : ∀ key ∈ d.keys, d.get? key = some (value key)) :
    d = d.keys.map fun key => (key, value key) := by
  have hself : ∀ entry ∈ d, (entry.1, value entry.1) = entry := by
    intro entry hentry
    have hget := get?_of_mem hd hentry
    rw [hv entry.1 (List.mem_map_of_mem hentry)] at hget
    exact Prod.ext rfl (Option.some.inj hget)
  rw [keys, List.map_map]
  exact ((List.map_congr_left hself).trans (List.map_id d)).symm

end EventPipeline.Dictionary
