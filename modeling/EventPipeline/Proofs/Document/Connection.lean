import EventPipeline.Proofs.Json.Number
import EventPipeline.Proofs.Pointy.Form
import EventPipeline.Proofs.Pointy.Remarks
import Mathlib.Data.Finset.Dedup
import Mathlib.Data.Finset.Card

/-!
# Ids of connections

Connecting two events takes the first of the numbered ids that is free, if the plain one is taken.
Some id is free, since no two numbers give the same id and there are more numbers to look at than
ids in use (`connectionId_not_mem`). Looking at one number after the other takes no more steps than
there are different ids in use and stops at the least number whose id is free
(`connectionId_isLeast`).

So a document whose connections are told apart by their ids keeps being one when events are
connected. Edits of events leave connections as they are, and removals only take some of them away.

A text that is read gives its connections ids by their ends alone, without a look at those in use.
Since identifiers hold no hyphen, two of these ids are the same just if the connections are, so they
are told apart just if no connection is declared twice (`nodup_edgeIds_of_read_iff`).

Where ids tell connections apart, removing that of an id removes one connection and leaves all
others (`exists_eq_append_of_removeConnection`).
-/

namespace EventPipeline

/-! ## Numbered ids -/

/-- Numbered ids of one plain id are told apart by their numbers. -/
lemma numberedId_injective (plain : Text) : Function.Injective (numberedId plain) := by
  intro number number' h
  have hdigits : Text.ofNat number = Text.ofNat number' :=
    List.tail_eq_of_cons_eq (List.append_cancel_left h)
  rw [← Text.toNat_ofNat number, hdigits, Text.toNat_ofNat]

/-- A numbered id is longer than its plain id. -/
lemma numberedId_ne (plain : Text) (number : Nat) : numberedId plain number ≠ plain := by
  intro h
  have hnil := List.append_right_eq_self.1 h
  contradiction

/-- The search ends at a number all numbers before which are taken, and which is not taken itself
unless the search has come to its limit. -/
lemma exists_freeNumberedId (plain : Text) (taken : List Text) (limit number : Nat) :
    ∃ found, number ≤ found ∧ freeNumberedId plain taken limit number = numberedId plain found ∧
      (∀ i, number ≤ i → i < found → numberedId plain i ∈ taken) ∧
      (numberedId plain found ∉ taken ∨ found = number + limit) := by
  induction limit generalizing number with
  | zero =>
    refine ⟨number, le_rfl, rfl, fun i hi hlt => ?_, .inr rfl⟩
    omega
  | succ limit ih =>
    rw [freeNumberedId]
    split
    · rename_i htaken
      obtain ⟨found, hle, heq, hbefore, hend⟩ := ih (number + 1)
      refine ⟨found, by omega, heq, fun i hi hlt => ?_, hend.imp_right fun h => by omega⟩
      rcases hi.eq_or_lt with rfl | hi
      · exact htaken
      · exact hbefore i hi hlt
    · rename_i hfree
      refine ⟨number, le_rfl, rfl, fun i hi hlt => ?_, .inl hfree⟩
      omega

/-- When the plain id is taken and the numbered ones in front of a number are, there are at least as
many ids as that number says: no two of these are equal. -/
lemma le_card_of_taken {plain : Text} {taken : List Text} (h : plain ∈ taken) {number : Nat}
    (hnumber : 1 ≤ number) (hall : ∀ i, 1 ≤ i → i < number → numberedId plain i ∈ taken) :
    number ≤ taken.toFinset.card := by
  have hnodup : (plain :: (List.range' 1 (number - 1)).map (numberedId plain)).Nodup := by
    refine List.nodup_cons.2 ⟨fun hmem => ?_, ?_⟩
    · obtain ⟨i, -, hi⟩ := List.mem_map.1 hmem
      exact numberedId_ne plain i hi
    · exact (List.nodup_range' 1 Nat.one_pos).map (numberedId_injective plain)
  have hsubset : plain :: (List.range' 1 (number - 1)).map (numberedId plain) ⊆ taken := by
    refine List.cons_subset.2 ⟨h, fun id hid => ?_⟩
    obtain ⟨i, hi, rfl⟩ := List.mem_map.1 hid
    obtain ⟨hle, hlt⟩ := List.mem_range'_1.1 hi
    exact hall i hle (by omega)
  calc number = (plain :: (List.range' 1 (number - 1)).map (numberedId plain)).length := by
        rw [List.length_cons, List.length_map, List.length_range', Nat.sub_add_cancel hnumber]
    _ = (plain :: (List.range' 1 (number - 1)).map (numberedId plain)).toFinset.card :=
        (List.toFinset_card_of_nodup hnodup).symm
    _ ≤ taken.toFinset.card := Finset.card_le_card fun id hid =>
        List.mem_toFinset.2 (hsubset (List.mem_toFinset.1 hid))

/-- The id that is found for a connection is not taken. -/
lemma connectionId_not_mem (source target : Text) (taken : List Text) :
    connectionId source target taken ∉ taken := by
  unfold connectionId
  dsimp only
  split
  · rename_i hplain
    obtain ⟨found, -, heq, hbefore, hend⟩ :=
      exists_freeNumberedId (plainConnectionId source target) taken taken.length 1
    rw [heq]
    rcases hend with hend | rfl
    · exact hend
    · have hcard := le_card_of_taken hplain (by omega) hbefore
      have hlength := List.toFinset_card_le taken
      omega
  · assumption

/-! ## Searching for a free id -/

/-- A search for an id that is not taken, one id after the other. -/
structure IdSearch where
  /-- The id that is looked at. -/
  id : Text
  /-- The number of the id that comes next. -/
  next : Nat

namespace IdSearch

/-- The search after one more id, which is looked at only if the one before is taken. -/
def goOn? (plain : Text) (taken : List Text) (s : IdSearch) : Option IdSearch :=
  if taken.contains s.id then some ⟨numberedId plain s.next, s.next + 1⟩ else none

/-- The search that has gone on for some steps. -/
inductive Goes (plain : Text) (taken : List Text) : Nat → IdSearch → IdSearch → Prop
  /-- A search that has not gone on is where it was. -/
  | stay (s : IdSearch) : Goes plain taken 0 s s
  /-- A search goes on behind its steps so far. -/
  | goOn {steps : Nat} {s s' s'' : IdSearch} :
    Goes plain taken steps s s' → s'.goOn? plain taken = some s'' →
      Goes plain taken (steps + 1) s s''

variable {plain : Text} {taken : List Text}

/-- A search goes on where the id is taken. -/
lemma goOn?_of_mem {s : IdSearch} (h : s.id ∈ taken) :
    s.goOn? plain taken = some ⟨numberedId plain s.next, s.next + 1⟩ :=
  if_pos (List.contains_iff_mem.2 h)

/-- A search stops where the id is free. -/
lemma goOn?_of_not_mem {s : IdSearch} (h : s.id ∉ taken) : s.goOn? plain taken = none :=
  if_neg fun hcontains => h (List.contains_iff_mem.1 hcontains)

/-- A search that finds the plain id and the numbered ones in front of a number taken comes to that
number. -/
lemma goes_of_taken (h : plain ∈ taken) (number : Nat)
    (hall : ∀ i, 1 ≤ i → i ≤ number → numberedId plain i ∈ taken) :
    Goes plain taken (number + 1) ⟨plain, 1⟩ ⟨numberedId plain (number + 1), number + 2⟩ := by
  induction number with
  | zero => exact .goOn (.stay _) (goOn?_of_mem h)
  | succ number ih =>
    have hbefore := ih fun i hi hle => hall i hi (by omega)
    exact .goOn hbefore (goOn?_of_mem (hall (number + 1) (by omega) le_rfl))

end IdSearch

/-- The search for an id of a connection ends after at most as many steps as there are distinct ids
in use, at an id that is not in use: the plain one if that is free, and otherwise the numbered one
with the least number, counted from one, that is. -/
theorem connectionId_isLeast (source target : Text) (taken : List Text) :
    ∃ steps last, steps ≤ taken.toFinset.card ∧
      IdSearch.Goes (plainConnectionId source target) taken steps
        ⟨plainConnectionId source target, 1⟩ last ∧
      last.goOn? (plainConnectionId source target) taken = none ∧
      last.id = connectionId source target taken ∧
      connectionId source target taken ∉ taken ∧
      (source ++ '-' :: target ∉ taken →
        connectionId source target taken = source ++ '-' :: target) ∧
      (source ++ '-' :: target ∈ taken →
        ∃ k, connectionId source target taken = source ++ '-' :: target ++ '-' :: Text.ofNat k ∧
          IsLeast {k | 1 ≤ k ∧ source ++ '-' :: target ++ '-' :: Text.ofNat k ∉ taken} k) := by
  have hfree := connectionId_not_mem source target taken
  by_cases hplain : plainConnectionId source target ∈ taken
  · obtain ⟨found, hfound, heq, hbefore, -⟩ :=
      exists_freeNumberedId (plainConnectionId source target) taken taken.length 1
    have hid : connectionId source target taken =
        numberedId (plainConnectionId source target) found := by
      rw [connectionId, if_pos hplain, heq]
    rw [hid] at hfree ⊢
    obtain ⟨number, rfl⟩ := Nat.exists_eq_add_of_le' hfound
    have hgoes := IdSearch.goes_of_taken hplain number fun i hi hle => hbefore i hi (by omega)
    refine ⟨number + 1, _, le_card_of_taken hplain hfound hbefore, hgoes,
      IdSearch.goOn?_of_not_mem hfree, rfl, hfree, absurd hplain,
      fun _ => ⟨number + 1, rfl, ⟨hfound, hfree⟩, fun k hk => ?_⟩⟩
    by_contra hlt
    exact hk.2 (hbefore k hk.1 (by omega))
  · have hid : connectionId source target taken = plainConnectionId source target := by
      rw [connectionId, if_neg hplain]
    rw [hid] at hfree ⊢
    exact ⟨0, _, Nat.zero_le _, .stay _, IdSearch.goOn?_of_not_mem hfree, rfl, hfree, fun _ => rfl,
      fun h => absurd h hplain⟩

/-- When the plain id and the first numbered one are taken, more than once and among others, the
second one is found in two steps. -/
example : connectionId ['a'] ['b'] [['a', '-', 'b', '-', '1'], ['a', '-', 'b'], ['c'],
    ['a', '-', 'b'], ['a', '-', 'b', '-', '3']] = ['a', '-', 'b', '-', '2'] := by decide

/-- The plain ids of connections between identifiers are told apart by the ends. -/
lemma plainConnectionId_inj {source target source' target' : Text}
    (hsource : isIdentifier source = true) (htarget : isIdentifier target = true)
    (h : plainConnectionId source target = plainConnectionId source' target') :
    source = source' ∧ target = target' := by
  have hhyphen : ∀ name, isIdentifier name = true → '-' ∉ name := fun name hname hmem =>
    absurd (isIdentifierPart_of_mem hname hmem) (by decide)
  obtain ⟨hs, -, ht⟩ :=
    (List.append_cons_inj_of_notMem (hhyphen source hsource) (hhyphen target htarget)).1 h
  exact ⟨hs, ht⟩

/-! ## Documents -/

namespace Document

/-- The ids of the connections in order. -/
def edgeIds (d : Document) : List Text :=
  d.edges.map Connection.id

variable {d d' : Document}

/-- Changing a node leaves the connections as they are. -/
lemma edges_updateNode? {id : Text} {f : Node → Node} (h : d.updateNode? id f = some d') :
    d'.edges = d.edges := by
  obtain ⟨nodes, -, rfl⟩ := Option.map_eq_some_iff.1 h
  rfl

/-- Taking connections away leaves the others told apart. -/
lemma nodup_edgeIds_of_sublist (h : d.edgeIds.Nodup) (hd : d'.edges.Sublist d.edges) :
    d'.edgeIds.Nodup :=
  h.sublist (hd.map Connection.id)

/-- A new connection is told apart from all others. -/
lemma nodup_edgeIds_addConnection (h : d.edgeIds.Nodup) (source target : Text) :
    (d.addConnection (d.newConnection source target)).edgeIds.Nodup := by
  have hids : (d.addConnection (d.newConnection source target)).edgeIds =
      d.edgeIds ++ [connectionId source target d.edgeIds] := List.map_append
  rw [hids]
  refine List.nodup_append.2 ⟨h, List.nodup_singleton _, fun id hid id' hid' => ?_⟩
  rw [List.mem_singleton.1 hid']
  exact ne_of_mem_of_not_mem hid (connectionId_not_mem source target d.edgeIds)

/-- Where ids tell connections apart, one connection is removed and all others stay. -/
lemma exists_eq_append_of_removeConnection (h : d.edgeIds.Nodup) {id : Text}
    (hsome : (d.connection? id).isSome = true) :
    ∃ front c back, c.id = id ∧ d.edges = front ++ c :: back ∧
      d.removeConnection id = { d with edges := front ++ back } := by
  obtain ⟨c, hc⟩ := Option.isSome_iff_exists.1 hsome
  obtain ⟨hfound, front, back, hedges, -⟩ := List.find?_eq_some_iff_append.1 hc
  have hid : c.id = id := of_decide_eq_true hfound
  -- No other connection has the id.
  have hothers : ∀ e ∈ front ++ back, e.id ≠ id := by
    rw [edgeIds, hedges, List.map_append, List.map_cons, List.nodup_middle, List.nodup_cons,
      ← List.map_append] at h
    intro e he heq
    exact h.1 (List.mem_map.2 ⟨e, he, heq.trans hid.symm⟩)
  have hkept : (front ++ c :: back).filter (fun e => e.id ≠ id) = front ++ back := by
    rw [List.filter_append, List.filter_cons_of_neg (by simpa using hid), ← List.filter_append,
      List.filter_eq_self]
    exact fun e he => decide_eq_true (hothers e he)
  refine ⟨front, c, back, hid, hedges, ?_⟩
  rw [removeConnection, hedges, hkept]

end Document

/-! ## Documents that were read -/

namespace Pointy

/-- The connections of a document that was read are told apart just if the text declares none of
them twice. -/
lemma nodup_edgeIds_of_read_iff {strict : Bool} {grid : Grid} {s : Text} {reading : Reading}
    (h : read strict grid s = .ok reading) :
    reading.document.edgeIds.Nodup ↔ (connectionLines s).Nodup := by
  have hidentifiers : ∀ c ∈ connectionLines s,
      isIdentifier c.1 = true ∧ isIdentifier c.2 = true := by
    intro c hc
    rw [← connections_entries] at hc
    exact isIdentifier_of_mem_connections hc
  rw [Document.edgeIds, edges_of_read h, connections_entries, List.map_map]
  constructor
  · intro hnodup
    exact hnodup.of_map
  · intro hnodup
    refine hnodup.map_on fun c hc c' hc' heq => ?_
    obtain ⟨hsource, htarget⟩ := hidentifiers c hc
    obtain ⟨hs, ht⟩ := plainConnectionId_inj hsource htarget heq
    exact Prod.ext hs ht

end Pointy

end EventPipeline
