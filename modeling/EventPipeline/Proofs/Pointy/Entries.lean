import EventPipeline.Pointy.Reader
import EventPipeline.Proofs.Dictionary

/-!
# What a text says, step by step

The reader goes through the lines of a text with at most one open block. The first half of this
file says what one line does to it; the steps within a block are collected in `entriesFrom_block`,
by which a block of any lines of code, none of which closes it, is one entry with the code of those
lines that are no comments.

The second half describes what is read off the entries. The blocks among them, in order, are all
that matters for the events (`events_eq_map`): the names come in the order in which they first
occur, and the code of a name is that of its last block, or in strict mode of its first one.
-/

namespace EventPipeline.Pointy

/-! ## One line -/

/-- Outside a block, an empty line says nothing. -/
lemma entriesFrom_nil_line (number : Nat) (rest : List Text) :
    entriesFrom none number ([] :: rest) = entriesFrom none (number + 1) rest := by
  rw [entriesFrom]
  rfl

/-- Outside a block, a header opens one. -/
lemma entriesFrom_header {line name : Text} (h : Line.ofText line = .header name) (number : Nat)
    (rest : List Text) :
    entriesFrom none number (line :: rest) =
      entriesFrom (some ⟨name, number, []⟩) (number + 1) rest := by
  rw [entriesFrom, h]

/-- Outside a block, a connection line says that connection. -/
lemma entriesFrom_connection {line source target : Text}
    (h : Line.ofText line = .connection source target) (number : Nat) (rest : List Text) :
    entriesFrom none number (line :: rest) =
      ⟨number, .connection source target⟩ :: entriesFrom none (number + 1) rest := by
  rw [entriesFrom, h]

/-- A line that is only a closing brace ends the open block. -/
lemma entriesFrom_closing {line : Text} (h : isClosing line.trim = true) (b : Block) (number : Nat)
    (rest : List Text) :
    entriesFrom (some b) number (line :: rest) =
      ⟨b.line, .event b.name b.code⟩ :: entriesFrom none (number + 1) rest := by
  rw [entriesFrom, if_pos h]

/-! ## Blocks -/

/-- Lines that do not close the open block are added to it. -/
lemma entriesFrom_body {ls : List Text} (h : ∀ l ∈ ls, isClosing l.trim = false) (b : Block)
    (number : Nat) (rest : List Text) :
    entriesFrom (some b) number (ls ++ rest) =
      entriesFrom (some (ls.foldl Block.add b)) (number + ls.length) rest := by
  induction ls generalizing b number with
  | nil => rfl
  | cons l ls ih =>
    have hl : isClosing l.trim = false := h l List.mem_cons_self
    rw [List.cons_append, entriesFrom, if_neg (by simp [hl]),
      ih fun l' hl' => h l' (List.mem_cons_of_mem l hl')]
    rw [List.foldl_cons, List.length_cons, Nat.add_right_comm, Nat.add_assoc]

/-- Adding lines to a block keeps its name and its place. -/
lemma foldl_add_name_line (ls : List Text) (b : Block) :
    (ls.foldl Block.add b).name = b.name ∧ (ls.foldl Block.add b).line = b.line := by
  induction ls generalizing b with
  | nil => exact ⟨rfl, rfl⟩
  | cons l ls ih =>
    have hb : (b.add l).name = b.name ∧ (b.add l).line = b.line := by
      unfold Block.add
      split <;> exact ⟨rfl, rfl⟩
    rw [List.foldl_cons, (ih (b.add l)).1, (ih (b.add l)).2]
    exact hb

/-- Adding lines to a block adds those that are no comments to its body. -/
lemma body_foldl_add (ls : List Text) (b : Block) :
    (ls.foldl Block.add b).body.reverse =
      b.body.reverse ++ ls.filter fun l => !isComment l.trim := by
  induction ls generalizing b with
  | nil => simp
  | cons l ls ih =>
    rw [List.foldl_cons, ih]
    by_cases hl : isComment l.trim = true <;> simp [Block.add, hl]

/-- A header, lines that do not close the block and a line that does are one entry. -/
lemma entriesFrom_block {header closing name : Text} {ls : List Text}
    (hh : Line.ofText header = .header name) (hls : ∀ l ∈ ls, isClosing l.trim = false)
    (hc : isClosing closing.trim = true) (number : Nat) (rest : List Text) :
    entriesFrom none number (header :: (ls ++ closing :: rest)) =
      ⟨number, .event name (codeOfLines (ls.filter fun l => !isComment l.trim))⟩ ::
        entriesFrom none (number + ls.length + 2) rest := by
  obtain ⟨hname, hline⟩ := foldl_add_name_line ls ⟨name, number, []⟩
  have hbody := body_foldl_add ls ⟨name, number, []⟩
  rw [entriesFrom_header hh, entriesFrom_body hls, entriesFrom_closing hc, Block.code, hname, hline,
    hbody, List.reverse_nil, List.nil_append, Nat.add_right_comm number 1]

/-! ## Events -/

/-- The blocks among entries, by name and code. -/
def blocks (es : List Entry) : List (Text × Text) :=
  es.filterMap fun e => match e.item with
    | .event name code => some (name, code)
    | _ => none

/-- The block of a name whose code counts: the last one, or in strict mode the first one. -/
def countingBlock? (strict : Bool) (es : List Entry) (name : Text) : Option (Text × Text) :=
  (if strict then blocks es else (blocks es).reverse).find? fun b => b.1 = name

/-- The events are what the blocks give when they are taken in one after the other. -/
lemma foldl_addEvent (strict : Bool) (es : List Entry) (d : Dictionary Text Text) :
    es.foldl (addEvent strict) d =
      (blocks es).foldl (fun (d : Dictionary Text Text) b =>
        if strict then d.putNew b.1 b.2 else d.put b.1 b.2) d := by
  induction es generalizing d with
  | nil => rfl
  | cons e es ih =>
    rw [List.foldl_cons, ih]
    obtain ⟨line, item⟩ := e
    cases item <;> rfl

/-- The names of the events are those of the blocks, in the order in which they first occur. -/
lemma keys_events (strict : Bool) (es : List Entry) :
    (events strict es).keys = ((blocks es).map Prod.fst).eraseDups := by
  rw [events, foldl_addEvent]
  cases strict
  · exact Dictionary.keys_foldl_put (blocks es)
  · exact Dictionary.keys_foldl_putNew (blocks es)

/-- The code of an event is that of the block that counts. -/
lemma get?_events (strict : Bool) (es : List Entry) (name : Text) :
    (events strict es).get? name = (countingBlock? strict es name).map Prod.snd := by
  rw [events, foldl_addEvent, countingBlock?]
  cases strict
  · exact Dictionary.get?_foldl_put (blocks es) name
  · exact Dictionary.get?_foldl_putNew (blocks es) name

/-- Every name that a block has, has a block that counts. -/
lemma countingBlock?_isSome {strict : Bool} {es : List Entry} {name : Text}
    (h : name ∈ (blocks es).map Prod.fst) : (countingBlock? strict es name).isSome = true := by
  obtain ⟨b, hb, rfl⟩ := List.mem_map.1 h
  rw [countingBlock?, List.find?_isSome]
  exact ⟨b, by cases strict <;> simpa using hb, by simp⟩

/-- The events are the distinct names of the blocks, each with the code of the block that counts. -/
lemma events_eq_map (strict : Bool) (es : List Entry) :
    events strict es = (((blocks es).map Prod.fst).eraseDups).map fun name =>
      (name, ((countingBlock? strict es name).map Prod.snd).getD []) := by
  have hkeys := keys_events strict es
  have hnodup : (events strict es).keys.Nodup := hkeys ▸ Dictionary.nodup_eraseDups _
  rw [← hkeys]
  refine Dictionary.eq_map_keys hnodup fun name hname => ?_
  rw [hkeys, List.mem_eraseDups] at hname
  have hsome : (countingBlock? strict es name).isSome = true := countingBlock?_isSome hname
  obtain ⟨b, hb⟩ := Option.isSome_iff_exists.1 hsome
  rw [get?_events, hb]
  rfl

end EventPipeline.Pointy
