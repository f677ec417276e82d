import EventPipeline.Dot
import EventPipeline.Proofs.Document.WellFormed
import EventPipeline.Text.Search

/-!
# A drawing determines the graph

The text of a drawing can be taken apart again in one way only, whatever ids and names stand in it.
A text in quotes ends at the first quote that is not escaped, and the lines of nodes and of edges
differ behind the first text in quotes. So two documents are drawn alike just if the names of their
node ids are the same and so are the pairs of connected ids, each once (`write_eq_write_iff`).

All of this is about things that are written one after the other so that each is seen to end
(`IsPrefixCode`): the characters of a text in quotes, the texts themselves, and the lines. That a
text in quotes is escaped character by character comes to the same as two replacements in the whole
of it, of the backslashes first and of the quotes then (`quote_eq_replaced`).
-/

namespace EventPipeline

/-! ## Replaced characters -/

namespace Text

/-- Cutting a text at every occurrence of a character and joining the pieces with another text puts
that text in the place of the character. -/
lemma join_cutAt_singleton (c : Char) (other : Text) {limit : Nat} {s : Text}
    (h : s.count c ≤ limit) :
    join other (cutAt [c] limit 0 s) = s.flatMap fun d => if d = c then other else [d] := by
  induction s generalizing limit with
  | nil => simp [cutAt, join]
  | cons d rest ih =>
    rw [List.flatMap_cons]
    by_cases hd : d = c
    · subst hd
      rw [List.count_cons_self] at h
      obtain ⟨limit, rfl⟩ : ∃ n, limit = n + 1 := Nat.exists_eq_add_one.2 (by omega)
      obtain ⟨piece, pieces, hpieces⟩ :=
        List.exists_cons_of_ne_nil (cutAt_ne_nil [d] limit 0 rest)
      have hcut : cutAt [d] (limit + 1) 0 (d :: rest) = [] :: cutAt [d] limit 0 rest := by
        simp [cutAt]
      rw [hcut, if_pos rfl, ← ih (Nat.le_of_succ_le_succ h), hpieces]
      exact List.intercalate_cons_cons
    · rw [List.count_cons_of_ne hd] at h
      rw [if_neg hd, ← ih h, List.singleton_append]
      cases limit with
      | zero => cases rest <;> simp [cutAt, join]
      | succ limit =>
        have hcut : cutAt [c] (limit + 1) 0 (d :: rest) =
            (cutAt [c] (limit + 1) 0 rest).modifyHead (d :: ·) := by
          simp [cutAt, Ne.symm hd]
        rw [hcut, join_modifyHead other d (cutAt_ne_nil _ _ _ _)]

/-- Replacing a character as often as it occurs replaces every one. -/
lemma replaced_singleton (c : Char) (other : Text) {limit : Nat} {s : Text}
    (h : s.count c ≤ limit) :
    replaced [c] other limit s = s.flatMap fun d => if d = c then other else [d] :=
  join_cutAt_singleton c other h

end Text

/-! ## Texts one after the other -/

/-- A way to write things such that the end of each is seen, whatever stands behind it. -/
def IsPrefixCode {α : Type} (f : α → Text) : Prop :=
  ∀ a b rest rest', f a ++ rest = f b ++ rest' → a = b ∧ rest = rest'

namespace IsPrefixCode

variable {α : Type} {f : α → Text}

/-- Things that are written alike are the same. -/
lemma injective (hf : IsPrefixCode f) : Function.Injective f := by
  intro a b h
  exact (hf a b [] [] (by rw [h])).1

/-- Things are told apart, and so is what stands behind the last of them, if that does not begin as
another thing does. -/
lemma flatMap_append (hf : IsPrefixCode f) {stop stop' : Text}
    (hstop : ∀ a rest, f a ++ rest ≠ stop) (hstop' : ∀ a rest, f a ++ rest ≠ stop')
    {l l' : List α} (h : l.flatMap f ++ stop = l'.flatMap f ++ stop') : l = l' ∧ stop = stop' := by
  induction l generalizing l' with
  | nil =>
    cases l' with
    | nil => exact ⟨rfl, h⟩
    | cons b rest' =>
      rw [List.flatMap_nil, List.nil_append, List.flatMap_cons, List.append_assoc] at h
      exact absurd h.symm (hstop b _)
  | cons a rest ih =>
    cases l' with
    | nil =>
      rw [List.flatMap_nil, List.nil_append, List.flatMap_cons, List.append_assoc] at h
      exact absurd h (hstop' a _)
    | cons b rest' =>
      simp only [List.flatMap_cons, List.append_assoc] at h
      obtain ⟨rfl, htail⟩ := hf a b _ _ h
      obtain ⟨rfl, hend⟩ := ih htail
      exact ⟨rfl, hend⟩

end IsPrefixCode

namespace Dot

/-! ## Texts in quotes -/

/-- An escaped character is seen to end. -/
lemma isPrefixCode_escapeChar : IsPrefixCode escapeChar := by
  intro c c' rest rest' h
  unfold escapeChar at h
  split_ifs at h with hc hc'
  · -- Both are escaped, so the second characters tell.
    simp only [List.cons_append, List.nil_append, List.cons.injEq, true_and] at h
    exact h
  · -- Only the first one is escaped, but a backslash never stands for itself.
    simp only [List.cons_append, List.nil_append, List.cons.injEq] at h
    exact absurd (Or.inl h.1.symm) hc'
  · simp only [List.cons_append, List.nil_append, List.cons.injEq] at h
    exact absurd (Or.inl h.1) hc
  · simp only [List.cons_append, List.nil_append, List.cons.injEq] at h
    exact h

/-- No escaped character begins with a quote. -/
lemma escapeChar_append_ne (c : Char) (rest rest' : Text) :
    escapeChar c ++ rest ≠ '"' :: rest' := by
  intro h
  unfold escapeChar at h
  split_ifs at h with hc
  · simp at h
  · simp only [List.cons_append, List.cons.injEq] at h
    exact hc (Or.inr h.1)

/-- A text in quotes is seen to end. -/
lemma isPrefixCode_quote : IsPrefixCode quote := by
  intro s s' rest rest' h
  simp only [quote, List.cons_append, List.append_assoc, List.cons.injEq, true_and,
    List.nil_append] at h
  obtain ⟨hs, hrest⟩ := isPrefixCode_escapeChar.flatMap_append
    (fun c r => escapeChar_append_ne c r rest) (fun c r => escapeChar_append_ne c r rest') h
  exact ⟨hs, (List.cons.inj hrest).2⟩

/-- A text in quotes has its backslashes doubled first, and then its quotes escaped. -/
theorem quote_eq_replaced (s : Text) :
    quote s = '"' :: (Text.replaced ['"'] ['\\', '"'] s.length
      (Text.replaced ['\\'] ['\\', '\\'] s.length s) ++ ['"']) := by
  -- Doubling a backslash makes no quote.
  have hquotes : (s.flatMap fun d => if d = '\\' then ['\\', '\\'] else [d]).count '"' ≤
      s.length := by
    induction s with
    | nil => exact le_rfl
    | cons c rest ih =>
      rw [List.flatMap_cons, List.count_append, List.length_cons]
      have hc : (if c = '\\' then ['\\', '\\'] else [c]).count '"' ≤ 1 := by
        split
        · exact Nat.zero_le 1
        · exact List.count_le_length
      omega
  have hescaped : s.flatMap escapeChar =
      (s.flatMap fun d => if d = '\\' then ['\\', '\\'] else [d]).flatMap fun d =>
        if d = '"' then ['\\', '"'] else [d] := by
    rw [List.flatMap_assoc]
    refine List.flatMap_congr fun c _ => ?_
    unfold escapeChar
    by_cases hbackslash : c = '\\'
    · subst hbackslash
      rfl
    · by_cases hquote : c = '"'
      · subst hquote
        rfl
      · simp [hbackslash, hquote]
  rw [quote, hescaped, Text.replaced_singleton '\\' _ List.count_le_length,
    Text.replaced_singleton '"' _ hquotes]

/-! ## Lines -/

/-- What stands between the two texts of a line and behind them. -/
lemma quote_between {first first' second second' between rest rest' : Text}
    (h : quote first ++ (between ++ (quote second ++ rest)) =
      quote first' ++ (between ++ (quote second' ++ rest'))) :
    first = first' ∧ second = second' ∧ rest = rest' := by
  obtain ⟨rfl, hbetween⟩ := isPrefixCode_quote _ _ _ _ h
  obtain ⟨rfl, hrest⟩ := isPrefixCode_quote _ _ _ _ (List.append_cancel_left hbetween)
  exact ⟨rfl, rfl, hrest⟩

/-- The line of a node is seen to end. -/
lemma isPrefixCode_nodeLine : IsPrefixCode fun n : Text × Text => nodeLine n.1 n.2 := by
  intro n n' rest rest' h
  simp only [nodeLine, List.cons_append, List.append_assoc, List.cons.injEq, true_and] at h
  obtain ⟨hid, hname, hend⟩ := quote_between h
  simp only [List.cons.injEq, List.nil_append, true_and] at hend
  exact ⟨Prod.ext hid hname, hend⟩

/-- The line of an edge is seen to end. -/
lemma isPrefixCode_edgeLine : IsPrefixCode fun e : Text × Text => edgeLine e.1 e.2 := by
  intro e e' rest rest' h
  simp only [edgeLine, List.cons_append, List.append_assoc, List.cons.injEq, true_and] at h
  obtain ⟨hsource, htarget, hend⟩ := quote_between h
  simp only [List.cons.injEq, List.nil_append, true_and] at hend
  exact ⟨Prod.ext hsource htarget, hend⟩

/-- The line of a node is none of an edge: behind the first id stands a bracket or an arrow. -/
lemma nodeLine_append_ne (n e : Text × Text) (rest rest' : Text) :
    nodeLine n.1 n.2 ++ rest ≠ edgeLine e.1 e.2 ++ rest' := by
  intro h
  simp only [nodeLine, edgeLine, List.cons_append, List.append_assoc, List.cons.injEq,
    true_and] at h
  obtain ⟨-, hbehind⟩ := isPrefixCode_quote _ _ _ _ h
  simp at hbehind

/-- The line of a node does not begin with the brace behind the graph. -/
lemma nodeLine_append_ne_brace (n : Text × Text) (rest : Text) :
    nodeLine n.1 n.2 ++ rest ≠ ['}'] := by
  simp [nodeLine]

/-- The line of an edge does not begin with the brace behind the graph. -/
lemma edgeLine_append_ne_brace (e : Text × Text) (rest : Text) :
    edgeLine e.1 e.2 ++ rest ≠ ['}'] := by
  simp [edgeLine]

/-- What stands behind the lines of the nodes begins with no further one. -/
lemma nodeLine_append_ne_edges (n : Text × Text) (es : List (Text × Text)) (rest : Text) :
    nodeLine n.1 n.2 ++ rest ≠ es.flatMap (fun e => edgeLine e.1 e.2) ++ ['}'] := by
  cases es with
  | nil => exact nodeLine_append_ne_brace n rest
  | cons e es =>
    rw [List.flatMap_cons, List.append_assoc]
    exact nodeLine_append_ne n e rest _

end Dot

/-! ## Documents -/

namespace Document

variable {d : Document}

/-- Every node id is named once, in the order of the nodes. -/
lemma keys_names (d : Document) : d.names.keys = d.nodeIds.eraseDups := by
  rw [d.names_eq_foldl, Dictionary.keys_foldl_putNew, List.map_map]
  rfl

/-- The names of node ids are those of nodes. -/
lemma exists_node_of_mem_names {n : Text × EventName} (h : n ∈ d.names) :
    ∃ m ∈ d.nodes, n = (m.id, m.event.name) := by
  rw [d.names_eq_foldl] at h
  obtain ⟨m, hm, rfl⟩ := List.mem_map.1 (Dictionary.mem_of_mem_foldl_putNew h)
  exact ⟨m, hm, rfl⟩

/-- A document whose events all have texts for names. -/
def HasTextNames (d : Document) : Prop :=
  ∀ e ∈ d.events, ∃ name, e.name = .given name

/-- A text for a name is not null. -/
lemma HasTextNames.isNull (h : d.HasTextNames) : ∀ e ∈ d.events, e.name.isNull = false := by
  intro e he
  obtain ⟨name, hname⟩ := h e he
  rw [hname]
  rfl

/-- The names of the node ids of such a document are known from their texts. -/
lemma HasTextNames.names_eq (h : d.HasTextNames) :
    d.names = (d.names.map fun n => (n.1, n.2.text)).map fun n => (n.1, .given n.2) := by
  rw [List.map_map]
  symm
  refine (List.map_congr_left fun n hn => ?_).trans (List.map_id _)
  obtain ⟨m, hm, rfl⟩ := exists_node_of_mem_names hn
  obtain ⟨name, hname⟩ := h m.event (List.mem_map_of_mem hm)
  simp [hname, EventName.text]

end Document

namespace Dot

/-- The connections between nodes of the document. -/
def kept (d : Document) : List Connection :=
  d.edges.filter fun c => d.names.contains c.source && d.names.contains c.target

/-- The lines of the node ids, whether some are equal or not. -/
def nodeLines (d : Document) : List Text :=
  d.names.map fun n => nodeLine n.1 n.2.text

/-- The lines of the connections that are kept, whether some are equal or not. -/
def edgeLines (d : Document) : List Text :=
  (kept d).map fun c => edgeLine c.source c.target

/-- Connections are kept just if their ends are nodes. -/
lemma kept_eq (d : Document) :
    kept d = d.edges.filter fun c => (d.node? c.source).isSome && (d.node? c.target).isSome := by
  have hcontains : ∀ id, d.names.contains id = (d.node? id).isSome := by
    intro id
    rw [Dictionary.contains, d.get?_names, Option.isSome_map]
  simp only [kept, hcontains]

/-- The pairs of connected ids are those of the connections that are kept, each once. -/
lemma edges_eq (d : Document) :
    edges d = ((kept d).map fun c => (c.source, c.target)).eraseDups := by
  have hcontains : ∀ id, d.names.keys.contains id = d.names.contains id := by
    intro id
    rw [Bool.eq_iff_iff, List.contains_iff_mem, Dictionary.contains_iff_mem_keys]
  simp only [edges, kept, List.filter_map, hcontains, Function.comp_def]

/-- The lines of the node ids are those of the ids and the texts of their names. -/
lemma nodeLines_eq (d : Document) :
    nodeLines d = (d.names.map fun n => (n.1, n.2.text)).map fun n => nodeLine n.1 n.2 := by
  rw [List.map_map]
  rfl

/-- No two lines of node ids are equal. -/
lemma nodup_nodeLines (d : Document) : (nodeLines d).Nodup := by
  have hkeys : ((d.names.map fun n => (n.1, n.2.text)).map Prod.fst).Nodup := by
    have hfirst : (d.names.map fun n => (n.1, n.2.text)).map Prod.fst = d.names.keys := by
      rw [List.map_map]
      rfl
    rw [hfirst, d.keys_names]
    exact Dictionary.nodup_eraseDups d.nodeIds
  rw [nodeLines_eq]
  exact (List.Nodup.of_map _ hkeys).map isPrefixCode_nodeLine.injective

/-- Equal lines are those of equal pairs, so collapsing one is collapsing the other. -/
lemma eraseDups_edgeLines (d : Document) :
    (edgeLines d).eraseDups = (edges d).map fun e => edgeLine e.1 e.2 := by
  have hlines : edgeLines d =
      ((kept d).map fun c => (c.source, c.target)).map fun e => edgeLine e.1 e.2 := by
    rw [List.map_map]
    rfl
  rw [hlines, Dictionary.eraseDups_map isPrefixCode_edgeLine.injective, edges_eq]

/-- The drawing is made of all lines, of which equal ones are collapsed. -/
lemma write_eq_flatten (d : Document) :
    write d =
      header ++ (nodeLines d).eraseDups.flatten ++ (edgeLines d).eraseDups.flatten ++ ['}'] := by
  rw [Dictionary.eraseDups_of_nodup (nodup_nodeLines d), eraseDups_edgeLines, nodeLines,
    ← List.flatMap_def, ← List.flatMap_def]
  rfl

/-- Documents that are drawn alike have the same ids with the same texts for names, and the same
pairs of connected ids. -/
lemma eq_of_write_eq {d d' : Document} (h : write d = write d') :
    (d.names.map fun n => (n.1, n.2.text)) = (d'.names.map fun n => (n.1, n.2.text)) ∧
      edges d = edges d' := by
  have hlines : ∀ d : Document, write d = header ++
      ((d.names.map fun n => (n.1, n.2.text)).flatMap (fun n => nodeLine n.1 n.2) ++
        ((edges d).flatMap (fun e => edgeLine e.1 e.2) ++ ['}'])) := by
    intro d
    rw [write, List.flatMap_map, List.append_assoc, List.append_assoc]
  rw [hlines d, hlines d'] at h
  obtain ⟨hnodes, hbehind⟩ := isPrefixCode_nodeLine.flatMap_append
    (fun n rest => nodeLine_append_ne_edges n _ rest)
    (fun n rest => nodeLine_append_ne_edges n _ rest) (List.append_cancel_left h)
  obtain ⟨hedges, -⟩ := isPrefixCode_edgeLine.flatMap_append
    edgeLine_append_ne_brace edgeLine_append_ne_brace hbehind
  exact ⟨hnodes, hedges⟩

/-- The connections that are kept are those of which a line of pointy text is written, if no name is
null. -/
lemma kept_eq_filter_endNames? {d : Document} (h : ∀ e ∈ d.events, e.name.isNull = false) :
    kept d = d.edges.filter fun c => (Pointy.endNames? d.names c).isSome := by
  rw [kept_eq]
  refine List.filter_congr fun c _ => ?_
  rw [Pointy.endNames?, Pointy.endName?_names h, Pointy.endName?_names h]
  cases (d.node? c.source).isSome <;> cases (d.node? c.target).isSome <;> rfl

/-- Two documents whose names are texts are drawn alike just if they have the same names of node
ids, in the same order, and the same pairs of connected ids, each once. An id is named once, by the
first node that has it, and the pairs are those of the connections between nodes. Collapsing these
pairs is collapsing the lines that are drawn of them, and the connections that are collapsed are
those of which pointy text has a line. -/
theorem write_eq_write_iff {d d' : Document} (hd : d.HasTextNames) (hd' : d'.HasTextNames) :
    (write d = write d' ↔ d.names = d'.names ∧ edges d = edges d') ∧
    (d.names.keys = d.nodeIds.eraseDups ∧
      ∀ id, d.names.get? id = (d.node? id).map fun n => n.event.name) ∧
    (edges d = ((kept d).map fun c => (c.source, c.target)).eraseDups ∧
      write d =
        header ++ (nodeLines d).eraseDups.flatten ++ (edgeLines d).eraseDups.flatten ++ ['}']) ∧
    kept d = d.edges.filter (fun c => (Pointy.endNames? d.names c).isSome) ∧
    Pointy.write d = d.events.flatMap Pointy.block ++ (kept d).flatMap fun c =>
      Pointy.link (Pointy.nameOfNode d c.source) (Pointy.nameOfNode d c.target) := by
  refine ⟨⟨fun h => ?_, fun ⟨hnames, hedges⟩ => ?_⟩, ⟨d.keys_names, d.get?_names⟩,
    ⟨edges_eq d, write_eq_flatten d⟩, kept_eq_filter_endNames? hd.isNull, ?_⟩
  · obtain ⟨hnames, hedges⟩ := eq_of_write_eq h
    refine ⟨?_, hedges⟩
    rw [hd.names_eq, hd'.names_eq, hnames]
  · rw [write, write, hnames, hedges]
  · rw [Pointy.write, Pointy.links_eq hd.isNull, ← kept_eq, List.flatMap_map]

/-- A document of the events `a` and `b`, the first of which is connected with the second one twice
and with an event that there is not. -/
def honest : Document where
  config := none
  nodes := [⟨['a'], Node.eventKind, none, ⟨['a'], .given ['f'], []⟩⟩,
    ⟨['b'], Node.eventKind, none, ⟨['b'], .given ['g'], []⟩⟩]
  edges := [⟨['1'], ['a'], ['b']⟩, ⟨['2'], ['a'], ['c']⟩, ⟨['3'], ['a'], ['b']⟩]

/-- A document of one event, whose name reads like the rest of that drawing. -/
def spoofing : Document where
  config := none
  nodes := [⟨['a'], Node.eventKind, none,
    ⟨['a'], .given "f\"]\n\t\"b\" [label=\"g\"]\n\t\"a\" -> \"b".toList, []⟩⟩]
  edges := []

/-- A name cannot stand in for other events or for a connection, and of the connections of the first
document two are kept and drawn as one. -/
theorem write_eq_write_iff_spoofing :
    honest.HasTextNames ∧ spoofing.HasTextNames ∧ write honest ≠ write spoofing ∧
      kept honest = [⟨['1'], ['a'], ['b']⟩, ⟨['3'], ['a'], ['b']⟩] ∧
      edges honest = [(['a'], ['b'])] ∧
      Pointy.write honest = honest.events.flatMap Pointy.block ++ "f -> g\nf -> g\n".toList := by
  have hhonest : honest.HasTextNames := by
    simp [Document.HasTextNames, Document.events, honest]
  have hspoofing : spoofing.HasTextNames := by
    simp [Document.HasTextNames, Document.events, spoofing]
  obtain ⟨hiff, -, ⟨hedges, -⟩, -, hwritten⟩ := write_eq_write_iff hhonest hspoofing
  have hkept : kept honest = [⟨['1'], ['a'], ['b']⟩, ⟨['3'], ['a'], ['b']⟩] := by decide
  refine ⟨hhonest, hspoofing, fun h => ?_, hkept, ?_, ?_⟩
  · exact absurd (hiff.1 h).2 (by decide)
  · rw [hedges, hkept]
    decide
  · rw [hwritten, hkept]
    decide

end Dot

end EventPipeline
