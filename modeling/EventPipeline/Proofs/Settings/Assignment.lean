import EventPipeline.Proofs.Dictionary
import EventPipeline.Proofs.Result
import EventPipeline.Settings.File
import Mathlib.Data.Char
import Mathlib.Data.List.Lex

/-!
# Files of assignments

A file is known by assignments that leave, one after the other, what its script leaves
(`SettingsFile.Assigns`). Its settings are those that names were given last, each name once, in the
order of the names (`exists_settings_of_assigns`).

Plain data is literals and what is made of them, which has one value in every scope
(`Script.plain?`). A file of statements that give names plain data leaves the assignments that they
say, one statement after the other (`assigns_of_plain?`).
-/

namespace EventPipeline

namespace Script

/-! ## Expressions of plain data -/

mutual

/-- The value of an expression of plain data: a literal, with a sign or without, or a list, a tuple
or an object of such expressions. -/
def plain? : Expression → Option Value
  | .literal v => some v
  | .list items => (plainItems? items).map .list
  | .tuple items => (plainItems? items).map .tuple
  | .mapping entries =>
    (plainEntries? entries).bind fun pairs => (withEntries [] pairs).toOption.map .mapping
  | .signed op operand => (plain? operand).bind fun v => (op.apply v).toOption
  | _ => none

/-- The values of expressions of plain data. -/
def plainItems? : List Expression → Option (List Value)
  | [] => some []
  | e :: rest => (plain? e).bind fun v => (plainItems? rest).map (v :: ·)

/-- The keys and values of expressions of plain data. -/
def plainEntries? : List (Option Expression × Expression) → Option (List (Value × Value))
  | [] => some []
  | (some key, e) :: rest =>
    (plain? key).bind fun k => (plain? e).bind fun v => (plainEntries? rest).map ((k, v) :: ·)
  | (none, _) :: _ => none

end

mutual

/-- Plain data has its value in every scope, and evaluating it gives no name a value. -/
theorem evaluate_of_plain? : (e : Expression) → {v : Value} → plain? e = some v →
    ∀ scope, evaluate e scope = .ok (v, scope)
  | .literal _, _, h, scope => by
    cases h
    rfl
  | .list items, _, h, scope => by
    obtain ⟨vs, hvs, rfl⟩ := Option.map_eq_some_iff.1 h
    show (evaluateItems items scope >>= _) = _
    rw [evaluateItems_of_plainItems? items hvs scope]
    rfl
  | .tuple items, _, h, scope => by
    obtain ⟨vs, hvs, rfl⟩ := Option.map_eq_some_iff.1 h
    show (evaluateItems items scope >>= _) = _
    rw [evaluateItems_of_plainItems? items hvs scope]
    rfl
  | .mapping entries, _, h, scope => by
    obtain ⟨pairs, hpairs, h⟩ := Option.bind_eq_some_iff.1 h
    obtain ⟨found, hfound, rfl⟩ := Option.map_eq_some_iff.1 h
    show (evaluateEntries [] [] entries scope >>= _) = _
    rw [evaluateEntries_of_plainEntries? entries hpairs [] [] scope, List.nil_append,
      toOption_eq_some_iff.1 hfound]
    rfl
  | .signed op operand, _, h, scope => by
    obtain ⟨v, hv, happly⟩ := Option.bind_eq_some_iff.1 h
    show (evaluate operand scope >>= _) = _
    rw [evaluate_of_plain? operand hv scope]
    show (op.apply v >>= _) = _
    rw [toOption_eq_some_iff.1 happly]
    rfl

/-- A list of plain data is evaluated to the values. -/
theorem evaluateItems_of_plainItems? : (items : List Expression) → {vs : List Value} →
    plainItems? items = some vs → ∀ scope, evaluateItems items scope = .ok (some vs, scope)
  | [], _, h, scope => by
    cases h
    rfl
  | e :: rest, _, h, scope => by
    obtain ⟨v, hv, h⟩ := Option.bind_eq_some_iff.1 h
    obtain ⟨vs, hvs, rfl⟩ := Option.map_eq_some_iff.1 h
    have hcons : evaluateItems (e :: rest) = (do
        let v ← evaluate e
        return (← evaluateItems rest).map (v :: ·)) := by
      cases e <;> first | rfl | contradiction
    rw [hcons]
    show (evaluate e scope >>= _) = _
    rw [evaluate_of_plain? e hv scope]
    show (evaluateItems rest scope >>= _) = _
    rw [evaluateItems_of_plainItems? rest hvs scope]
    rfl

/-- Entries of plain data are put among the entries that wait. -/
theorem evaluateEntries_of_plainEntries? : (entries : List (Option Expression × Expression)) →
    {pairs : List (Value × Value)} → plainEntries? entries = some pairs →
    ∀ found waiting scope, evaluateEntries found waiting entries scope =
      (some <$> withEntries found (waiting ++ pairs) : Running _) scope
  | [], _, h, found, waiting, scope => by
    cases h
    rw [List.append_nil]
    rfl
  | (some key, e) :: rest, _, h, found, waiting, scope => by
    obtain ⟨k, hk, h⟩ := Option.bind_eq_some_iff.1 h
    obtain ⟨v, hv, h⟩ := Option.bind_eq_some_iff.1 h
    obtain ⟨pairs, hpairs, rfl⟩ := Option.map_eq_some_iff.1 h
    show (evaluate key scope >>= _) = _
    rw [evaluate_of_plain? key hk scope]
    show (evaluate e scope >>= _) = _
    rw [evaluate_of_plain? e hv scope]
    show evaluateEntries found (waiting ++ [(k, v)]) rest scope = _
    rw [evaluateEntries_of_plainEntries? rest hpairs, List.append_assoc, List.singleton_append]

end

/-! ## Statements of plain data -/

/-- The names among expressions that are nothing else. -/
def namesOnly? : List Expression → Option (List Text)
  | [] => some []
  | .name name :: rest => (namesOnly? rest).map (name :: ·)
  | _ => none

/-- What names a statement gives what plain data; expressions that stand alone give none any, and
functions without values that stand for their options are given to their names. -/
def Statement.plain? : Statement → Option Bindings
  | .expression e => (Script.plain? e).map fun _ => []
  | .assign targets e =>
    (Script.plain? e).bind fun v => (namesOnly? targets).map fun names => names.map (·, v)
  | .function name options _ =>
    if (options.filterMap FunctionOption.standing?).isEmpty then some [(name, .function)] else none
  | .pass => some []
  | _ => none

/-- What names statements give what plain data, one after the other. -/
def plainBindings? : List Statement → Option Bindings
  | [] => some []
  | s :: rest => s.plain?.bind fun given => (plainBindings? rest).map (given ++ ·)

end Script

/-! ## Assignments -/

/-- What names are given, one after the other; what can be called is no value of a setting. -/
abbrev Assignments := List (Text × Option Script.Value)

namespace Assignments

variable (assignments : Assignments)

/-- The names that are given something. -/
def names : List Text :=
  assignments.map Prod.fst

/-- The setting under a name: what the name was given last, unless that can be called or the name
belongs to the language. -/
def setting? (name : Text) : Option Script.Value :=
  if SettingsFile.isReserved name then none
  else (assignments.reverse.find? fun a => a.1 = name).bind Prod.snd

end Assignments

/-! ## The order of names -/

/-- Of two different names that one comes first behind which the other one does not stand. -/
lemma Text.before_of_ne {a b : Text} (h : b.before a = false) (hne : a ≠ b) :
    a.before b = true := by
  simp only [Text.before, decide_eq_true_eq, decide_eq_false_iff_not, not_lt] at *
  exact lt_of_le_of_ne h hne

/-- Entries of different names that are sorted by them stand in the order of the names. -/
lemma pairwise_mergeSort_names {set : List (Text × Script.Value)}
    (h : set.Pairwise fun a b => a.1 ≠ b.1) :
    (set.mergeSort fun a b => !b.1.before a.1).Pairwise fun a b => a.1.before b.1 = true := by
  have htrans : ∀ a b c : Text × Script.Value, (!b.1.before a.1) = true → (!c.1.before b.1) = true →
      (!c.1.before a.1) = true := by
    simp only [Text.before, Bool.not_eq_true', decide_eq_false_iff_not, not_lt]
    exact fun a b c => le_trans
  have htotal : ∀ a b : Text × Script.Value, (!b.1.before a.1 || !a.1.before b.1) = true := by
    simp only [Text.before, Bool.or_eq_true, Bool.not_eq_true', decide_eq_false_iff_not, not_lt]
    exact fun a b => le_total a.1 b.1
  have hdistinct : (set.mergeSort fun a b => !b.1.before a.1).Pairwise fun a b => a.1 ≠ b.1 :=
    h.perm (List.mergeSort_perm set _).symm Ne.symm
  refine ((List.pairwise_mergeSort htrans htotal set).and hdistinct).imp ?_
  rintro a b ⟨hle, hne⟩
  exact Text.before_of_ne (Bool.not_eq_true' _ ▸ hle) hne

/-! ## Files -/

namespace SettingsFile

/-- The script of a file leaves what assignments leave that are made one after the other. -/
def Assigns (bytes : Bytes) (assignments : Assignments) : Prop :=
  ∃ statements given, Script.readBytes bytes = .ok statements ∧
    Script.run statements = .ok (Dictionary.ofBindings given) ∧
    given.map (fun g => (g.1, setting? g.2)) = assignments

variable {bytes : Bytes} {assignments : Assignments}

/-- The assignments of bytes that do nothing else than giving names plain data. -/
def plain? (bytes : Bytes) : Option Assignments :=
  match Script.readBytes bytes with
  | .error _ => none
  | .ok statements =>
    (Script.plainBindings? statements).map fun given => given.map fun g => (g.1, setting? g.2)

/-- A file leaves what its assignments leave, unless it says itself which names it has. -/
lemma bindings_of_assigns (h : Assigns bytes assignments) :
    ∃ given : Script.Bindings, given.map (fun g => (g.1, setting? g.2)) = assignments ∧
      bindings bytes =
        if listingName ∈ assignments.names then .error .noNames
        else .ok (Dictionary.ofBindings given) := by
  obtain ⟨statements, given, hread, hrun, rfl⟩ := h
  refine ⟨given, rfl, ?_⟩
  have hlisting : (Dictionary.ofBindings given).contains listingName = true ↔
      listingName ∈ Assignments.names (given.map fun g => (g.1, setting? g.2)) := by
    rw [Dictionary.contains_iff_mem_keys, Dictionary.ofBindings, Dictionary.keys_foldl_put,
      List.mem_eraseDups, Assignments.names, List.map_map]
    rfl
  simp only [bindings, hread, hrun, hlisting]

/-- The setting under a name in terms of the values that names were given. -/
lemma setting?_map (given : Script.Bindings) (name : Text) :
    Assignments.setting? (given.map fun g => (g.1, setting? g.2)) name =
      if isReserved name then none
      else (given.reverse.find? fun g => g.1 = name).bind fun g => setting? g.2 := by
  rw [Assignments.setting?, ← List.map_reverse, List.find?_map]
  show (if isReserved name then none
    else ((given.reverse.find? fun g => g.1 = name).map fun g => (g.1, setting? g.2)).bind
      Prod.snd) = _
  cases given.reverse.find? fun g => g.1 = name <;> rfl

/-- The settings among what names were given are those under the names. -/
lemma mem_filterMap_iff (given : Script.Bindings) {name : Text} {v : Script.Value} :
    ((name, v) ∈ (Dictionary.ofBindings given).filterMap fun b =>
        if isReserved b.1 then none else (setting? b.2).map fun v => (b.1, v)) ↔
      Assignments.setting? (given.map fun g => (g.1, setting? g.2)) name = some v := by
  rw [List.mem_filterMap, setting?_map]
  constructor
  · rintro ⟨⟨other, w⟩, hmem, hset⟩
    by_cases hreserved : isReserved other = true
    · rw [if_pos hreserved] at hset
      contradiction
    · rw [if_neg hreserved] at hset
      obtain ⟨v, hv, heq⟩ := Option.map_eq_some_iff.1 hset
      cases heq
      obtain ⟨g, hfind, rfl⟩ :=
        Option.map_eq_some_iff.1 ((Dictionary.mem_ofBindings_iff given).1 hmem)
      rw [if_neg hreserved, hfind]
      exact hv
  · intro hset
    by_cases hreserved : isReserved name = true
    · rw [if_pos hreserved] at hset
      contradiction
    · rw [if_neg hreserved] at hset
      obtain ⟨g, hfind, hv⟩ := Option.bind_eq_some_iff.1 hset
      refine ⟨(name, g.2), (Dictionary.mem_ofBindings_iff given).2 ?_, ?_⟩
      · rw [hfind]
        rfl
      · rw [if_neg hreserved, hv]
        rfl

/-- The settings among entries of different names have different names. -/
lemma pairwise_filterMap {bound : Script.Bindings} (h : bound.keys.Nodup) :
    (bound.filterMap fun b =>
      if isReserved b.1 then none else (setting? b.2).map fun v => (b.1, v)).Pairwise
      fun a b => a.1 ≠ b.1 := by
  have hname : ∀ {b : Text × Script.Value} {c : Text × Script.Value},
      (if isReserved b.1 then none else (setting? b.2).map fun v => (b.1, v)) = some c →
        c.1 = b.1 := by
    intro b c hset
    split at hset
    · contradiction
    · obtain ⟨v, -, rfl⟩ := Option.map_eq_some_iff.1 hset
      rfl
  refine List.Pairwise.filterMap _ ?_ (List.pairwise_map.1 h)
  intro a b hne c hc d hd
  rw [hname hc, hname hd]
  exact hne

/-- The settings of a file of assignments stand in the order of their names, and are those under the
names. -/
theorem exists_settings_of_assigns (h : Assigns bytes assignments)
    (hlisting : listingName ∉ assignments.names) :
    ∃ set, settings bytes = .ok set ∧ (set.Pairwise fun a b => a.1.before b.1 = true) ∧
      ∀ name v, (name, v) ∈ set ↔ assignments.setting? name = some v := by
  obtain ⟨given, rfl, hbindings⟩ := bindings_of_assigns h
  rw [if_neg hlisting] at hbindings
  refine ⟨_, by rw [settings, hbindings]; rfl, ?_, ?_⟩
  · apply pairwise_mergeSort_names
    exact pairwise_filterMap (Dictionary.nodup_keys_ofBindings given)
  · intro name v
    rw [(List.mergeSort_perm _ _).mem_iff]
    exact mem_filterMap_iff given

/-- A file that says itself which names it has gives no settings. -/
theorem settings_of_listing (h : Assigns bytes assignments)
    (hlisting : listingName ∈ assignments.names) : settings bytes = .error .noNames := by
  obtain ⟨given, rfl, hbindings⟩ := bindings_of_assigns h
  rw [settings, hbindings, if_pos hlisting]
  rfl

end SettingsFile

end EventPipeline
