import EventPipeline.Script.Fault
import EventPipeline.Script.Operator
import EventPipeline.Script.Value

/-!
# Collections of scripts

Items of collections by place, by key and by slice; collections several times; and what sets come
to.

A place counts from the end if it is negative. A slice begins and ends somewhere and goes
on by steps; ends that a collection does not reach are moved to where it ends (`placesOf`).
-/

namespace EventPipeline.Script

namespace Value

/-! ## Slices -/

/-- A slice whose parts are numbers, or left out. -/
structure Places where
  /-- Where it begins. -/
  first : Option Int
  /-- Where it ends. -/
  last : Option Int
  /-- How far apart the places are. -/
  step : Int
  deriving DecidableEq, Repr

/-- A part of a slice: a number, or nothing. -/
def endOf? : Value → Except RunError (Option Int)
  | null => .ok none
  | v =>
    match v.whole? with
    | some n => .ok (some n)
    | none => .error .mismatch

/-- The slice that its parts make up. -/
def placesOf (first last step : Value) : Except RunError Places := do
  let step ← step.endOf?
  if step = some 0 then throw (.value .noStep)
  let first ← first.endOf?
  let last ← last.endOf?
  return ⟨first, last, step.getD 1⟩

/-- A place moved to where a list of a length has places; `below` and `above` are the places in
front of it and behind it. -/
def Places.clamp (length : Nat) (below above : Int) (place : Int) : Int :=
  let place := if place < 0 then place + length else place
  if place < below then below else if above < place then above else place

/-- Where a slice begins in a list of a length, and where it ends. -/
def Places.bounds (r : Places) (length : Nat) : Int × Int :=
  if 0 < r.step then
    ((r.first.map (clamp length 0 length)).getD 0, (r.last.map (clamp length 0 length)).getD length)
  else
    ((r.first.map (clamp length (-1) (length - 1))).getD (length - 1),
      (r.last.map (clamp length (-1) (length - 1))).getD (-1))

/-- The number of places of a slice. -/
def Places.count (r : Places) (length : Nat) : Nat :=
  let (first, last) := r.bounds length
  stepCount first last r.step

/-- The places of a slice in a list of a length. -/
def Places.toList (r : Places) (length : Nat) : List Nat :=
  let first := (r.bounds length).1
  (List.range (r.count length)).map fun (i : Nat) => (first + i * r.step).toNat

/-- The items at the places of a slice. -/
def sliceOf {α : Type} (items : List α) (r : Places) : List α :=
  if r.step = 1 then
    let (first, last) := r.bounds items.length
    (items.drop first.toNat).take (last - first).toNat
  else
    let array := items.toArray
    (r.toList items.length).filterMap fun i => array[i]?

/-! ## Items -/

/-- The place of a list of a length that a number says, if there is one. -/
def placeIn? (length : Nat) (place : Int) : Option Nat :=
  let place := if place < 0 then place + length else place
  if 0 ≤ place && place < length then some place.toNat else none

/-- The item of a list at a place. -/
def itemAt {α : Type} (items : List α) (place : Int) : Except RunError α :=
  match (placeIn? items.length place).bind fun i => items[i]? with
  | some v => .ok v
  | none => .error .noItem

/-- The items of a list that an index stands for, one or several. -/
def itemsAt {α : Type} (items : List α) (single : α → Value) (several : List α → Value)
    (index : Value) : Except RunError Value :=
  match index with
  | other => .ok other
  | slice first last step => (placesOf first last step).map fun r => several (sliceOf items r)
  | index =>
    match index.whole? with
    | some place => (itemAt items place).map single
    | none => .error .mismatch

/-- The types whose values hold values of other types. -/
def fillableTypes : List Text :=
  ["list", "tuple", "dict", "set", "frozenset", "type", "enumerate", "BaseExceptionGroup",
    "ExceptionGroup"].map String.toList

/-- An item of a value. -/
def itemOf (v index : Value) : Except RunError Value :=
  match v with
  | other => .ok other
  | text s => itemsAt s (fun c => text [c]) text index
  | bytes s => itemsAt s (fun c => int c.toNat) bytes index
  | list items => itemsAt items id list index
  | tuple items => itemsAt items id tuple index
  | mapping entries =>
    if index.isKey then
      match valueAt? entries index with
      | some v => .ok v
      | none => .error .noKey
    else .error .mismatch
  | range first last step =>
    match index with
    | other => .ok other
    | slice a b c => (placesOf a b c).map fun r =>
      let (low, high) := r.bounds (stepCount first last step)
      range (first + low * step) (first + high * step) (step * r.step)
    | index =>
      match index.whole? with
      | none => .error .mismatch
      | some place =>
        match placeIn? (stepCount first last step) place with
        | some i => .ok (int (first + i * step))
        | none => .error .noItem
  | type name =>
    if fillableTypes.contains name then
      .ok (filledType name (match index with
        | tuple items => items
        | index => [index]))
    else .error .mismatch
  | _ => .error .mismatch

/-- The items of a value one after the other; those of something unknown are left out. -/
def spreadOf (v : Value) : Except RunError (List Value) :=
  match v, v.items? with
  | other, _ => .ok []
  | stream _ _ (some e), _ => .error e
  | range _ _ _, none => .error .oversized
  | _, some items => .ok items
  | _, none => .error .mismatch

/-- The items of a value, all of which can be in a set. -/
def membersOf (v : Value) : Except RunError (List Value) := do
  let items ← v.spreadOf
  if items.all isKey then return items else throw .mismatch

/-! ## Changed items -/

/-- A list with the items at the places of a slice replaced by others. Without steps between them
there may be more or fewer than places. -/
def withSlice (items : List Value) (r : Places) (values : List Value) :
    Except RunError (List Value) :=
  if r.step = 1 then
    let (first, last) := r.bounds items.length
    .ok (items.take first.toNat ++ values ++ items.drop (max first last).toNat)
  else
    let places := r.toList items.length
    if places.length = values.length then
      .ok ((places.zip values).foldl (fun items p => items.set p.1 p.2) items)
    else .error (.value (.placeCount values.length places.length))

/-- The value after one or several of its items were replaced. -/
def withItem (owner index v : Value) : Except RunError Value :=
  match owner, index with
  | other, _ => .ok other
  | list _, other => .ok owner
  | list items, slice first last step => do
    let r ← placesOf first last step
    let values ← v.spreadOf
    return list (← withSlice items r values)
  | list items, index =>
    match index.whole? with
    | none => .error .mismatch
    | some place =>
      match placeIn? items.length place with
      | none => .error .noItem
      | some i => .ok (list (items.set i v))
  | mapping entries, index =>
    if index.isKey then .ok (mapping (putEntry entries index v)) else .error .mismatch
  | _, _ => .error .mismatch

/-- The value that holds what became of one of its items. A slice makes up a value of its
own, so that nothing becomes of the one that it was taken from. -/
def holding (owner index v : Value) : Value :=
  match owner, index with
  | owner, slice _ _ _ => owner
  | tuple items, index =>
    match index.whole?.bind (placeIn? items.length) with
    | some i => tuple (items.set i v)
    | none => owner
  | owner, index => (withItem owner index v).toOption.getD owner

/-- The value without one or several of its items. -/
def withoutItem (owner index : Value) : Except RunError Value :=
  match owner, index with
  | other, _ => .ok other
  | list _, other => .ok owner
  | list items, slice first last step => do
    let r ← placesOf first last step
    let places := r.toList items.length
    let kept := items.zipIdx.filter fun p => !places.contains p.2
    return list (kept.map Prod.fst)
  | list items, index =>
    match index.whole? with
    | none => .error .mismatch
    | some place =>
      match placeIn? items.length place with
      | none => .error .noItem
      | some i => .ok (list (items.eraseIdx i))
  | mapping entries, index =>
    if !index.isKey then .error .mismatch
    else if (valueAt? entries index).isNone then .error .noKey
    else .ok (mapping (entries.filter fun e => !index.same e.1))
  | _, _ => .error .mismatch

/-! ## Repetition -/

/-- The greatest number of items that a collection could have. -/
def countLimit : Int := 9223372036854775807

/-- The items of a list as many times as a number says; `excess` is what a list that is too long
comes to. -/
def repeated {α : Type} (items : List α) (count : Int) (excess : RunError) :
    Except RunError (List α) :=
  if countLimit < count || count < -countLimit - 1 then .error .overflow
  else if countLimit < count * items.length then .error excess
  else if lengthLimit < count * items.length then .error .oversized
  else if items.isEmpty then .ok []
  else .ok (List.replicate count.toNat items).flatten

/-- A collection as many times as a number says. -/
def repeatedBy (v : Value) (count : Int) : Except RunError Value :=
  match v with
  | text s => (repeated s count .overflow).map text
  | bytes s => (repeated s count .overflow).map bytes
  | list items => (repeated items count .oversized).map list
  | tuple items => (repeated items count .oversized).map tuple
  | _ => .error .mismatch

/-! ## Sets and objects -/

/-- What two sets come to. -/
def onSets (op : Operator) (vs ws : List Value) : Except RunError Value :=
  let rest := vs.filter fun v => !v.isAmong ws
  match op with
  | .minus => .ok (set rest)
  | .both => .ok (set (vs.filter fun v => v.isAmong ws))
  | .either => .ok (set (vs ++ ws.filter fun w => !w.isAmong vs))
  | .oneOnly => .ok (set (rest ++ ws.filter fun w => !w.isAmong vs))
  | _ => .error .mismatch

/-- The entries of one object and those of another one, which count more. -/
def mergedEntries (es fs : List (Value × Value)) : List (Value × Value) :=
  fs.foldl (fun d f => putEntry d f.1 f.2) es

end Value

end EventPipeline.Script
