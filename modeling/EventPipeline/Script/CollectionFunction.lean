import EventPipeline.Script.Given
import EventPipeline.Script.Operation

/-!
# Functions of collections

What the functions give that belong to a list, a tuple, a set or an object, and what becomes of it:
most of them change the value that they belong to. Of functions that are not known by their names,
nothing is known, and neither is then the value that they may have changed.
-/

namespace EventPipeline.Script

namespace CollectionFunction

/-- The outcome of a function that changes nothing. -/
def gives (v : Value) : Outcome where
  result := v

/-- The outcome of a function that only changes its value. -/
def changes (v : Value) : Outcome where
  result := .null
  changed := some v

/-- The outcome of a function that is not followed. -/
def unknown : Outcome where
  result := .other
  changed := some .other

/-- The one value that a function is given. -/
def one (g : Given) : Except RunError Value := do
  match ← g.placed 1 1 with
  | [v] => return v
  | _ => throw .mismatch

/-- An outcome, if a function is given nothing. -/
def forNothing (g : Given) (outcome : Outcome) : Except RunError Outcome :=
  (g.placed 0 0).map fun _ => outcome

/-- The whole number that a value is. -/
def wholeOf (v : Value) : Except RunError Int :=
  match v.whole? with
  | some n => .ok n
  | none => .error .mismatch

/-! ## Order -/

/-- Items in order with another one, which comes in front of those that are equal to it, if the
order is known. -/
def insertInOrder (v : Value) : List Value → Except RunError (Option (List Value))
  | [] => .ok (some [v])
  | w :: rest => do
    match ← Order.less.holds w v with
    | none => return none
    | some false => return some (v :: w :: rest)
    | some true => return (← insertInOrder v rest).map (w :: ·)

/-- Items in order, equal ones as they stood, if the order is known. -/
def inOrder : List Value → Except RunError (Option (List Value))
  | [] => .ok (some [])
  | v :: rest => do
    match ← inOrder rest with
    | none => return none
    | some sorted => insertInOrder v sorted

/-- Items in order or the other way round, as an option asks for; what an option for the order
itself does is not followed. -/
def sortedBy (items : List Value) (key isReversed : Option Value) :
    Except RunError (Option (List Value)) := do
  let reversed ← wholeOf (isReversed.getD (.int 0))
  if !(key.getD .null).same .null then return none
  else if reversed ≠ 0 then return (← inOrder items.reverse).map List.reverse
  else inOrder items

/-- Items in order, by the options that a function is given. -/
def sorted (items : List Value) (g : Given) : Except RunError (Option (List Value)) := do
  match ← g.options ["key", "reverse"] with
  | [key, isReversed] => sortedBy items key isReversed
  | _ => throw .mismatch

/-! ## Places -/

/-- A place in front of which an item stands, moved to where a list has one. -/
def placeFor (length : Nat) (place : Int) : Nat :=
  (Value.Places.clamp length 0 length place).toNat

/-- The place of the first item that is equal to a value, between two places. -/
def firstPlace? (items : List Value) (v : Value) (low high : Nat) : Option Nat :=
  (items.zipIdx.find? fun p => v.same p.1 && (low ≤ p.2 && p.2 < high)).map Prod.snd

/-- The place of the first item that is equal to a value. -/
def placeOf (items : List Value) (g : Given) (absent : Value → Except RunError CallFault) :
    Except RunError Outcome := do
  match ← g.placed 1 3 with
  | v :: places =>
    let places ← places.mapM wholeOf
    let low := placeFor items.length (places.headD 0)
    let high := placeFor items.length (places.getD 1 items.length)
    match firstPlace? items v low high with
    | some n => return gives (.int n)
    | none => throw (.value (.call (← absent v)))
  | [] => throw .mismatch

/-- How often a value is among items. -/
def countOf (items : List Value) (g : Given) : Except RunError Outcome := do
  let v ← one g
  return gives (.int (items.countP v.same))

/-! ## Lists and tuples -/

/-- The last item that a list gives away, or the one at a place. -/
def popFrom (items : List Value) (g : Given) : Except RunError Outcome := do
  let place ← match ← g.placed 0 1 with
    | [] => pure (-1)
    | v :: _ => wholeOf v
  match Value.placeIn? items.length place with
  | none => throw .noItem
  | some i =>
    let v ← Value.itemAt items i
    return { result := v, changed := some (.list (items.eraseIdx i)) }

/-- What a function gives that belongs to a list. -/
def ofList (items : List Value) (name : Text) (g : Given) : Except RunError Outcome := do
  match String.ofList name with
  | "append" => return changes (.list (items ++ [← one g]))
  | "extend" => return changes (.list (items ++ (← (← one g).spreadOf)))
  | "insert" =>
    match ← g.placed 2 2 with
    | [place, v] =>
      let i := placeFor items.length (← wholeOf place)
      return changes (.list (items.take i ++ v :: items.drop i))
    | _ => throw .mismatch
  | "pop" => popFrom items g
  | "remove" =>
    let v ← one g
    match firstPlace? items v 0 items.length with
    | some i => return changes (.list (items.eraseIdx i))
    | none => throw (.value (.call .notRemovable))
  | "index" => placeOf items g fun v => do return .notInList ((← v.shown).getD [])
  | "count" => countOf items g
  | "copy" => forNothing g (gives (.list items))
  | "clear" => forNothing g (changes (.list []))
  | "reverse" => forNothing g (changes (.list items.reverse))
  | "sort" =>
    if !g.values.isEmpty then throw .mismatch
    match ← sorted items g with
    | some items => return changes (.list items)
    | none => return changes .other
  | _ => return unknown

/-- What a function gives that belongs to a tuple. -/
def ofTuple (items : List Value) (name : Text) (g : Given) : Except RunError Outcome :=
  match String.ofList name with
  | "index" => placeOf items g fun _ => .ok .notInTuple
  | "count" => countOf items g
  | _ => .ok (gives .other)

/-! ## Sets -/

/-- What becomes of a set by an operator and each of the values that a function is given. -/
def combined (op : Operator) (items : List Value) (g : Given) : Except RunError Value := do
  if !g.named.isEmpty then throw .mismatch
  let items ← g.values.foldlM (fun items v => do
    match ← Value.onSets op items (Value.distinct (← v.membersOf)) with
    | .set items => return items
    | _ => return items) items
  return .set items

/-- The operators of the functions of sets, by the names of those that change the set and of those
that do not. -/
def setOperators : List (String × String × Operator) := [
  ("union", "update", .either), ("intersection", "intersection_update", .both),
  ("difference", "difference_update", .minus),
  ("symmetric_difference", "symmetric_difference_update", .oneOnly)]

/-- A set without an item. -/
def without (items : List Value) (v : Value) : Value :=
  .set (items.filter fun w => !v.same w)

/-- The one value that may be in a set. -/
def member (g : Given) : Except RunError Value := do
  let v ← one g
  if Comparison.canBeSought v then return v else throw .mismatch

/-- What a function gives that belongs to a set. -/
def ofSet (items : List Value) (name : Text) (g : Given) : Except RunError Outcome := do
  let word := String.ofList name
  match setOperators.find? fun o => o.1 == word || o.2.1 == word with
  | some (plain, _, op) =>
    if op = .oneOnly && g.values.length ≠ 1 then throw .mismatch
    let v ← combined op items g
    return if word == plain then gives v else changes v
  | none =>
    match word with
    | "add" =>
      let v ← one g
      if !v.isKey then throw .mismatch
      return changes (.set (if v.isAmong items then items else items ++ [v]))
    | "discard" => return changes (without items (← member g))
    | "remove" =>
      let v ← member g
      if v.isAmong items then return changes (without items v) else throw .noKey
    | "pop" =>
      let _ ← g.placed 0 0
      match items with
      | [] => throw .noKey
      | [v] => return { result := v, changed := some (.set []) }
      | _ => return unknown
    | "copy" => forNothing g (gives (.set items))
    | "clear" => forNothing g (changes (.set []))
    | "isdisjoint" =>
      let others ← (← one g).membersOf
      return gives (.bool !(others.any fun v => v.isAmong items))
    | "issubset" =>
      let others ← (← one g).membersOf
      return gives (.bool (Value.areWithin items others))
    | "issuperset" =>
      let others ← (← one g).membersOf
      return gives (.bool (Value.areWithin others items))
    | _ => return unknown

/-! ## Objects -/

/-- A key and what stands for a value that is not there. -/
def keyOf (g : Given) : Except RunError (Value × Option Value) := do
  match ← g.placed 1 2 with
  | key :: standing => if key.isKey then return (key, standing.head?) else throw .mismatch
  | [] => throw .mismatch

/-- The entries without one. -/
def withoutKey (entries : List (Value × Value)) (key : Value) : Value :=
  .mapping (entries.filter fun e => !key.same e.1)

/-- An object with the entries that a function is given, if they are known. -/
def updated (entries : List (Value × Value)) (g : Given) : Except RunError Value := do
  let further ← match g.values with
    | [] => pure (some [])
    | [v] => Operator.entriesOf v
    | _ => throw .mismatch
  let named := g.named.map fun o => (Value.text o.1, o.2)
  return match further with
    | some further => .mapping (Value.mergedEntries (Value.mergedEntries entries further) named)
    | none => .other

/-- An object with a value for each of some keys. -/
def fromKeys (g : Given) : Except RunError Outcome := do
  match ← g.placed 1 2 with
  | keys :: standing =>
    let v := standing.headD .null
    let entries := Value.mergedEntries [] ((← keys.membersOf).map fun key => (key, v))
    return gives (.mapping entries)
  | [] => throw .mismatch

/-- What a function gives that belongs to an object. -/
def ofMapping (entries : List (Value × Value)) (name : Text) (g : Given) :
    Except RunError Outcome := do
  match String.ofList name with
  | "get" =>
    let (key, standing) ← keyOf g
    return gives ((Value.valueAt? entries key).getD (standing.getD .null))
  | "pop" =>
    if entries.isEmpty then
      match ← g.placed 1 2 with
      | [_, standing] => return gives standing
      | _ => throw .noKey
    let (key, standing) ← keyOf g
    match Value.valueAt? entries key, standing with
    | some v, _ => return { result := v, changed := some (withoutKey entries key) }
    | none, some v => return gives v
    | none, none => throw .noKey
  | "popitem" =>
    let _ ← g.placed 0 0
    match entries.getLast? with
    | some (key, v) =>
      return { result := .tuple [key, v], changed := some (.mapping entries.dropLast) }
    | none => throw .noKey
  | "setdefault" =>
    let (key, standing) ← keyOf g
    let v := standing.getD .null
    match Value.valueAt? entries key with
    | some v => return gives v
    | none => return { result := v, changed := some (.mapping (Value.putEntry entries key v)) }
  | "update" => return changes (← updated entries g)
  | "fromkeys" => fromKeys g
  | "keys" => forNothing g (gives (.view "dict_keys".toList (entries.map Prod.fst)))
  | "values" => forNothing g (gives (.view Value.valuesKind (entries.map Prod.snd)))
  | "items" =>
    forNothing g (gives (.view "dict_items".toList (entries.map fun e => .tuple [e.1, e.2])))
  | "copy" => forNothing g (gives (.mapping entries))
  | "clear" => forNothing g (changes (.mapping []))
  | _ => return unknown

end CollectionFunction

end EventPipeline.Script
