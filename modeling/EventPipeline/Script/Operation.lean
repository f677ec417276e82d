import EventPipeline.Script.Filling
import EventPipeline.Script.Order

/-!
# Operators on values of any kind

What an operator makes of values: numbers are added up, collections are put one behind the other or
repeated, sets and objects are united, texts have their gaps filled in, and types are made into a
choice between them. A value of which nothing is known makes up another such value.
-/

namespace EventPipeline.Script

namespace Operator

/-- The types that a value is a choice between, if it is one of types. -/
def choices? : Value → Option (List Value)
  | .type name => some [.type name]
  | .filledType name held => some [.filledType name held]
  | .union choices => some choices
  | .null => some [.null]
  | _ => none

/-- A choice between types, each of which counts once. -/
def choiceOf (choices : List Value) : Value :=
  match Value.distinct choices with
  | [only] => only
  | choices => .union choices

/-- The operators of sets. -/
def setOperators : List Operator := [.minus, .both, .either, .oneOnly]

/-- What two values come to of which one is what an object shows of itself: if that is like a set,
the other one only has to have items. -/
def onViews (op : Operator) (v w : Value) : Except RunError Value := do
  if setOperators.contains op && (v.asSet?.isSome || w.asSet?.isSome) then
    Value.onSets op (Value.distinct (← v.membersOf)) (Value.distinct (← w.membersOf))
  else throw .mismatch

/-- What two values come to of which at least one is no number. -/
def onOthers (op : Operator) (v w : Value) : Except RunError Value :=
  match op, v, w with
  | .plus, .text s, .text t => .ok (.text (s ++ t))
  | .plus, .bytes s, .bytes t => .ok (.bytes (s ++ t))
  | .plus, .list vs, .list ws => .ok (.list (vs ++ ws))
  | .plus, .tuple vs, .tuple ws => .ok (.tuple (vs ++ ws))
  | .remainder, .text s, w =>
    (Filling.fill false s w).map fun filled => (filled.map .text).getD .other
  | .remainder, .bytes s, w =>
    (Filling.fill true s w).map fun filled => (filled.map .bytes).getD .other
  | op, .set vs, .set ws => Value.onSets op vs ws
  | op, .view kind items, w => onViews op (.view kind items) w
  | op, v, .view kind items => onViews op v (.view kind items)
  | .either, .mapping es, .mapping fs => .ok (.mapping (Value.mergedEntries es fs))
  | .either, .null, .null => .error .mismatch
  | .either, v, w =>
    match choices? v, choices? w with
    | some vs, some ws => .ok (choiceOf (vs ++ ws))
    | _, _ => .error .mismatch
  | .times, v, w =>
    match v.whole?, w.whole? with
    | some n, none => w.repeatedBy n
    | none, some n => v.repeatedBy n
    | _, _ => .error .mismatch
  | _, _, _ => .error .mismatch

/-- What two truth values come to, if that is a truth value as well. -/
def onTruths? (op : Operator) (a b : Bool) : Option Bool :=
  match op with
  | .both => some (a && b)
  | .either => some (a || b)
  | .oneOnly => some (a != b)
  | _ => none

/-- What two values come to. -/
def apply (op : Operator) (v w : Value) : Except RunError Value :=
  let numbers : Except RunError Value :=
    match Number.ofValue? v, Number.ofValue? w with
    | some x, some y => (Number.apply op x y).map Number.toValue
    | _, _ => if v.isUnknown || w.isUnknown then .ok .other else onOthers op v w
  match v, w with
  | .bool a, .bool b =>
    match onTruths? op a b with
    | some c => .ok (.bool c)
    | none => numbers
  | _, _ => numbers

/-- The entry that a pair is, if that is known; its place is for messages. -/
def entryOf (pair : Value) (place : Nat) : Except RunError (Option (Value × Value)) := do
  if pair.isUnknown then return none
  match ← pair.spreadOf with
  | [key, v] => if key.isKey then return some (key, v) else throw .mismatch
  | items => throw (.value (.call (.noPair place items.length)))

/-- The entries of an object or of pairs, if they are known. -/
def entriesOf (v : Value) : Except RunError (Option (List (Value × Value))) :=
  match v with
  | .other => .ok none
  | .mapping entries => .ok (some entries)
  | v => do
    let entries ← (← v.spreadOf).zipIdx.mapM fun p => entryOf p.1 p.2
    return entries.mapM id

/-- What a value becomes by another one: a list takes in the items of any collection, and an object
the entries of pairs. -/
def update (op : Operator) (v w : Value) : Except RunError Value :=
  match op, v with
  | .plus, .list items => w.spreadOf.map fun further => .list (items ++ further)
  | .either, .mapping entries => do
    let further ← entriesOf w
    return (further.map fun further => .mapping (Value.mergedEntries entries further)).getD .other
  | op, v => op.apply v w

end Operator

/-- What a value comes to. -/
def Sign.apply (sign : Sign) (v : Value) : Except RunError Value :=
  match sign with
  | opposite => .ok (if v.isUnknown then .other else .bool !v.truth)
  | sign =>
    match Number.ofValue? v with
    | some x => (x.applySign sign).map Number.toValue
    | none => if v.isUnknown then .ok .other else .error .mismatch

end EventPipeline.Script
