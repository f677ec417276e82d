import EventPipeline.Script.NumberFunction
import EventPipeline.Script.StandingFunction
import EventPipeline.Script.Template

/-!
# Calls

What comes of a call: of a type a value, of a function what it gives, and of a function that belongs
to a value perhaps another such value. Where a function is given something of which nothing is
known, nothing is known of what it gives.
-/

namespace EventPipeline.Script

/-- A text, if it is known, as a value. -/
def textIfKnown (s : Option Text) : Value :=
  (s.map .text).getD .other

/-- What comes of a function that belongs to a value. -/
def Value.callOwn (owner : Value) (name : Text) (g : Given) : Except RunError Outcome :=
  match owner, String.ofList name with
  | text s, "format" => do return { result := textIfKnown (← Template.fill (.ofGiven g) s) }
  | text s, "format_map" => do
    let v ← CollectionFunction.one g
    return { result := textIfKnown (← Template.fill (.ofMapping v) s) }
  | text s, _ => do return { result := ← TextFunction.apply s name g }
  | bytes s, _ => do return { result := ← TextFunction.applyToBytes s name g }
  | list items, _ => CollectionFunction.ofList items name g
  | tuple items, _ => CollectionFunction.ofTuple items name g
  | set items, _ => CollectionFunction.ofSet items name g
  | mapping entries, _ => CollectionFunction.ofMapping entries name g
  | owner, _ =>
    match Number.ofValue? owner with
    | some x => do return { result := ← NumberFunction.apply x name g }
    | none => .ok { result := .other }

/-- The name of the function that makes an object of keys. -/
def fromKeysName : Text := "fromkeys".toList

/-- The further functions of types that belong to no value. -/
def ownerlessNames : List Text :=
  Component.namesOfLines ["maketrans fromhex from_bytes fromkeys __class_getitem__ __getformat__"]

/-- What comes of a function that belongs to a value, or of one of a type, which is given the value
that it belongs to first. -/
def Value.callMethod (owner : Value) (name : Text) (g : Given) : Except RunError Outcome :=
  match owner with
  | type kind =>
    if kind = "dict".toList && name = fromKeysName then CollectionFunction.fromKeys g
    else if !(featuresOfKind kind).contains name || ownerlessNames.contains name then
      .ok { result := .other }
    else
      match g.values with
      | [] => .error .mismatch
      | first :: rest =>
        if StandingFunction.isWithin first.kindWord kind then
          first.callOwn name { g with values := rest }
        else .error .mismatch
  | owner => owner.callOwn name g

/-- What becomes of the value that a function may change, if nothing is known of it then. -/
def Value.changedUnknown : Value → Option Value
  | method (list _) _ => some .other
  | method (set _) _ => some .other
  | method (mapping _) _ => some .other
  | _ => none

/-- What comes of the call of a value. -/
def Value.call (callee : Value) (g : Given) : Except RunError Outcome :=
  if callee.isUnknown then .ok { result := .other }
  else if !callee.isCallable then .error .mismatch
  else if g.isUnknown then .ok { result := .other, changed := callee.changedUnknown }
  else
    match callee with
    | type name => do return { result := ← Construction.make name g }
    | filledType name _ => do return { result := ← Construction.make name g }
    | standing name => StandingFunction.apply name g
    | method owner name => owner.callMethod name g
    | _ => .ok { result := .other }

end EventPipeline.Script
