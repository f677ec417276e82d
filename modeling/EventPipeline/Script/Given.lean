import EventPipeline.Script.Fault
import EventPipeline.Script.Value

/-!
# What functions are given

A function is given values by place and by name. Which of them it takes is a matter of the function:
`placed` is for those that take no names at all, `arranged` for those whose values have a place and
may have a name, and `options` for those that take some values by name only.
-/

namespace EventPipeline.Script

/-- What a function is given. -/
structure Given where
  /-- The values by place. -/
  values : List Value
  /-- The values by name. -/
  named : Dictionary Text Value := []

/-- What comes of a call. -/
structure Outcome where
  /-- What the function gives. -/
  result : Value
  /-- What became of the value that the function changes, if it changed one. -/
  changed : Option Value := none

namespace Given

/-- The values of a function that takes from `least` to `most` of them, all by place. -/
def placed (g : Given) (least most : Nat) : Except RunError (List Value) :=
  if g.named.isEmpty && (decide (least ≤ g.values.length) && decide (g.values.length ≤ most)) then
    .ok g.values
  else .error .mismatch

/-- The values of some names, all others being refused. -/
def options (g : Given) (names : List String) : Except RunError (List (Option Value)) :=
  if g.named.all fun o => names.any fun n => n.toList = o.1 then
    .ok (names.map fun n => g.named.get? n.toList)
  else .error .mismatch

/-- The values of a function that takes them by place or by name, but the first `placeOnly` ones by
place only. No value can be given twice. -/
def arranged (g : Given) (placeOnly : Nat) (names : List String) :
    Except RunError (List (Option Value)) := do
  let free := names.drop (max placeOnly g.values.length)
  let rest ← g.options free
  if names.length < g.values.length then throw .mismatch
  let standing := List.replicate (names.length - g.values.length - free.length) none
  return g.values.map some ++ standing ++ rest

/-- Whether nothing is known of one of the values. -/
def isUnknown (g : Given) : Bool :=
  g.values.any Value.isUnknown || g.named.any fun o => o.2.isUnknown

end Given

end EventPipeline.Script
