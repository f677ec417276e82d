import EventPipeline.Json.Shown
import EventPipeline.Pointy.Identifier

/-!
# Names of events

An event is named by a text. An editor may also take the name away by putting a value in its place
that stands for nothing; such a value is kept as it is, stands in running text by its word, and is
never an identifier. Only a text can be read back.
-/

namespace EventPipeline

/-- The name of an event. -/
inductive EventName
  /-- A text. -/
  | given (name : Text)
  /-- A value that stands for nothing. -/
  | blank (value : Json.Blank)
  deriving DecidableEq, Repr

namespace EventName

/-- The name in running text. -/
def text : EventName → Text
  | given name => name
  | blank value => value.toJson.plain

/-- The name as an interchange value. -/
def toJson : EventName → Json
  | given name => .text name
  | blank value => value.toJson

/-- Whether pointy text can carry the name. -/
def isIdentifier : EventName → Bool
  | given name => EventPipeline.isIdentifier name
  | blank _ => false

/-- Whether the name is null. -/
def isNull (name : EventName) : Bool :=
  name.toJson.isNull

/-- The name that a value gives: a value other than a text has to stand for nothing. -/
def ofJson? : Json → Option EventName
  | .text name => some (given name)
  | v => v.blank?.map blank

/-- The value of a name gives that name. -/
theorem ofJson?_toJson (name : EventName) : ofJson? name.toJson = some name := by
  cases name with
  | given name => rfl
  | blank b =>
    have h : ofJson? b.toJson = b.toJson.blank?.map blank := by cases b <;> rfl
    rw [toJson, h, Json.blank?_toJson, Option.map_some]

end EventName

end EventPipeline
