import EventPipeline.Binary64.Shortest
import EventPipeline.Json
import EventPipeline.Text.Quoted

/-!
# Values in messages

How a message shows an interchange value: on one line, with texts in quotes and with the words
`None`, `True` and `False`.
-/

namespace EventPipeline.Json

mutual

/-- The text of a value in a message. -/
def shown : Json → Text
  | null => "None".toList
  | bool true => "True".toList
  | bool false => "False".toList
  | int n => Text.ofInt n
  | float x => x.toText Binary64.plainWords
  | text s => s.shown
  | list vs => '[' :: (Text.join [',', ' '] (shownItems vs) ++ [']'])
  | object ms => '{' :: (Text.join [',', ' '] (shownMembers ms) ++ ['}'])

/-- The texts of the items of a list. -/
def shownItems : List Json → List Text
  | [] => []
  | v :: rest => shown v :: shownItems rest

/-- The texts of the members of an object. -/
def shownMembers : List (Text × Json) → List Text
  | [] => []
  | (key, v) :: rest => (key.shown ++ [':', ' '] ++ shown v) :: shownMembers rest

end

/-- How a value stands in a sentence: a text as it is, any other value as it is shown. -/
def plain : Json → Text
  | text s => s
  | v => v.shown

end EventPipeline.Json
