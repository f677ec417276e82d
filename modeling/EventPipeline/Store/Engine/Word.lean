import EventPipeline.Store.Engine.Word.Draft

/-!
# Engines that are types of words

A type of words gives the word that a value is. A type that has no words yet also makes new types:
then the value is the name of the new type, and an option says what its words are called and which
texts they are.
-/

namespace EventPipeline.Engine

/-! ## New types -/

/-- What is wrong with something that has a number of parts other than two. -/
def pairFault (count : Nat) : OptionFault :=
  if count < 2 then .fewParts count else .manyParts

/-- The two parts of a pair. -/
def pairOf : Json → Except EngineError (Json × Json)
  | .list [a, b] => .ok (a, b)
  | .object [a, b] => .ok (.text a.1, .text b.1)
  | .list parts => .error (.option (pairFault parts.length))
  | .object parts => .error (.option (pairFault parts.length))
  | _ => .error .noOptions

/-- The names and texts of words that an option gives. A list that begins with a name has names
only. -/
def entriesOf : Json → Except EngineError (List (Except EngineError (Json × Json)))
  | .text s => .ok ((namesIn s).map fun name => .ok (.text name, .text name))
  | .list (.text first :: rest) =>
    match rest.find? fun v => v.text?.isNone with
    | some v => .error (.lack (.ofJson v "lower"))
    | none => .ok ((.text first :: rest).map fun name => .ok (name, name))
  | .list items => .ok (items.map pairOf)
  | .object members => .ok (members.map fun m => .ok (.text m.1, m.2))
  | _ => .error .noOptions

/-- What is known of a new type when all that options say of it came in. -/
def draftOf (options : Options) : Except EngineError Draft := do
  let entries ← entriesOf (options.value "names")
  let blank := Draft.ofName (options.value "value")
  let draft ← entries.foldlM (fun (d : Draft) entry => entry.bind d.enter) blank
  let draft ← draft.enterText "__module__".toList (options.value "module")
  match options.value "qualname" with
  | .null => return draft
  | name => draft.enterText "__qualname__".toList name

/-- A new type whose words an option names. -/
def newWordType (options : Options) : Except EngineError Product :=
  (draftOf options).bind Draft.finish

/-! ## The recipe -/

/-- The recipe for a type of some words. -/
def wordRecipe (kind : String) (words : List Text) : Recipe where
  required := ["value"]
  optional := ["names", "module", "qualname", "type", "start", "boundary"]
  make _ _ options :=
    let value := options.value "value"
    if (options.value "names").isNull then
      if words.any fun word => value = .text word then .ok (.ofKind kind.toList)
      else .error (.noWord value kind.toList)
    else if !(options.value "type").isNull then
      .error (.lack (.ofJson (options.value "type") "__mro__"))
    else if words.isEmpty then newWordType options
    else .error .noOptions

end EventPipeline.Engine
