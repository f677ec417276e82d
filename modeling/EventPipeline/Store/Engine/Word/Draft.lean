import EventPipeline.Store.Engine.Recipe
import EventPipeline.Text.Word

/-!
# Drafts of types of words

A type of words is made of entries, which are names with values. An entry gives the type a word,
unless its name has a meaning of its own: names that are private to the type and names between two
pairs of underscores stand for features of the type, and names between two underscores for rules
about the words. One of the rules lists names that are ignored: their entries are no words, and they
are gone when the type is finished. Another one gives the order that the words should have.

`Draft.enter` takes an entry in, and `Draft.finish` says what comes of the type.
-/

namespace EventPipeline.Engine

/-! ## Kinds of names -/

/-- Whether a name has exactly one underscore at both ends. -/
def isReservedName (name : Text) : Bool :=
  2 < name.length && name.startsWith ['_'] && name.endsWith ['_'] &&
    !name.startsWith ['_', '_'] && !name.endsWith ['_', '_']

/-- Whether a name has exactly two underscores at both ends. -/
def isInnerName (name : Text) : Bool :=
  4 < name.length && name.startsWith ['_', '_'] && name.endsWith ['_', '_'] &&
    !name.startsWith ['_', '_', '_'] && !name.endsWith ['_', '_', '_']

/-- What stands in front of a name that is private to a type. -/
def privateMark (typeName : Json) : Text :=
  '_' :: (typeName.plain ++ ['_', '_'])

/-- Whether a name is private to a type: the name of the type stands in front of it. -/
def isPrivateName (typeName : Json) (name : Text) : Bool :=
  let mark := privateMark typeName
  name.startsWith mark && mark.length < name.length && !name.endsWith ['_', '_']

/-- The rule that lists the names to ignore. -/
def ignoringName : Text := "_ignore_".toList

/-- The rule that gives the order of the words. -/
def orderName : Text := "_order_".toList

/-- The rules that there are. -/
def ruleNames : List Text :=
  [orderName, ignoringName] ++
    ["_generate_next_value_", "_numeric_repr_", "_missing_", "_iter_member_",
      "_iter_member_by_value_", "_iter_member_by_def_"].map String.toList

/-- The names that no word can have. -/
def forbiddenNames : List Text :=
  [[], "mro".toList]

/-- What every type of words has of its own accord under reserved names. -/
def standingNames : List Text :=
  ["_new_member_", "_use_args_", "_member_names_", "_member_map_", "_value2member_map_",
    "_unhashable_values_", "_member_type_", "_value_repr_", "_boundary_", "_flag_mask_",
    "_singles_mask_", "_all_bits_", "_inverted_"].map String.toList

/-- The names in a text, between which blanks and commas stand. -/
def namesIn (s : Text) : List Text :=
  (s.splitOnP fun c => c = ',' || Text.isBlank c).filter (!·.isEmpty)

/-- The items of a value that lists names, none of which can be a list or an object. -/
def listedNames (v : Json) : Except EngineError (List Json) :=
  match v with
  | .text s => .ok ((namesIn s).map .text)
  | .list items => if items.all Json.isAtom then .ok items else .error .noOptions
  | .object members => .ok (members.map fun m => .text m.1)
  | _ => .error .noOptions

/-! ## Taking entries in -/

/-- What is known of a type of words while its entries come in. -/
structure Draft where
  /-- The name of the type. -/
  typeName : Json
  /-- The entries so far. -/
  entries : Dictionary Text Json
  /-- The names of the words, in order. -/
  words : List Text
  /-- The names that are ignored. -/
  ignored : List Json

namespace Draft

/-- A type without entries but the one that every type of words hands on. -/
def ofName (typeName : Json) : Draft where
  typeName := typeName
  entries := [("_generate_next_value_".toList, .null)]
  words := []
  ignored := []

/-- The draft with an entry that is no word. -/
def note (d : Draft) (name : Text) (value : Json) : Draft :=
  { d with entries := d.entries.put name value }

/-- The draft with a rule. The names to ignore cannot be those of words that are there. -/
def enterRule (d : Draft) (name : Text) (value : Json) : Except EngineError Draft :=
  if !ruleNames.contains name then .error (.option (.reservedName (.text name)))
  else if name = ignoringName then
    match listedNames value with
    | .error e => .error e
    | .ok names =>
      match d.words.filter fun word => names.contains (.text word) with
      | [] => .ok { d.note name (.list names) with ignored := names }
      | taken => .error (.option (.takenNames taken))
  else .ok (d.note name value)

/-- The draft with an entry under a text. -/
def enterText (d : Draft) (name : Text) (value : Json) : Except EngineError Draft :=
  if isPrivateName d.typeName name then .ok (d.note name value)
  else if isReservedName name then d.enterRule name value
  else if isInnerName name then
    .ok (d.note (if name = "__order__".toList then orderName else name) value)
  else if d.words.contains name then .error .noOptions
  else if d.ignored.contains (.text name) then .ok (d.note name value)
  else if d.entries.contains name then .error .noOptions
  else .ok { d.note name value with words := d.words ++ [name] }

/-- What is wrong with a name that is no text. It is looked at like a text as far as possible. -/
def nameFault (d : Draft) (name : Json) : EngineError :=
  let limit := (privateMark d.typeName).length
  match name with
  | .list items =>
    if limit < items.length then .lack (.ofJson name "startswith")
    else if 2 < items.length && items.head? == some (.text ['_']) &&
        items.getLast? == some (.text ['_']) then
      .option (.reservedName name)
    else .noOptions
  | .object members =>
    if limit < members.length then .lack (.ofJson name "startswith")
    else if 2 < members.length then .noMember
    else .noOptions
  | _ => .noOptions

/-- The draft with an entry. -/
def enter (d : Draft) (entry : Json × Json) : Except EngineError Draft :=
  match entry.1 with
  | .text name => d.enterText name entry.2
  | name => .error (d.nameFault name)

/-! ## Slots

A type can name slots for what its words hold. A slot is a feature of the type, so that there can be
no entry of its name; a slot that is private gets the name of the type in front. -/

/-- The entry that names the slots. -/
def slotsName : Text := "__slots__".toList

/-- The slots that every word has already. -/
def givenSlots : List Text :=
  ["__dict__", "__weakref__"].map String.toList

/-- The entries that are gone before a slot could be in their way. -/
def passingNames : List Text :=
  ["__qualname__", "__classcell__"].map String.toList

/-- The name of a slot in a type. -/
def slotName (typeName slot : Text) : Text :=
  let owner := typeName.dropWhile (· = '_')
  if slot.startsWith ['_', '_'] && !slot.endsWith ['_', '_'] && !owner.isEmpty then
    '_' :: (owner ++ slot)
  else slot

/-- A slot that a value names. -/
def slotOf : Json → Except EngineError Text
  | .text s => if s.isWord && !givenSlots.contains s then .ok s else .error .noOptions
  | _ => .error .noOptions

/-- The values that name the slots. -/
def slotValues (entries : Dictionary Text Json) : Except EngineError (List Json) :=
  match entries.get? slotsName with
  | none => .ok []
  | some (.text s) => .ok [.text s]
  | some (.list items) => .ok items
  | some (.object members) => .ok (members.map fun m => .text m.1)
  | some _ => .error .noOptions

/-- The slots of a type with some entries. -/
def slots (typeName : Text) (entries : Dictionary Text Json) : Except EngineError (List Text) := do
  let named ← (← slotValues entries).mapM slotOf
  let slots := named.map (slotName typeName)
  match slots.find? fun slot =>
      (entries.contains slot || standingNames.contains slot) && !passingNames.contains slot with
  | some slot => throw (.option (.takenSlot slot))
  | none => return slots

/-! ## Finishing -/

/-- The features that a word needs when it is made, in the order in which it does. An entry of such
a name is no feature, and a slot is an empty one. -/
def neededFeatures : List Text :=
  ["__setattr__", "__getattribute__", "__init__"].map String.toList

/-- Why no word can be made of a text. -/
def wordFault? (typeName : Text) (entries : Dictionary Text Json) (slots : List Text) :
    Option EngineError :=
  if entries.get? "__new__".toList |>.any (!·.isNull) then some .noOptions
  else neededFeatures.findSome? fun feature =>
    if entries.contains feature then some .noOptions
    else if slots.contains feature then some (.lack (.ofKind typeName feature))
    else none

/-- Checks that words can be made: each is a text. -/
def checkWords (fault : Option EngineError) : List Json → Except EngineError Unit
  | [] => .ok ()
  | .text _ :: rest =>
    match fault with
    | some e => .error e
    | none => checkWords fault rest
  | _ :: _ => .error .noOptions

/-- The names of words of which no earlier one is the same text. -/
def firstNames : (seen : List Json) → List (Text × Json) → List Text
  | _, [] => []
  | seen, (name, word) :: rest =>
    if seen.contains word then firstNames seen rest
    else name :: firstNames (word :: seen) rest

/-- Checks that words are in the order that a rule gives, which may name further names of words. -/
def checkOrder (words : List (Text × Json)) (order : Json) : Except EngineError Unit :=
  if order.isEmpty then .ok ()
  else
    match listedNames order with
    | .error e => .error e
    | .ok names =>
      let first := (firstNames [] words).map Json.text
      let others := words.map fun w => Json.text w.1
      if (names.filter fun n => first.contains n || !others.contains n) = first then .ok ()
      else .error .noOptions

/-- The entries that are left when the type is finished. -/
def remaining (d : Draft) : Dictionary Text Json :=
  d.entries.filter fun e => e.1 ≠ ignoringName && !d.ignored.contains (.text e.1)

/-- Checks the entries that say what the type is called. -/
def checkNaming (typeName : Text) (entries : Dictionary Text Json) : Except EngineError Unit :=
  if typeName.contains '\x00' then .error (.option .nullInName)
  else
    match entries.get? "__qualname__".toList, entries.get? "__classcell__".toList with
    | none, none | some (.text _), none => .ok ()
    | _, _ => .error .noOptions

/-- What the finished type is when it is asked to read. -/
def finish (d : Draft) : Except EngineError Product :=
  match d.words.find? forbiddenNames.contains, d.typeName with
  | some name, _ => .error (.option (.forbiddenName name))
  | none, .text typeName => do
    let remaining := d.remaining
    let entries := remaining.erase orderName
    let slots ← slots typeName entries
    checkNaming typeName entries
    let words := d.words.map fun name => (name, (entries.get? name).getD .null)
    checkWords (wordFault? typeName entries slots) (words.map Prod.snd)
    checkOrder words ((remaining.get? orderName).getD .null)
    let hasReading := entries.contains reading || slots.contains reading
    return .other (if hasReading then .noOptions else .hiddenLack reading)
  | none, _ => .error .noOptions

end Draft

end EventPipeline.Engine
