import EventPipeline.Store.Engine.Recipe

/-!
# Engines that are functions

Recipes of the functions that work on texts, names, documents, fields and files, and of the program
itself. What such a function gives is never a backend.
-/

namespace EventPipeline.Engine

/-! ## Texts and names -/

/-- The recipe of a function that works on one text, which it asks for a feature, and gives
something of a kind. -/
def textRecipe (option feature kind : String) : Recipe where
  required := [option]
  make _ _ options :=
    match options.value option with
    | .text _ => .ok (.ofKind kind.toList)
    | v => .error (.lack (.ofJson v feature))

/-- The recipe of a function that asks the value of an option for a feature that no value has. -/
def lackingRecipe (option feature : String) : Recipe where
  required := [option]
  make _ _ options := .error (.lack (.ofJson (options.value option) feature))

/-- The recipe of the function that tells identifiers. -/
def identifierRecipe : Recipe where
  required := ["name"]
  make _ _ options :=
    if ((EventName.ofJson? (options.value "name")).isSome) then .ok (.ofKind "bool".toList)
    else .error .noOptions

/-- Whether the ids in a value can be looked for: the items of a list, the characters of a text or
the names of an object. -/
def areIds : Json → Bool
  | .text _ => true
  | .list items => items.all Json.isAtom
  | .object _ => true
  | _ => false

/-- The recipe of the function that makes ids of connections. -/
def connectionIdRecipe : Recipe where
  required := ["source", "target"]
  optional := ["existing"]
  make _ _ options :=
    if areIds ((options.get? "existing".toList).getD (.list [])) then .ok (.ofKind "str".toList)
    else .error .noOptions

/-- The recipe of the function that reads pointy text. -/
def pointyRecipe : Recipe where
  required := ["text"]
  optional := ["strict"]
  make around _ options :=
    match Grid.ofSettings around.settings around.environment, options.value "text" with
    | .error e, _ => .error (.grid e)
    | .ok grid, .text s =>
      match Pointy.read (!(options.value "strict").isEmpty) grid s with
      | .error e => .error (.grid e)
      | .ok _ => .ok (.ofKind Part.document.name)
    | .ok _, v => .error (.lack (.ofJson v "replace"))

/-! ## Fields -/

/-- The options of fields that are used no more. -/
def outdatedOptions : List String :=
  ["const", "unique_items", "regex"]

/-- The recipe of the function that describes a member of a part of a document. -/
def memberFieldRecipe : Recipe where
  further := true
  make _ _ options :=
    let spelling := options.value "validation_alias"
    if outdatedOptions.any fun name => !(options.value name).isNull then .error .onlyRefined
    else if !spelling.isEmpty && spelling.text?.isNone then .error .noOptions
    else if options.has "default" && !(options.value "default_factory").isNull then
      .error .noOptions
    else .ok (.ofKind "FieldInfo".toList)

/-- The recipe of the function that describes a field of a record. -/
def recordFieldRecipe : Recipe where
  optional := ["default", "default_factory", "init", "repr", "hash", "compare", "metadata",
    "kw_only"]
  make _ _ options :=
    if options.has "default" && options.has "default_factory" then .error (.option .twoDefaults)
    else
      match options.value "metadata" with
      | .null => .ok (.ofKind "Field".toList)
      | .text _ => .ok (.ofKind "Field".toList)
      | .object _ => .ok (.ofKind "Field".toList)
      | _ => .error .noOptions

/-! ## Files -/

/-- The path that a value names, which may also be the number of an open file. -/
def pathOf : Json → Except EngineError Text
  | .text path => .ok path
  | .int n =>
    if Settings.handleLimit < n || n < -(Settings.handleLimit + 1) then .error .noOptions
    else if n < 0 then .error (.option .negativeHandle)
    else .error .noHandle
  | _ => .error .noOptions

/-- The recipe of the function that reads a file. -/
def readFileRecipe : Recipe where
  required := ["path"]
  make _ files options :=
    match pathOf (options.value "path") with
    | .error e => .error e
    | .ok path =>
      match files.read path with
      | .error e => .error (.path e)
      | .ok bytes =>
        match SlotFile.textOfBytes bytes with
        | .error e => .error (.undecodable e)
        | .ok _ => .ok (.ofKind "str".toList)

/-- The recipe of the function that writes a file, or to the output when it is given no path. -/
def writeFileRecipe : Recipe where
  required := ["text", "path"]
  make _ files options :=
    let written : Except EngineError Product :=
      match options.value "text" with
      | .text _ => .ok .nothing
      | _ => .error .noOptions
    match options.value "path" with
    | .null => written
    | v =>
      match pathOf v with
      | .error e => .error e
      | .ok path =>
        match files.write path [] with
        | .error e => .error (.path e)
        | .ok _ => written

/-! ## The program -/

/-- The first of some values. -/
def firstOf : Json → Except EngineError Unit
  | .list [] => .error .noItem
  | .text [] => .error .noItem
  | .list _ => .ok ()
  | .text _ => .ok ()
  | .object _ => .error .noMember
  | _ => .error .noOptions

/-- The recipe of what takes the name of a command. -/
def commandNameRecipe : Recipe where
  required := ["parser", "namespace", "values"]
  optional := ["option_string"]
  make _ _ options :=
    match firstOf (options.value "values") with
    | .error e => .error e
    | .ok () => .error (.lack (.ofJson (options.value "namespace") "command"))

/-- The arguments that a value gives: its items or characters. -/
def argumentsOf : Json → Except EngineError (List Text)
  | .text s => .ok (s.map fun c => [c])
  | .object members => .ok (members.map Prod.fst)
  | .list items =>
    if items.all fun v => v.text?.isSome then .ok (items.filterMap Json.text?)
    else .error .noOptions
  | .null => .error .usage
  | _ => .error .noOptions

/-- The invocation of the program that options ask for. -/
def invocationOf (options : Options) : Except EngineError CommandLine.Invocation :=
  match argumentsOf (options.value "argv") with
  | .error e => .error e
  | .ok args => (CommandLine.readArguments args).mapError fun _ => .usage

/-- The recipe of the program, which places events by the settings. -/
def programRecipe : Recipe where
  optional := ["argv"]
  make around files options :=
    match invocationOf options with
    | .error e => .error e
    | .ok i =>
      let grid := Grid.ofSettings around.settings around.environment
      match (CommandLine.runInvocation files grid i).unexpected with
      | some failure => .error (.command failure)
      | none => .ok (.ofKind "int".toList)
  log around files options :=
    match invocationOf options with
    | .error _ => []
    | .ok i =>
      let grid := Grid.ofSettings around.settings around.environment
      (CommandLine.execute files.read grid i.command).log

/-! ## What every module offers -/

/-- The recipe of a function of a module that takes no options and gives something of a kind. -/
def moduleFunctionRecipe (kind : String) : Recipe :=
  .plain kind [] []

/-- The recipe of the function that sets up a module. -/
def moduleSetupRecipe : Recipe where
  required := ["name"]
  optional := ["doc"]
  make _ _ options :=
    match options.value "name" with
    | .text _ => .ok .nothing
    | _ => .error .noOptions

end EventPipeline.Engine
