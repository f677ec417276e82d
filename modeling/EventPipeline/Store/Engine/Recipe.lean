import EventPipeline.CommandLine
import EventPipeline.Component
import EventPipeline.Json.Shown
import EventPipeline.Store.Shelf

/-!
# Recipes of storage engines

An engine is a component that makes something of options. Its recipe says which options it takes and
what comes of them: a backend, or something else, of which only matters what happens when it is
asked to read, because that is what a store does first.
-/

namespace EventPipeline

/-- What is wrong with an option that is of the right kind. -/
inductive OptionFault
  /-- A text says nothing about line ends. -/
  | lineEnds (value : Json)
  /-- There are two sources for the default of a field. -/
  | twoDefaults
  /-- Patterns for texts cannot go by a locale. -/
  | localeFlag
  /-- Patterns cannot be for two alphabets at once. -/
  | twoAlphabets
  /-- The name of a word is kept for later use. -/
  | reservedName (name : Json)
  /-- Names that are to be ignored are those of words. -/
  | takenNames (names : List Text)
  /-- A slot has the name of an entry. -/
  | takenSlot (name : Text)
  /-- No word can have the name. -/
  | forbiddenName (name : Text)
  /-- The name of a type holds a null character. -/
  | nullInName
  /-- A pair has too few parts. -/
  | fewParts (count : Nat)
  /-- A pair has too many parts. -/
  | manyParts
  /-- The number of a file is negative. -/
  | negativeHandle
  deriving DecidableEq, Repr

/-- The wording of a fault. -/
def OptionFault.message : OptionFault → Text
  | lineEnds value => "illegal newline value: ".toList ++ value.shown
  | twoDefaults => "cannot specify both default and default_factory".toList
  | localeFlag => "cannot use LOCALE flag with a str pattern".toList
  | twoAlphabets => "ASCII and UNICODE flags are incompatible".toList
  | reservedName name => "_sunder_ names, such as ".toList ++ name.shown ++
      ", are reserved for future Enum use".toList
  | takenNames names => "_ignore_ cannot specify already set names: \x7b".toList ++
      Text.join [',', ' '] (names.map Text.shown) ++ ['}']
  | takenSlot name => name.shown ++ " in __slots__ conflicts with class variable".toList
  | forbiddenName name => "invalid enum member name(s) ".toList ++ name.shown
  | nullInName => "type name must not contain null characters".toList
  | fewParts count => "not enough values to unpack (expected 2, got ".toList ++ Text.ofNat count ++
      [')']
  | manyParts => "too many values to unpack (expected 2)".toList
  | negativeHandle => "negative file descriptor".toList

/-- Why an engine gives no backend. -/
inductive EngineError
  /-- The component does not take the options, or cannot be asked to read. -/
  | noOptions
  /-- The component can only be refined. -/
  | onlyRefined
  /-- The options are no part of a document. -/
  | invalid (part : Part) (issues : List Issue)
  /-- A value is none of the words of a type. -/
  | noWord (value : Json) (typeName : Text)
  /-- An option has the right kind but says nothing. -/
  | option (fault : OptionFault)
  /-- A number is too large for what it is to say. -/
  | oversized
  /-- A list of values is empty. -/
  | noItem
  /-- Something has no member of a name. -/
  | noMember
  /-- Something lacks a feature. -/
  | lack (lack : Lack)
  /-- Something that does not tell what it is lacks a feature. -/
  | hiddenLack (feature : Text)
  /-- There is no component or module of a name. -/
  | find (error : Component.FindError)
  /-- A text is no script. -/
  | fault (fault : Script.Fault)
  /-- A script fails. -/
  | run (error : Script.RunError)
  /-- The making never ends. -/
  | endless
  /-- A setting has no value, or settings could not be loaded. -/
  | settings (error : SettingsError)
  /-- Events could not be placed. -/
  | grid (error : GridError)
  /-- The backend could not be opened. -/
  | backend (error : OpenError)
  /-- A file could not be used. -/
  | path (error : PathError)
  /-- The number of a file is that of none. -/
  | noHandle
  /-- The bytes of a file are no text. -/
  | undecodable (error : DecodeError)
  /-- A command line cannot be followed. -/
  | usage
  /-- A command failed in a way that it does not report itself. -/
  | command (failure : CommandLine.Failure)
  deriving DecidableEq, Repr

/-- The wording of a failure; those that need none have an empty one. -/
def EngineError.message : EngineError → Text
  | invalid part issues => LoadError.issueCount issues part
  | noWord value typeName => value.shown ++ " is not a valid ".toList ++ typeName
  | option o => o.message
  | lack l => l.message
  | hiddenLack feature => feature
  | find e => e.message
  | fault f => f.message
  | run e => e.message
  | settings e => e.message
  | backend e => e.message
  | path e => e.message
  | undecodable e => e.message
  | command f => f.message
  | _ => []

namespace Engine

/-- What an engine makes. -/
inductive Product
  /-- What can stand on a shelf. -/
  | shelved (content : Shelved)
  /-- Something that fails when it is asked to read. -/
  | other (failure : EngineError)

/-- The operation that a store asks for first. -/
def reading : Text := "read".toList

/-- Something of a kind that does not offer reading. -/
def Product.ofKind (kind : Text) : Product :=
  .other (.lack (.ofKind kind reading))

/-- Nothing. -/
def Product.nothing : Product :=
  .other (.lack (.ofJson .null "read"))

/-- The options of an engine. -/
abbrev Options := Dictionary Text Json

/-- The value of an option, or null. -/
def Options.value (options : Options) (name : String) : Json :=
  (options.get? name.toList).getD .null

/-- Whether an option is given, if only as null. -/
def Options.has (options : Options) (name : String) : Bool :=
  options.contains name.toList

/-- How a component makes something of options. -/
structure Recipe where
  /-- The options that have to be given. -/
  required : List String := []
  /-- The options that may be given. -/
  optional : List String := []
  /-- Whether further options may be given. -/
  further : Bool := false
  /-- What comes of options. -/
  make : Surroundings → FileTree Bytes → Options → Except EngineError Product
  /-- What is reported on the way. -/
  log : Surroundings → FileTree Bytes → Options → Log := fun _ _ _ => []

namespace Recipe

/-- Whether a recipe takes some options. -/
def takes (r : Recipe) (options : Options) : Bool :=
  (r.required.all fun name => options.has name) &&
    (r.further || options.all fun o =>
      (r.required ++ r.optional).any fun name => name.toList == o.1)

/-- What a recipe makes of options, if it takes them. -/
def follow (r : Recipe) (around : Surroundings) (files : FileTree Bytes)
    (options : Options) : Except EngineError Product :=
  if r.takes options then r.make around files options else .error .noOptions

/-- What a recipe reports about options, if it takes them. -/
def report (r : Recipe) (around : Surroundings) (files : FileTree Bytes) (options : Options) :
    Log :=
  if r.takes options then r.log around files options else []

/-- The recipe for something of a kind, whatever the options are. -/
def plain (kind : String) (required optional : List String) : Recipe where
  required := required
  optional := optional
  make _ _ _ := .ok (.ofKind kind.toList)

/-- The recipe for something of a kind that takes any options. -/
def anything (kind : String) : Recipe where
  further := true
  make _ _ _ := .ok (.ofKind kind.toList)

/-- The recipe that takes no options. -/
def none : Recipe where
  make _ _ _ := .error .noOptions

end Recipe

end Engine

end EventPipeline
