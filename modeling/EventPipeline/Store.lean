import EventPipeline.Document.Edit
import EventPipeline.Document.Interchange
import EventPipeline.Document.Loading
import EventPipeline.Lack
import EventPipeline.Lint
import EventPipeline.Pointy.Writer
import EventPipeline.Store.Backend

/-!
# The pipeline store

A store holds the current document of a pipeline and keeps it in one slot of a medium. Every
operation that changes the document ends in `commit`: the whole new document is written to the
slot, and it becomes the current one only when that succeeded. An operation that fails before has
changed nothing.

`run` is the only way on: it gives the store after an operation, what was reported, and the reply or
the cause of failure. New events get their ids from the surroundings, and an id is used up as soon
as it is drawn.

Keys, ids, names and texts come as values of any kind. An id that is no text is that of nothing; a
name or a text is needed only when what it is for has been found.
-/

namespace EventPipeline

/-- What surrounds a store and never changes. -/
structure Surroundings where
  /-- The settings. -/
  settings : Settings
  /-- The environment. -/
  environment : Environment
  /-- The ids for new events, in the order in which they are drawn. -/
  eventId : Nat → Text

/-- The value of a setting, or one to use when it is missing, as the interchange value that stands for
it. -/
def Surroundings.setting (around : Surroundings) (key : Text) (fallback : Script.Value) :
    Except SettingsError Json :=
  (around.settings.get around.environment key fallback).map Script.Value.toJson

/-- A store. -/
structure Store where
  /-- The key of the slot. -/
  key : Json
  /-- The current document. -/
  document : Document
  /-- Where the slot is. -/
  medium : Medium
  /-- How many ids for new events were drawn so far. -/
  drawn : Nat

/-- Why an operation failed. -/
inductive StoreError
  /-- The pipeline has no name yet. -/
  | notConfigured
  /-- The current document has no configuration. -/
  | noConfig
  /-- There is no event of an id. -/
  | noEvent (id : Json)
  /-- There is no connection of an id. -/
  | noConnection (id : Json)
  /-- A value can be no id. -/
  | noId
  /-- A value can be no name. -/
  | noName
  /-- A value is no text. -/
  | noText (lack : Lack)
  /-- A text is no document. -/
  | load (error : LoadError)
  /-- The document cannot be written. -/
  | unwritable
  /-- The backend failed. -/
  | backend (error : BackendError)
  /-- A value is no part of a document. -/
  | invalid (part : Part) (issues : List Issue)
  /-- A setting has no value. -/
  | settings (error : SettingsError)
  /-- Events could not be placed. -/
  | grid (error : GridError)
  deriving DecidableEq, Repr

/-- The wording of a failure; those that need none have an empty one. -/
def StoreError.message : StoreError → Text
  | notConfigured => "Please create a new pipeline first".toList
  | noConfig => []
  | noEvent id => "Event '".toList ++ id.plain ++ "' does not exist".toList
  | noConnection id => "Connection '".toList ++ id.plain ++ "' does not exist".toList
  | noId => []
  | noName => []
  | noText lack => lack.message
  | load e => e.message
  | unwritable => Json.limitMessage ++ Json.limitAdvice
  | backend e => e.message
  | invalid part issues => LoadError.issueCount issues part
  | settings e => e.message
  | grid _ => []

/-- The operations of a store. -/
inductive Operation
  /-- Read the document from the slot. -/
  | load
  /-- Write a document, or the current one, and make it current. -/
  | save (document : Option Document)
  /-- Write a document and make it current; it gets an empty configuration if it has none. -/
  | replace (document : Document)
  /-- Begin an empty pipeline. -/
  | newPipeline (config : Config)
  /-- Add an event; a name, code or position that is not given has a default, and a name or code
  that is given as no text is refused. -/
  | addEvent (name code : Json) (position : Option Position)
  /-- Give an event another name. -/
  | rename (id name : Json)
  /-- Give an event other code. -/
  | recode (id code : Json)
  /-- Put an event elsewhere, or nowhere. -/
  | move (id : Json) (position : Option Position)
  /-- Remove events and their connections. -/
  | remove (ids : List Json)
  /-- Connect two events. -/
  | connect (source target : Json)
  /-- Remove a connection. -/
  | disconnect (id : Json)
  /-- Write the current document as interchange text. -/
  | exportJson (style : Json.Style)
  /-- Take over the document of an interchange text, which comes as a value. -/
  | importJson (source : Json)
  /-- Take over the document of an interchange text, which comes as bytes. -/
  | importBytes (bytes : Bytes)
  /-- Write the current document as pointy text. -/
  | exportPointy
  /-- Take over the events and connections of a pointy text and keep the configuration. -/
  | importPointy (text : Json) (strict : Bool)
  /-- The name of a file for an export. -/
  | exportFileName (extension : Json)
  /-- The configuration. -/
  | config
  /-- Close the backend. -/
  | close

/-- What an operation gives back. -/
inductive Reply
  /-- Nothing. -/
  | done
  /-- A document. -/
  | document (d : Document)
  /-- An event. -/
  | event (e : Event)
  /-- A connection. -/
  | connection (c : Connection)
  /-- Remarks on code. -/
  | remarks (lines : List Text)
  /-- A text. -/
  | text (s : Text)
  /-- A configuration, if there is one. -/
  | config (c : Option Config)

/-- The outcome of an operation. -/
structure Outcome where
  /-- The store after it. -/
  store : Store
  /-- What was reported. -/
  log : Log
  /-- The reply, or why it failed. -/
  result : Except StoreError Reply

namespace Store

/-! ## Opening -/

/-- The document of a store that has read nothing yet. -/
def emptyDocument : Document :=
  Document.empty Config.empty

/-- The key of a store: the one that is given unless it stands for nothing, or that of the
settings. -/
def keyFor (around : Surroundings) (given : Json) : Except SettingsError Json :=
  if given.isEmpty then around.setting "STORAGE_KEY".toList (.text Settings.storageKey)
  else .ok given

/-! ## Outcomes -/

/-- The store is as it was and the operation failed. -/
def fail (s : Store) (e : StoreError) : Outcome :=
  ⟨s, [], .error e⟩

/-- The store is as it was and there is a reply. -/
def reply (s : Store) (log : Log) (r : Reply) : Outcome :=
  ⟨s, log, .ok r⟩

/-- Writes a document to the slot and makes it current if that succeeds. -/
def commit (s : Store) (log : Log) (d : Document) (r : Reply) : Outcome :=
  match d.write? .inline with
  | none => ⟨s, log, .error .unwritable⟩
  | some payload =>
    let (medium, writeLog, result) := s.medium.write s.key (.text payload)
    match result with
    | .error e => ⟨{ s with medium := medium }, log ++ writeLog, .error (.backend e)⟩
    | .ok () => ⟨{ s with medium := medium, document := d }, log ++ writeLog, .ok r⟩

/-- Writes the document that an edit gives, or fails because there is no event of an id. -/
def commitEdit (s : Store) (id : Json) (log : Log) (edited : Option Document) (r : Reply) :
    Outcome :=
  match edited with
  | none => s.fail (.noEvent id)
  | some d => s.commit log d r

/-- Goes on with the node of an id, or fails because there is none. -/
def withNode (s : Store) (id : Json) (f : Text → Node → Outcome) : Outcome :=
  match id with
  | .text pk =>
    match s.document.node? pk with
    | some n => f pk n
    | none => s.fail (.noEvent id)
  | _ => s.fail (.noEvent id)

/-! ## Reports -/

/-- A warning of the store. -/
def warning (message : Text) : LogRecord where
  level := .warning
  source := .store
  message := message

/-- The warning about a name that pointy text cannot carry. -/
def nameLog (name : EventName) : Log :=
  if name.isIdentifier then []
  else [warning ("Event name '".toList ++ name.text ++
    "' is not a pointy identifier, it will not survive a pointy export".toList)]

/-- The warning about remarks on the code of an event. -/
def codeLog (name : EventName) (remarks : List Text) : Log :=
  if remarks.isEmpty then []
  else [warning ("Python code validation errors for event '".toList ++ name.text ++ "': ".toList ++
    Text.shownList (remarks.map Text.shown))]

/-- The report of a text that could not be taken over. -/
def importLog (e : LoadError) : Log :=
  [{ level := .error, source := .store
     message := "Failed to import pipeline: ".toList ++ e.message }]

/-! ## Operations -/

/-- Reads the slot: an empty one holds an empty document. -/
def load (s : Store) : Outcome :=
  match s.medium.read s.key with
  | .error e => s.fail (.backend e)
  | .ok .null => ⟨{ s with document := emptyDocument }, [], .ok (.document emptyDocument)⟩
  | .ok payload =>
    match Document.ofTextValue payload with
    | .error e => s.fail (.load e)
    | .ok d => ⟨{ s with document := d }, [], .ok (.document d)⟩

/-- Writes a document, with an empty configuration if it has none. -/
def replace (s : Store) (d : Document) (r : Document → Reply) : Outcome :=
  let d := { d with config := some (d.config.getD Config.empty) }
  s.commit [] d (r d)

/-- Where an event is put when no position is given. -/
def standardPosition : Position where
  x := Binary64.ofInt 100
  y := Binary64.ofInt 100

/-- A value that is given, or a setting. -/
def givenOr (around : Surroundings) (given : Json) (key fallback : Text) :
    Except SettingsError Json :=
  if given.isNull then around.setting key (.text fallback) else .ok given

/-- The event of an id, a name and code, of which the last two may be any values. -/
def newEvent (id : Text) (name code : Json) : Checked Event :=
  Event.check (.object [("id".toList, .text id), ("name".toList, name), ("code".toList, code)])

/-- Adds an event to a configured pipeline. -/
def addEvent (around : Surroundings) (s : Store) (name code : Json)
    (position : Option Position) : Outcome :=
  match s.document.config with
  | none => s.fail .noConfig
  | some config =>
    if !config.isConfigured then s.fail .notConfigured
    else
      match givenOr around name "DEFAULT_EVENT_NAME".toList Settings.defaultEventName with
      | .error e => s.fail (.settings e)
      | .ok name =>
        match givenOr around code "DEFAULT_EVENT_CODE".toList Settings.defaultEventCode with
        | .error e => s.fail (.settings e)
        | .ok code =>
          let id := around.eventId s.drawn
          let s := { s with drawn := s.drawn + 1 }
          match newEvent id name code with
          | .error issues => s.fail (.invalid .event issues)
          | .ok e =>
            s.commit (nameLog e.name) (s.document.addEvent e (position.getD standardPosition))
              (.event e)

/-- Gives an event another name. -/
def rename (s : Store) (id name : Json) : Outcome :=
  s.withNode id fun pk n =>
    match EventName.ofJson? name with
    | none => s.fail .noName
    | some name =>
      s.commitEdit id (nameLog name) (s.document.rename? pk name)
        (.event { n.event with name := name })

/-- Gives an event other code, with remarks on it. -/
def recode (s : Store) (id code : Json) : Outcome :=
  s.withNode id fun pk n =>
    match code with
    | .text code =>
      let remarks := Lint.warnings code
      s.commitEdit id (codeLog n.event.name remarks) (s.document.recode? pk code)
        (.remarks remarks)
    | v => s.fail (.noText (.ofJson v "split"))

/-- Puts an event elsewhere, or nowhere. -/
def move (s : Store) (id : Json) (position : Option Position) : Outcome :=
  s.withNode id fun pk _ => s.commitEdit id [] (s.document.move? pk position) .done

/-- Removes events and their connections: an id that is no text is that of none, and one that has
parts cannot be looked for. -/
def remove (s : Store) (ids : List Json) : Outcome :=
  if ids.all Json.isAtom then
    s.commit [] (s.document.removeEvents (ids.filterMap Json.text?)) .done
  else s.fail .noId

/-- Connects two events. -/
def connect (s : Store) (source target : Json) : Outcome :=
  s.withNode source fun source _ => s.withNode target fun target _ =>
    let c := s.document.newConnection source target
    s.commit [] (s.document.addConnection c) (.connection c)

/-- Removes a connection. -/
def disconnect (s : Store) (id : Json) : Outcome :=
  match id with
  | .text pk =>
    if (s.document.connection? pk).isNone then s.fail (.noConnection id)
    else s.commit [] (s.document.removeConnection pk) .done
  | _ => s.fail (.noConnection id)

/-- Takes over a document that was loaded, if it was. -/
def importLoaded (s : Store) : Except LoadError Document → Outcome
  | .error e => ⟨s, importLog e, .error (.load e)⟩
  | .ok d => s.replace d .document

/-- Takes over the events and connections of a pointy text. -/
def importPointy (around : Surroundings) (s : Store) (text : Json) (strict : Bool) : Outcome :=
  match Grid.ofSettings around.settings around.environment, text with
  | .error e, _ => s.fail (.grid e)
  | .ok grid, .text text =>
    match Pointy.read strict grid text with
    | .error e => s.fail (.grid e)
    | .ok reading =>
      let outcome := s.replace (reading.document.withConfig s.document.config) .document
      { outcome with log := reading.log ++ outcome.log }
  | .ok _, v => s.fail (.noText (.ofJson v "replace"))

/-- The name of a file for an export: the name of the pipeline, if it has one. -/
def exportFileName (s : Store) (extension : Json) : Outcome :=
  match s.document.config with
  | none => s.fail .noConfig
  | some config =>
    let name := if config.name.isEmpty then "pipeline".toList else config.name
    s.reply [] (.text (name ++ '.' :: extension.plain))

/-- The outcome of an operation. -/
def run (around : Surroundings) (s : Store) : Operation → Outcome
  | .load => s.load
  | .save d => s.commit [] (d.getD s.document) .done
  | .replace d => s.replace d fun _ => .done
  | .newPipeline config => s.replace (Document.empty config) .document
  | .addEvent name code position => s.addEvent around name code position
  | .rename id name => s.rename id name
  | .recode id code => s.recode id code
  | .move id position => s.move id position
  | .remove ids => s.remove ids
  | .connect source target => s.connect source target
  | .disconnect id => s.disconnect id
  | .exportJson style =>
    match s.document.write? style with
    | none => s.fail .unwritable
    | some text => s.reply [] (.text text)
  | .importJson source => s.importLoaded (Document.ofTextValue source)
  | .importBytes bytes => s.importLoaded (Document.ofBytes bytes)
  | .exportPointy => s.reply (Pointy.writeLog s.document) (.text (Pointy.write s.document))
  | .importPointy text strict => s.importPointy around text strict
  | .exportFileName extension => s.exportFileName extension
  | .config => s.reply [] (.config s.document.config)
  | .close => ⟨{ s with medium := s.medium.close }, [], .ok .done⟩

end Store

end EventPipeline
