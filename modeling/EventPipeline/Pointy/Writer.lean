import EventPipeline.Document
import EventPipeline.Log
import EventPipeline.Pointy.Reader

/-!
# Writing pointy text

A document is written as one block per event, in the order of the nodes, and then one line per
connection, in the order of the edges. Code is written as it is. Connections with an end that is no
node, or one whose name is null, are left out.

Not every document can be read back: a name that is no identifier opens no block, a line of code
that is only a closing brace ends the block early, and a comment line is dropped. `warnings` says so
for every event that suffers from it.
-/

namespace EventPipeline.Pointy

/-! ## Text -/

/-- The block of an event. -/
def block (e : Event) : Text :=
  e.name.text ++ [' ', '{', '\n'] ++ e.code ++ ['\n', '}', '\n', '\n']

/-- The line of a connection between two names. -/
def link (source target : Text) : Text :=
  source ++ [' ', '-', '>', ' '] ++ target ++ ['\n']

/-- The name of a node, if there is the node and its name is not null. -/
def endName? (names : Dictionary Text EventName) (id : Text) : Option Text :=
  match names.get? id with
  | some name => if name.isNull then none else some name.text
  | none => none

/-- The names of the ends of a connection, if both are nodes of the document that have a name. -/
def endNames? (names : Dictionary Text EventName) (c : Connection) : Option (Text × Text) :=
  match endName? names c.source, endName? names c.target with
  | some source, some target => some (source, target)
  | _, _ => none

/-- The connections between nodes of the document, by the names of their ends. -/
def links (d : Document) : List (Text × Text) :=
  d.edges.filterMap (endNames? d.names)

/-- The pointy text of a document. -/
def write (d : Document) : Text :=
  d.events.flatMap block ++ (links d).flatMap fun l => link l.1 l.2

/-! ## Warnings -/

/-- Whether a line of code is lost when it is read back. -/
def isUnreadable (line : Text) : Bool :=
  isClosing line.trim || isComment line.trim

/-- The numbers of the lines that are lost when they are read back, from a number on. -/
def unreadableFrom : (number : Nat) → List Text → List Nat
  | _, [] => []
  | number, line :: rest =>
    if isUnreadable line then number :: unreadableFrom (number + 1) rest
    else unreadableFrom (number + 1) rest

/-- The numbers of the lines of code that are lost when they are read back. -/
def unreadableLines (code : Text) : List Nat :=
  unreadableFrom 1 code.lines

/-- The warning about a name that is no identifier. -/
def nameWarning (name : EventName) : Text :=
  "Event name '".toList ++ name.text ++
    "' is not a pointy identifier and will not be read back from pointy text".toList

/-- The warning about lines of code that are lost. -/
def codeWarning (name : EventName) (lines : List Nat) : Text :=
  "Code of event '".toList ++ name.text ++ "' has lines ".toList ++
    Text.shownList (lines.map Text.ofNat) ++
    " that pointy text cannot carry, they will be lost when read back".toList

/-- The warnings about an event. -/
def eventWarnings (e : Event) : List Text :=
  let lines := unreadableLines e.code
  (if e.name.isIdentifier then [] else [nameWarning e.name]) ++
    (if lines.isEmpty then [] else [codeWarning e.name lines])

/-- The warnings about a document. -/
def warnings (d : Document) : List Text :=
  d.events.flatMap eventWarnings

/-- The note about a connection that is left out. -/
def droppedNote (c : Connection) : Text :=
  "Dropping connection '".toList ++ c.id ++ "' (".toList ++ c.source ++ " -> ".toList ++ c.target ++
    "), an endpoint is not an event of the pipeline".toList

/-- The notes about the connections that are left out. -/
def droppedNotes (d : Document) : List Text :=
  let names := d.names
  (d.edges.filter fun c => (endNames? names c).isNone).map droppedNote

/-- What the writer reports about a document. -/
def writeLog (d : Document) : Log :=
  (warnings d).map (fun s => LogRecord.mk .warning .writer s) ++
    (droppedNotes d).map fun s => LogRecord.mk .debug .writer s

end EventPipeline.Pointy
