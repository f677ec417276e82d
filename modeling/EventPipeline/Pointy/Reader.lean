import EventPipeline.Diagnostic
import EventPipeline.Log
import EventPipeline.Pointy.Grid
import EventPipeline.Pointy.Token
import EventPipeline.Text.Quoted

/-!
# Reading pointy text

Pointy text is read line by line and never refused. Outside a block a line opens a block, declares
a connection, says nothing, or is not understood; inside a block every line is code until one that
is only a closing brace, and comment lines are left out of the code.

`entries` is the text as the list of what it says, each with a line; all else is read off that list:

* `events` is the code of every name in the order in which the names were first declared. When a
  name is declared again, the later code counts, or in strict mode the earlier one.
* `connections` is every connection line, whether its ends are declared or not.
* `remarks` is about everything of the text that the document does not hold. Whether the ends of a
  connection are declared is known only in the end, so the remarks are sorted by their lines.

`read` places the events on a grid and makes a document of them.
-/

namespace EventPipeline.Pointy

/-! ## Lines -/

/-- What a line says outside a block. -/
inductive Line
  /-- Nothing. -/
  | silent
  /-- A block of this name begins. -/
  | header (name : Text)
  /-- There is a connection. -/
  | connection (source target : Text)
  /-- Something that is not understood. -/
  | unrecognized
  deriving DecidableEq, Repr

/-- Whether a trimmed line is a comment. -/
def isComment (trimmed : Text) : Bool :=
  trimmed.startsWith ['/', '/']

/-- Whether a trimmed line ends a block. -/
def isClosing (trimmed : Text) : Bool :=
  trimmed == ['}']

/-- What the tokens of a line say. -/
def Line.ofTokens : List Token → Line
  | ⟨.identifier, name, _⟩ :: ⟨.leftBrace, _, _⟩ :: _ => header name
  | [⟨.identifier, source, _⟩, ⟨.arrow, _, _⟩, ⟨.identifier, target, _⟩] =>
    connection source target
  | _ => unrecognized

/-- What a line says. -/
def Line.ofText (line : Text) : Line :=
  let trimmed := line.trim
  if trimmed.isEmpty || isComment trimmed then silent else ofTokens (tokens trimmed)

/-! ## What a text says -/

/-- A thing that a text says. -/
inductive Item
  /-- A block of code under a name. -/
  | event (name code : Text)
  /-- A connection line. -/
  | connection (source target : Text)
  /-- A line that is not understood. -/
  | unrecognized (line : Text)
  /-- A block that does not end. -/
  | unterminated (name : Text)
  deriving DecidableEq, Repr

/-- A thing that a text says and its line, which for a block is the line of its name. -/
structure Entry where
  /-- The line, counted from one. -/
  line : Nat
  /-- What is said. -/
  item : Item
  deriving DecidableEq, Repr

/-- A block that has not ended yet. -/
structure Block where
  /-- The name. -/
  name : Text
  /-- The line of the name. -/
  line : Nat
  /-- The lines of code so far, the latest first. -/
  body : List Text
  deriving DecidableEq, Repr

/-- The code of lines: each is ended by a line feed, and the whole is trimmed. -/
def codeOfLines (lines : List Text) : Text :=
  Text.trim (lines.flatMap (· ++ ['\n']))

/-- The code of a block. -/
def Block.code (b : Block) : Text :=
  codeOfLines b.body.reverse

/-- The block with one more line, unless that is a comment. -/
def Block.add (b : Block) (line : Text) : Block :=
  if isComment line.trim then b else { b with body := line :: b.body }

/-- What the lines from a number on say, when a block may be open. A block is said where it ends. -/
def entriesFrom : (current : Option Block) → (number : Nat) → List Text → List Entry
  | none, _, [] => []
  | some b, _, [] => [⟨b.line, .unterminated b.name⟩]
  | some b, number, line :: rest =>
    if isClosing line.trim then
      ⟨b.line, .event b.name b.code⟩ :: entriesFrom none (number + 1) rest
    else entriesFrom (some (b.add line)) (number + 1) rest
  | none, number, line :: rest =>
    match Line.ofText line with
    | .silent => entriesFrom none (number + 1) rest
    | .header name => entriesFrom (some ⟨name, number, []⟩) (number + 1) rest
    | .connection source target =>
      ⟨number, .connection source target⟩ :: entriesFrom none (number + 1) rest
    | .unrecognized => ⟨number, .unrecognized line⟩ :: entriesFrom none (number + 1) rest

/-- What a text says. -/
def entries (s : Text) : List Entry :=
  entriesFrom none 1 s.joinCrLf.lines

/-! ## Events and connections -/

/-- The events after one more entry. -/
def addEvent (strict : Bool) (events : Dictionary Text Text) (e : Entry) : Dictionary Text Text :=
  match e.item with
  | .event name code => if strict then events.putNew name code else events.put name code
  | _ => events

/-- The code of every name that a block declares. -/
def events (strict : Bool) (es : List Entry) : Dictionary Text Text :=
  es.foldl (addEvent strict) []

/-- The connections in order, by the names of their ends. -/
def connections (es : List Entry) : List (Text × Text) :=
  es.filterMap fun e => match e.item with
    | .connection source target => some (source, target)
    | _ => none

/-! ## Remarks -/

/-- The ends of a connection, each once. -/
def endpoints (source target : Text) : List Text :=
  if source = target then [source] else [source, target]

/-- The remarks on one entry when it is read, given the names declared before it. -/
def passConcerns (strict : Bool) (seen : List Text) : Item → List Concern
  | .event name _ => if strict && seen.contains name then [.duplicate name] else []
  | .connection _ _ => []
  | .unrecognized _ => [.unrecognized]
  | .unterminated name => [.unterminated name]

/-- The names that are declared once an item has been read. -/
def Item.declare (seen : List Text) : Item → List Text
  | .event name _ => name :: seen
  | _ => seen

/-- The remarks on entries when they are read, given the names declared before. -/
def passRemarks (strict : Bool) : (seen : List Text) → List Entry → List Diagnostic
  | _, [] => []
  | seen, e :: rest =>
    (passConcerns strict seen e.item).map (⟨·, e.line⟩) ++
      passRemarks strict (e.item.declare seen) rest

/-- The remarks on one entry in the end, given the names of all events. -/
def endConcerns (declared : List Text) : Item → List Concern
  | .connection source target =>
    ((endpoints source target).filter fun name => !declared.contains name).map .undeclared
  | _ => []

/-- The remarks on entries in the end. -/
def endRemarks (declared : List Text) (es : List Entry) : List Diagnostic :=
  es.flatMap fun e => (endConcerns declared e.item).map (⟨·, e.line⟩)

/-- The remarks on what a text says, sorted by their lines. -/
def remarks (strict : Bool) (es : List Entry) : List Diagnostic :=
  (passRemarks strict [] es ++ endRemarks (events strict es).keys es).mergeSort
    fun r r' => r.line ≤ r'.line

/-- What the reader notes for somebody who looks for a cause. -/
def noteFor (strict : Bool) (seen : List Text) (e : Entry) : Option Text :=
  match e.item with
  | .event name _ =>
    if !strict && seen.contains name then
      some ("Event '".toList ++ name ++ "' redefined, keeping the last block".toList)
    else none
  | .connection _ _ => none
  | .unrecognized line =>
    some ("Ignoring unrecognized pointy line ".toList ++ Text.ofNat e.line ++ [':', ' '] ++
      line.shown)
  | .unterminated name =>
    some ("Discarding unterminated event '".toList ++ name ++ ['\''])

/-- The notes on entries, given the names declared before. -/
def notesFrom (strict : Bool) : (seen : List Text) → List Entry → Log
  | _, [] => []
  | seen, e :: rest =>
    ((noteFor strict seen e).map fun s => LogRecord.mk .debug .reader s).toList ++
      notesFrom strict (e.item.declare seen) rest

/-! ## Documents -/

/-- A document that was read, and what there is to say about it. -/
structure Reading where
  /-- The document. -/
  document : Document
  /-- The remarks. -/
  diagnostics : List Diagnostic
  /-- The notes. -/
  log : Log

/-- The event of a name. -/
def eventOf (name code : Text) : Event where
  id := eventIdOfName name
  name := .given name
  code := code

/-- The connection between two names. -/
def connectionOf (source target : Text) : Connection where
  id := plainConnectionId source target
  source := eventIdOfName source
  target := eventIdOfName target

/-- The nodes of events at positions. -/
def placeEvents (events : Dictionary Text Text) (positions : List Position) : List Node :=
  (events.zip positions).map fun (e, p) => Node.ofEvent (eventOf e.1 e.2) p

/-- The document of the entries of a text. -/
def documentOf (strict : Bool) (grid : Grid) (es : List Entry) : Except GridError Document :=
  let declared := events strict es
  (grid.positions declared.length).map fun positions =>
    { config := none
      nodes := placeEvents declared positions
      edges := (connections es).map fun c => connectionOf c.1 c.2 }

/-- The document that a text denotes, with remarks on what it does not hold. -/
def read (strict : Bool) (grid : Grid) (s : Text) : Except GridError Reading :=
  let es := entries s
  (documentOf strict grid es).map fun d =>
    { document := d
      diagnostics := remarks strict es
      log := notesFrom strict [] es }

end EventPipeline.Pointy
