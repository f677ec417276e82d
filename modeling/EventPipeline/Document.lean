import EventPipeline.EventName

/-!
# Pipeline documents

A pipeline is a list of nodes, each of which wraps one event, and a list of connections between
events. An event carries code; the configuration describes the fields of the data that every
event's code works on. A document is the unit of storage and of transfer.

Nothing here asks ids to be unique or the ends of a connection to exist: where an id is looked up,
the first node or connection that has it counts.
-/

namespace EventPipeline

/-! ## Fields and configuration -/

/-- The kinds of data that a field may hold. -/
inductive DataType
  /-- Text. -/
  | string
  /-- Numbers. -/
  | number
  /-- Truth values. -/
  | boolean
  /-- Objects. -/
  | object
  /-- Lists. -/
  | array
  deriving DecidableEq, Repr

namespace DataType

/-- Every kind of data. -/
def all : List DataType :=
  [string, number, boolean, object, array]

/-- The word for a kind of data. -/
def word : DataType → Text
  | string => "string".toList
  | number => "number".toList
  | boolean => "boolean".toList
  | object => "object".toList
  | array => "array".toList

/-- The kind of data that a word stands for. -/
def ofWord? (s : Text) : Option DataType :=
  all.find? fun t => t.word = s

end DataType

/-- A positive integer. -/
abbrev Positive := { n : Nat // 0 < n }

/-- A field of the data that an event's code works on. It describes; no value is checked against
it. -/
structure Field where
  /-- The name under which code finds the field. -/
  name : Text
  /-- Whether the field has to be given. -/
  required : Bool
  /-- The kind of data that the field holds. -/
  dataType : DataType
  /-- The value of a field that is not given. -/
  default : Json
  /-- Whether the field is worked on in batches, if that is said. -/
  batchProcessor : Option Bool
  /-- The size of a batch, if that is said. -/
  batchSize : Option Positive
  deriving DecidableEq, Repr

namespace Field

/-- How code refers to the field. -/
def accessor (f : Field) : Text :=
  "data['".toList ++ f.name ++ "']".toList

/-- Whether the field is worked on in batches. -/
def hasBatches (f : Field) : Bool :=
  f.batchProcessor.getD false

/-- The field in a few words. -/
def describe (f : Field) : Text :=
  let size := match f.batchSize with
    | some n => Text.ofNat n.val
    | none => "None".toList
  let parts := [f.dataType.word] ++
    (if f.required then ["required".toList] else []) ++
    (if f.hasBatches then ["batch[".toList ++ size ++ [']']] else [])
  ['('] ++ Text.join [',', ' '] parts ++ [')']

end Field

/-- The configuration of a pipeline. -/
structure Config where
  /-- The name of the pipeline. -/
  name : Text
  /-- The fields of its data. -/
  fields : List Field
  deriving DecidableEq, Repr

namespace Config

/-- The configuration of a pipeline that nobody has set up. -/
def empty : Config where
  name := []
  fields := []

/-- A pipeline is configured once it has a name. -/
def isConfigured (c : Config) : Bool :=
  !c.name.isEmpty

end Config

/-! ## Events and connections -/

/-- A step of the pipeline. -/
structure Event where
  /-- The id of the event. -/
  id : Text
  /-- The name of the event. -/
  name : EventName
  /-- The code that the event runs. -/
  code : Text
  deriving DecidableEq, Repr

/-- A point of the canvas. -/
structure Position where
  /-- The distance to the right. -/
  x : Binary64
  /-- The distance downwards. -/
  y : Binary64
  deriving DecidableEq, Repr

/-- The corner of the canvas. -/
def Position.origin : Position where
  x := Binary64.zero
  y := Binary64.zero

/-- A node of the canvas, wrapping one event. -/
structure Node where
  /-- The id of the node. -/
  id : Text
  /-- The kind of the node. -/
  kind : Text
  /-- Where the node stands. Only an editor can take it off the canvas. -/
  position : Option Position
  /-- The event. -/
  event : Event
  deriving DecidableEq, Repr

/-- The kind of a node that wraps an event. -/
def Node.eventKind : Text :=
  "event".toList

/-- The node of an event, which has the event's id. -/
def Node.ofEvent (e : Event) (position : Position) : Node where
  id := e.id
  kind := Node.eventKind
  position := some position
  event := e

/-- A connection from one event to another, by their ids. -/
structure Connection where
  /-- The id of the connection. -/
  id : Text
  /-- The id of the event that it comes from. -/
  source : Text
  /-- The id of the event that it goes to. -/
  target : Text
  deriving DecidableEq, Repr

/-! ## Documents -/

/-- A pipeline. Only a document that was read from pointy text has no configuration. -/
structure Document where
  /-- The configuration, if there is one. -/
  config : Option Config
  /-- The nodes in order. -/
  nodes : List Node
  /-- The connections in order. -/
  edges : List Connection
  deriving DecidableEq, Repr

namespace Document

/-- The document of a pipeline without events. -/
def empty (config : Config) : Document where
  config := some config
  nodes := []
  edges := []

/-- The events in order. -/
def events (d : Document) : List Event :=
  d.nodes.map Node.event

/-- The first node of an id. -/
def node? (d : Document) (id : Text) : Option Node :=
  d.nodes.find? fun n => n.id = id

/-- The first event of an id. -/
def event? (d : Document) (id : Text) : Option Event :=
  d.events.find? fun e => e.id = id

/-- The first connection of an id. -/
def connection? (d : Document) (id : Text) : Option Connection :=
  d.edges.find? fun c => c.id = id

/-- The document with another configuration, or none. -/
def withConfig (d : Document) (config : Option Config) : Document :=
  { d with config := config }

/-- The name of every node id, in the order of the nodes; of several nodes with one id the first
one gives the name. -/
def names (d : Document) : Dictionary Text EventName :=
  d.nodes.foldl (fun names n => names.putNew n.id n.event.name) []

end Document

end EventPipeline
