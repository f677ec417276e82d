import EventPipeline.Document
import EventPipeline.Json.Printer

/-!
# Documents as interchange values

Each part of a document is an object with its members in a fixed order. The default of a field may
be any value; numbers in it that are not finite are written as null, while a position keeps them.
A document holding an integer of too many digits cannot be written.
-/

namespace EventPipeline

/-- The field as an object. -/
def Field.toJson (f : Field) : Json :=
  .object [
    ("name".toList, .text f.name),
    ("required".toList, .bool f.required),
    ("data_type".toList, .text f.dataType.word),
    ("default".toList, f.default.finiteOnly),
    ("batch_processor".toList, f.batchProcessor.elim .null .bool),
    ("batch_size".toList, f.batchSize.elim .null fun n => .int n.val)]

/-- The configuration as an object. -/
def Config.toJson (c : Config) : Json :=
  .object [
    ("name".toList, .text c.name),
    ("fields".toList, .list (c.fields.map Field.toJson))]

/-- The event as an object. -/
def Event.toJson (e : Event) : Json :=
  .object [
    ("id".toList, .text e.id),
    ("name".toList, e.name.toJson),
    ("code".toList, .text e.code)]

/-- The position as an object. -/
def Position.toJson (p : Position) : Json :=
  .object [("x".toList, .float p.x), ("y".toList, .float p.y)]

/-- The node as an object, in which the event stands one level deeper. -/
def Node.toJson (n : Node) : Json :=
  .object [
    ("id".toList, .text n.id),
    ("type".toList, .text n.kind),
    ("position".toList, n.position.elim .null Position.toJson),
    ("data".toList, .object [("event".toList, n.event.toJson)])]

/-- The connection as an object. -/
def Connection.toJson (c : Connection) : Json :=
  .object [
    ("id".toList, .text c.id),
    ("source".toList, .text c.source),
    ("target".toList, .text c.target)]

namespace Document

/-- The document as an object. -/
def toJson (d : Document) : Json :=
  .object [
    ("config".toList, d.config.elim .null Config.toJson),
    ("nodes".toList, .list (d.nodes.map Node.toJson)),
    ("edges".toList, .list (d.edges.map Connection.toJson))]

/-- Whether the document can be written. -/
def isWritable (d : Document) : Bool :=
  d.toJson.isWritable

/-- The interchange text of a document. -/
def render (style : Json.Style) (d : Document) : Text :=
  d.toJson.render style

/-- The interchange text of a document, if it can be written. -/
def write? (style : Json.Style) (d : Document) : Option Text :=
  if d.isWritable then some (d.render style) else none

end Document

end EventPipeline
