import EventPipeline.Document
import EventPipeline.FileTree

/-!
# Drawing a pipeline

The graph of a document in the DOT language: one line per node id, labelled with the name of the
first node that has it, and one line per pair of connected nodes. A connection with an end that is
no node is left out, and so is one between a pair that was connected before. Ids and names stand in
quotes, with quotes and backslashes escaped.
-/

namespace EventPipeline.Dot

/-! ## The graph -/

/-- The pairs of ids that are connected, each once, in the order of their first connection. -/
def edges (d : Document) : List (Text × Text) :=
  let ids := d.names.keys
  ((d.edges.map fun c => (c.source, c.target)).filter fun e =>
    ids.contains e.1 && ids.contains e.2).eraseDups

/-! ## The text -/

/-- A character between quotes. -/
def escapeChar (c : Char) : Text :=
  if c = '\\' ∨ c = '"' then ['\\', c] else [c]

/-- A text in quotes. -/
def quote (s : Text) : Text :=
  '"' :: (s.flatMap escapeChar ++ ['"'])

/-- The lines in front of the graph. -/
def header : Text :=
  "digraph G \x7b\n\tnode [fontname=\"Helvetica\", fontsize=11]\n".toList ++
    "\tedge [fontname=\"Helvetica\", fontsize=10]\n".toList

/-- The line of a node. -/
def nodeLine (id name : Text) : Text :=
  '\t' :: (quote id ++ " [label=".toList ++ quote name ++ [']', '\n'])

/-- The line of an edge. -/
def edgeLine (source target : Text) : Text :=
  '\t' :: (quote source ++ " -> ".toList ++ quote target ++ ['\n'])

/-- The graph of a document in the DOT language. -/
def write (d : Document) : Text :=
  header ++ d.names.flatMap (fun n => nodeLine n.1 n.2.text) ++
    (edges d).flatMap (fun e => edgeLine e.1 e.2) ++ ['}']

/-! ## Pictures -/

/-- A picture to be drawn. -/
structure Drawing where
  /-- The graph. -/
  graph : Text
  /-- The directory for intermediate files. -/
  directory : Text
  /-- The format of the picture. -/
  format : Text
  /-- The file of the picture. -/
  file : Text
  deriving DecidableEq, Repr

/-- The directory in which pictures are drawn when none is given. -/
def defaultDirectory : Text := "pipeline-graphs".toList

/-- The name of a picture when none is given: the name of the pipeline, if it has one. -/
def defaultFileName (d : Document) : Text :=
  let name := (d.config.map Config.name).getD []
  (if name.isEmpty then "pipeline".toList else name) ++ ".png".toList

/-- The picture of a document. -/
def drawing (d : Document) (directory : Text) (fileName : Option Text) : Drawing where
  graph := write d
  directory := directory
  format := "png".toList
  file := joinPath directory (fileName.getD (defaultFileName d))

end EventPipeline.Dot
