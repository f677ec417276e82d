import EventPipeline.Document
import EventPipeline.Pointy.Identifier

/-!
# Editing documents

The edits that a pipeline editor makes. An edit of an event addresses it by the id of its node and
touches only the first node of that id; it gives nothing when there is none. Removing events takes
the connections along that touch them, and connecting two events finds an id that no connection has.
-/

namespace EventPipeline

/-- The list with the first item of a property changed, if there is one. -/
def updateFirst {α : Type} (p : α → Bool) (f : α → α) : List α → Option (List α)
  | [] => none
  | a :: rest => if p a then some (f a :: rest) else (updateFirst p f rest).map (a :: ·)

/-- The first item of the property is changed where it stands. -/
theorem updateFirst_append {α : Type} {p : α → Bool} (f : α → α) {a : α} (before after : List α)
    (hb : ∀ b ∈ before, p b = false) (ha : p a = true) :
    updateFirst p f (before ++ a :: after) = some (before ++ f a :: after) := by
  induction before with
  | nil => simp [updateFirst, ha]
  | cons b rest ih =>
    have hp : p b = false := hb b List.mem_cons_self
    simp [updateFirst, hp, ih fun c hc => hb c (List.mem_cons_of_mem b hc)]

namespace Document

/-- The document with the first node of an id changed. -/
def updateNode? (d : Document) (id : Text) (f : Node → Node) : Option Document :=
  (updateFirst (fun n => n.id = id) f d.nodes).map fun nodes => { d with nodes := nodes }

/-- The document with another name for an event. -/
def rename? (d : Document) (id : Text) (name : EventName) : Option Document :=
  d.updateNode? id fun n => { n with event := { n.event with name := name } }

/-- The document with other code for an event. -/
def recode? (d : Document) (id code : Text) : Option Document :=
  d.updateNode? id fun n => { n with event := { n.event with code := code } }

/-- The document with an event at another position, or at none. -/
def move? (d : Document) (id : Text) (position : Option Position) : Option Document :=
  d.updateNode? id fun n => { n with position := position }

/-- The document with one more event. -/
def addEvent (d : Document) (e : Event) (position : Position) : Document :=
  { d with nodes := d.nodes ++ [Node.ofEvent e position] }

/-- The document without some events and the connections that touch them. -/
def removeEvents (d : Document) (ids : List Text) : Document :=
  { d with
    nodes := d.nodes.filter fun n => !ids.contains n.id
    edges := d.edges.filter fun c => !ids.contains c.source && !ids.contains c.target }

/-- The connection that connecting two ids adds to the document. -/
def newConnection (d : Document) (source target : Text) : Connection where
  id := connectionId source target (d.edges.map Connection.id)
  source := source
  target := target

/-- The document with one more connection. -/
def addConnection (d : Document) (c : Connection) : Document :=
  { d with edges := d.edges ++ [c] }

/-- The document without the connections of an id. -/
def removeConnection (d : Document) (id : Text) : Document :=
  { d with edges := d.edges.filter fun c => c.id ≠ id }

end Document

end EventPipeline
