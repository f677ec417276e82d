import EventPipeline.Document.Validation
import EventPipeline.Json.Parser

/-!
# Loading documents

A document is loaded from an interchange value, from a text or from bytes. Loading is validation
with one addition at the top: a configuration, nodes or edges that are null or missing become the
empty ones, so a loaded document always has a configuration.
-/

namespace EventPipeline

/-- Why a source is no document. -/
inductive LoadError
  /-- The source is no interchange text. -/
  | unreadable (error : Json.ReadError)
  /-- The source is a value other than an object, of a kind named by this word. -/
  | noObject (kind : Text)
  /-- The value is no document. -/
  | invalid (issues : List Issue)
  deriving DecidableEq, Repr

namespace LoadError

/-- The code of a failure. -/
def code : LoadError → Text
  | unreadable _ => "invalid_json".toList
  | _ => "invalid_document".toList

/-- The beginning of the message about an invalid document. -/
def invalidLead : Text :=
  "Invalid pipeline document: ".toList

/-- The first line of the message about a number of issues in a part. -/
def issueCount (issues : List Issue) (part : Part) : Text :=
  Text.ofNat issues.length ++
    (if issues.length = 1 then " validation error for ".toList
      else " validation errors for ".toList) ++
    part.name

/-- The wording of a failure, as far as its first line. -/
def message : LoadError → Text
  | unreadable e => "Pipeline document is not valid JSON: ".toList ++ e.message
  | noObject kind => "Pipeline document must be an object, not ".toList ++ kind
  | invalid issues => invalidLead ++ issueCount issues .document

/-- The issues of an invalid document. -/
def issues : LoadError → List Issue
  | invalid issues => issues
  | _ => []

end LoadError

namespace Document

/-- A member of the document, if it is there and not null. -/
def givenMember? (members : List (Text × Json)) (name : Text) : Option Json :=
  match Dictionary.get? members name with
  | some .null => none
  | other => other

/-- A part of the document, or the value it has when it is null or missing. -/
def givenOr {α : Type} (members : List (Text × Json)) (name : Text) (value : α)
    (check : Json → Checked α) : Checked α :=
  match givenMember? members name with
  | some v => Checked.under (.member name) (check v)
  | none => .ok value

/-- The document that the members of an object denote. -/
def ofMembers (members : List (Text × Json)) : Checked Document :=
  .ok (fun config nodes edges => Document.mk (some config) nodes edges)
    |> Checked.feed (givenOr members "config".toList Config.empty Config.check)
    |> Checked.feed (givenOr members "nodes".toList [] (Shape.list Node.check))
    |> Checked.feed (givenOr members "edges".toList [] (Shape.list Connection.check))

/-- The document that a value denotes. -/
def ofJson : Json → Except LoadError Document
  | .object members => (ofMembers members).mapError .invalid
  | v => .error (.noObject v.kindWord)

/-- The document that a text denotes. -/
def ofText (s : Text) : Except LoadError Document :=
  match Json.ofText s with
  | .ok v => ofJson v
  | .error e => .error (.unreadable e)

/-- The document that bytes denote. -/
def ofBytes (bytes : Bytes) : Except LoadError Document :=
  match Json.ofBytes bytes with
  | .ok v => ofJson v
  | .error e => .error (.unreadable e)

/-- The document that a text denotes which comes as a value: any other value is refused. -/
def ofTextValue : Json → Except LoadError Document
  | .text s => ofText s
  | v => .error (.unreadable (.notText v.kindWord))

end Document

end EventPipeline
