import EventPipeline.Json

/-!
# Streams

A stream holds a text that is read from front to back, so that what was read is gone. A number says
how many characters are wanted; null and any negative number stand for all that are left. A stream
can be closed, and then it gives nothing any more. A text that is written takes the place of as many
characters of what was not read yet.

The line ends of a text that comes into a stream, when it is made or later, are kept, unified, or
written in another way.
-/

namespace EventPipeline

/-- Why a stream gives and takes nothing. -/
inductive StreamError
  /-- A value is no number of characters. -/
  | noCount
  /-- A number of characters does not fit into 64 bits. -/
  | oversizedCount
  /-- A value that is no text cannot be written. -/
  | noText
  /-- The stream is closed. -/
  | closed
  deriving DecidableEq, Repr

/-- The wording of a failure; those that need none have an empty one. -/
def StreamError.message : StreamError → Text
  | noCount => []
  | oversizedCount => []
  | noText => []
  | closed => "I/O operation on closed file".toList

/-- What becomes of the line ends of a text in a stream. -/
inductive LineEnds
  /-- They stay as they are. -/
  | kept
  /-- Each becomes one line feed. -/
  | unified
  /-- Each line feed is written in another way. -/
  | written (ending : Text)
  deriving DecidableEq, Repr

/-- The text with its line ends treated. -/
def LineEnds.apply : LineEnds → Text → Text
  | kept, s => s
  | unified, s => s.universalNewlines
  | written ending, s => s.flatMap fun c => if c = '\n' then ending else [c]

/-- A stream. -/
structure TextStream where
  /-- What was not read yet. -/
  rest : Text
  /-- What becomes of line ends. -/
  ends : LineEnds
  /-- Whether the stream is closed. -/
  isClosed : Bool
  deriving DecidableEq, Repr

namespace TextStream

/-- A stream with a text. -/
def ofText (ends : LineEnds) (s : Text) : TextStream where
  rest := ends.apply s
  ends := ends
  isClosed := false

/-- The numbers of 64 bits begin here. -/
def lowest : Int := -9223372036854775808

/-- The number of characters that a value asks for; there is none if it asks for all. -/
def count : Json → Except StreamError (Option Nat)
  | .null => .ok none
  | .bool b => .ok (some b.toNat)
  | .int n =>
    if n < lowest || -lowest ≤ n then .error .oversizedCount
    else .ok (if n < 0 then none else some n.toNat)
  | _ => .error .noCount

/-- What is read when a value says how much is wanted, and the stream after that. -/
def take (s : TextStream) (wanted : Json) : Except StreamError (Text × TextStream) :=
  match count wanted with
  | .error e => .error e
  | .ok n =>
    if s.isClosed then .error .closed
    else
      let n := n.getD s.rest.length
      .ok (s.rest.take n, { s with rest := s.rest.drop n })

/-- What is read when a value says how much is wanted. -/
def read (s : TextStream) (wanted : Json) : Except StreamError Text :=
  (s.take wanted).map Prod.fst

/-- The stream after reading; a failure leaves it as it was. -/
def afterRead (s : TextStream) (wanted : Json) : TextStream :=
  match s.take wanted with
  | .ok (_, after) => after
  | .error _ => s

/-- The number of characters of a text, and the stream after it was written. -/
def write (s : TextStream) : Json → Except StreamError (Nat × TextStream)
  | .text t =>
    if s.isClosed then .error .closed
    else .ok (t.length, { s with rest := s.rest.drop (s.ends.apply t).length })
  | _ => .error .noText

/-- The stream after it was closed. -/
def close (s : TextStream) : TextStream :=
  { s with isClosed := true }

end TextStream

end EventPipeline
