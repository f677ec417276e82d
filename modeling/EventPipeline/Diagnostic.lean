import EventPipeline.Text

/-!
# Diagnostics

A diagnostic is a remark about a line of a text. It is advice: nothing that it remarks on stops a
text from being read or stored.
-/

namespace EventPipeline

/-- What a diagnostic remarks on. -/
inductive Concern
  /-- The line is nothing that pointy text knows. -/
  | unrecognized
  /-- The text ends within the block of an event. -/
  | unterminated (name : Text)
  /-- The block repeats the name of an earlier one, which is kept. -/
  | duplicate (name : Text)
  /-- A connection names an event that no block declares. -/
  | undeclared (name : Text)
  /-- The line of code should be indented. -/
  | indentation
  /-- The line of code holds a semicolon. -/
  | semicolon
  deriving DecidableEq, Repr

/-- The wording of a remark. -/
def Concern.message : Concern → Text
  | unrecognized => "Unrecognized line ignored".toList
  | unterminated name => "Unterminated event '".toList ++ name ++ "' discarded".toList
  | duplicate name =>
    "Duplicate event '".toList ++ name ++ "' ignored, the first definition is kept".toList
  | undeclared name => "Connection refers to undeclared event '".toList ++ name ++ ['\'']
  | indentation => "Expected indentation".toList
  | semicolon => "Semicolons are not typically used in Python".toList

/-- A remark and the line that it is about, counted from one. -/
structure Diagnostic where
  /-- What it remarks on. -/
  concern : Concern
  /-- The line. -/
  line : Nat
  deriving DecidableEq, Repr

namespace Diagnostic

/-- The word for how serious a diagnostic is: all are advice. -/
def severity : Text :=
  "warning".toList

/-- A message with the line that it is about in front, if there is one. -/
def place (line : Option Text) (message : Text) : Text :=
  match line with
  | none => message
  | some label => "Line ".toList ++ label ++ [':', ' '] ++ message

/-- The wording of a diagnostic. -/
def message (d : Diagnostic) : Text :=
  d.concern.message

/-- A diagnostic in words, with its line. -/
def toText (d : Diagnostic) : Text :=
  place (some (Text.ofNat d.line)) d.message

end Diagnostic

end EventPipeline
