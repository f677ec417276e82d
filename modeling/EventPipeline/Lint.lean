import EventPipeline.Diagnostic

/-!
# Linting code

A single pass over the lines of an event's code that looks for what pasting tends to leave behind.
Blank lines and comments are passed over. Once a line that ends with a colon has been seen, every
later line that neither ends with one nor begins with a space or a tab is remarked on: the pass
does not follow the structure of the code. A semicolon is remarked on wherever it stands.
-/

namespace EventPipeline.Lint

/-- Whether a line says something, being neither blank nor a comment. -/
def isActive (line : Text) : Bool :=
  match line.trim with
  | [] => false
  | c :: _ => c != '#'

/-- Whether a line opens a block, by ending with a colon. -/
def opensBlock (line : Text) : Bool :=
  line.trim.endsWith [':']

/-- Whether a line is indented. -/
def isIndented (line : Text) : Bool :=
  match line with
  | c :: _ => c == ' ' || c == '\t'
  | [] => false

/-- The remarks on one active line, `opened` telling whether a block was opened before it. -/
def lineConcerns (opened : Bool) (line : Text) : List Concern :=
  (if opened && !opensBlock line && !isIndented line then [.indentation] else []) ++
    (if line.trim.contains ';' then [.semicolon] else [])

/-- The remarks on the lines from a number on. -/
def lintFrom : (opened : Bool) → (number : Nat) → List Text → List Diagnostic
  | _, _, [] => []
  | opened, number, line :: rest =>
    if isActive line then
      (lineConcerns opened line).map (⟨·, number⟩) ++
        lintFrom (opened || opensBlock line) (number + 1) rest
    else lintFrom opened (number + 1) rest

/-- The remarks on code, in the order of its lines. -/
def lint (code : Text) : List Diagnostic :=
  lintFrom false 1 code.lines

/-- The remarks on code in words. -/
def warnings (code : Text) : List Text :=
  (lint code).map Diagnostic.toText

end EventPipeline.Lint
