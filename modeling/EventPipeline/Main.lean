import EventPipeline.CommandLine

/-!
# The program

The program reads the files that its command may need, leaves the work to the library, writes the
file that the report asks for, and shows what there is to show.
-/

namespace EventPipeline.CommandLine

/-- The number of a failure: the system gives it as it is or negated. -/
def failureNumber (code : UInt32) : Nat :=
  min code.toNat (-code).toNat

/-- The failure that the system reports, if commands know it. -/
def pathErrorOf? : IO.Error → Option PathError
  | .noFileOrDirectory _ _ _ => some .notFound
  | .permissionDenied _ _ _ => some .denied
  | .inappropriateType _ code _ =>
    if failureNumber code = PathError.notDirectory.number then some .notDirectory
    else some .isDirectory
  | .invalidArgument _ code _ =>
    if failureNumber code = PathError.nameTooLong.number then some .nameTooLong else none
  | _ => none

/-- The result of an action on a file, or the failure that commands know. -/
def attempt {α : Type} (action : IO α) : IO (Except PathError α) := do
  match ← action.toBaseIO with
  | .ok a => return .ok a
  | .error e =>
    match pathErrorOf? e with
    | some failure => return .error failure
    | none => throw e

/-- The result of an action on the file at a path, if it can be a path at all. -/
def attemptAt {α : Type} (path : Text) (action : String → IO α) : IO (Except PathError α) :=
  match FileTree.pathFault? path with
  | some failure => return .error failure
  | none => attempt (action (String.ofList path))

/-- The bytes of a file of the system. -/
def readSystemFile (path : Text) : IO (Except PathError Bytes) :=
  attemptAt path fun name => return (← IO.FS.readBinFile name).toList

/-- Writes a text to a file of the system. -/
def writeSystemFile (path text : Text) : IO (Except PathError Unit) :=
  attemptAt path fun name => IO.FS.writeBinFile name ⟨(Utf8.encode text).toArray⟩

/-- Does what an invocation asks for. -/
def perform (i : Invocation) : IO Ending := do
  let files ← i.command.inputs.mapM fun path => return (path, ← readSystemFile path)
  let read (path : Text) := (files.lookup path).getD (.error .notFound)
  let report := execute read (.ok Grid.standard) i.command
  let written ← match report.file? with
    | none => pure (.ok ())
    | some (path, text) => writeSystemFile path text
  return conclude i.verbose report written

/-- Shows what a run has to show and gives its exit code. -/
def finish (e : Ending) : IO UInt32 := do
  (← IO.getStdout).putStr (String.ofList e.output)
  (← IO.getStderr).putStr (String.ofList e.errors)
  return e.exitCode.toUInt32

end EventPipeline.CommandLine

open EventPipeline.CommandLine in
/-- Runs the command line. -/
def main (args : List String) : IO UInt32 := do
  match readArguments (args.map String.toList) with
  | .error e => finish (refuse e)
  | .ok i => finish (← perform i)
