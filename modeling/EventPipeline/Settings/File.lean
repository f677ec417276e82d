import EventPipeline.Script.Run
import EventPipeline.Script.Source

/-!
# Files of settings

A file of settings is a script, and what it gives names are the settings. Functions are no settings,
and neither are names that belong to the language of the file.

`ofAssignments` writes a file that gives names values: a line for each name, which gives it a value
as messages show it, or makes it the name of a function.
-/

namespace EventPipeline

/-- Why a file of settings gives no settings. -/
inductive SettingsFileError
  /-- The file is no script. -/
  | fault (fault : Script.Fault)
  /-- The script of the file fails. -/
  | run (error : Script.RunError)
  /-- The file says itself which names it has, and not as a list. -/
  | noNames
  deriving DecidableEq, Repr

/-- The wording of a failure; those that need none have an empty one. -/
def SettingsFileError.message : SettingsFileError → Text
  | fault f => f.message
  | run e => e.message
  | noNames => []

namespace SettingsFile

/-! ## Writing -/

/-- The line that gives a name a value, or makes it the name of a function. -/
def assignment (name : Text) : Option Json → Text
  | some v => name ++ " = ".toList ++ v.shown ++ ['\n']
  | none => "def ".toList ++ name ++ "():\n    return None\n".toList

/-- The file that gives names values, one after the other. -/
def ofAssignments (assignments : List (Text × Option Json)) : Bytes :=
  Utf8.encode (assignments.flatMap fun a => assignment a.1 a.2)

/-! ## Reading -/

/-- The name under which a file could say which names it has. -/
def listingName : Text := "__dir__".toList

/-- What the names of a file are given. -/
def bindings (bytes : Bytes) : Except SettingsFileError Script.Bindings :=
  match Script.readBytes bytes with
  | .error f => .error (.fault f)
  | .ok statements =>
    match Script.run statements with
    | .error e => .error (.run e)
    | .ok bound => if bound.contains listingName then .error .noNames else .ok bound

/-- Whether a name belongs to the language of the file and not to its settings. -/
def isReserved (name : Text) : Bool :=
  name.startsWith ['_', '_']

/-- A value as a setting; what can be called is none. -/
def setting? (v : Script.Value) : Option Script.Value :=
  if v.isCallable then none else some v

/-- The settings of a file in the order of their names. -/
def settings (bytes : Bytes) : Except SettingsFileError (List (Text × Script.Value)) :=
  (bindings bytes).map fun bound =>
    let set := bound.filterMap fun b =>
      if isReserved b.1 then none else (setting? b.2).map fun v => (b.1, v)
    set.mergeSort fun a b => !b.1.before a.1

end SettingsFile

end EventPipeline
