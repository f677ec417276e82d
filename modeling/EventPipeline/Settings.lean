import EventPipeline.FileTree
import EventPipeline.Json.Shown
import EventPipeline.Lack
import EventPipeline.Settings.Compiled
import EventPipeline.Settings.File
import EventPipeline.Text.Upper

/-!
# Settings

Settings are values under upper-case names. They come from files that are loaded one after the
other: the defaults, the file of the configuration directory, the file that the
environment names and the file that the caller names. A later file wins over an earlier one. Names
of a file that differ in case only are one setting, of which the last name in the order of code
points gives the value; a name that begins with two underscores and a function are no settings.

A setting that is missing or null is looked up in the environment. Only a text can be the key of a
setting or the path of a file; a whole number in the place of a path is a handle, and the only
handles that are open are those of the three standard streams, which are no files of settings.
-/

namespace EventPipeline

/-- The variables of the environment. -/
abbrev Environment := Dictionary Text Text

/-- The values of the settings, by upper-case name. -/
abbrev Settings := Dictionary Text Script.Value

/-- Why a setting has no value or a file could not be loaded. -/
inductive SettingsError
  /-- A setting has no value anywhere. -/
  | missing (key : Text)
  /-- A name that begins with an underscore is no setting. -/
  | hidden (name : Text)
  /-- A value can be no key, or no path. -/
  | noKey
  /-- A number is too large for a handle. -/
  | noHandle
  /-- A file is not of a kind that can be loaded. -/
  | noLoader
  /-- A file gives no settings. -/
  | file (error : SettingsFileError)
  /-- A file that should be compiled is not. -/
  | compiled (fault : CompiledFault)
  /-- A file could not be read. -/
  | unreadable (error : PathError)
  deriving DecidableEq, Repr

/-- The wording of a failure; those that need none have an empty one. -/
def SettingsError.message : SettingsError → Text
  | missing key => "Missing configuration key '".toList ++ key ++ ['\'']
  | hidden name => name
  | noKey => []
  | noHandle => []
  | file e => e.message
  | noLoader => (Lack.ofJson .null "loader").message
  | compiled f => f.message
  | unreadable e => e.message

namespace Settings

/-! ## The defaults -/

/-- The key under which the store keeps its document. -/
def storageKey : Text := "pipeline-state".toList

/-- The name of an event that is added without one. -/
def defaultEventName : Text := "New Event".toList

/-- The code of an event that is added without any. -/
def defaultEventCode : Text := "# Write your Python code here\n".toList

/-- The component that keeps documents in memory. -/
def memoryEngine : Text :=
  "pointy_studio.backends.stores.inmemory_store.InMemoryDocumentStoreBackend".toList

/-- The settings that hold when no file sets anything. -/
def defaults : Settings := [
  ("STORAGE_KEY".toList, .text storageKey),
  ("PIPELINE_STORE_CONFIG".toList, .mapping [
    (.text "ENGINE".toList, .text memoryEngine),
    (.text "OPTIONS".toList, .mapping [])]),
  ("DEFAULT_EVENT_NAME".toList, .text defaultEventName),
  ("DEFAULT_EVENT_CODE".toList, .text defaultEventCode),
  ("LAYOUT_ORIGIN_X".toList, .int 100),
  ("LAYOUT_ORIGIN_Y".toList, .int 100),
  ("LAYOUT_COLUMN_SPACING".toList, .int 200),
  ("LAYOUT_ROW_SPACING".toList, .int 150),
  ("LAYOUT_MAX_X".toList, .int 700)]

/-! ## Loading -/

/-- The settings after a file: each of its settings replaces what was there. -/
def load (s : Settings) (file : Bytes) : Except SettingsError Settings :=
  match SettingsFile.settings file with
  | .error e => .error (.file e)
  | .ok set => .ok (set.foldl (fun s b => s.put b.1.toUpper b.2) s)

/-- The variable that names the configuration directory. -/
def directoryVariable : Text := "POINTY_STUDIO_CONFIG_DIR".toList

/-- The variable that names a file of settings. -/
def fileVariable : Text := "POINTY_STUDIO_CONFIG".toList

/-- The name of the file of settings in the configuration directory. -/
def fileName : Text := "settings.py".toList

/-- How the name of a file of settings ends. -/
def fileEnding : Text := ".py".toList

/-- How the name of a compiled file of settings ends. -/
def compiledEnding : Text := ".pyc".toList

/-- The paths of the files of settings in the order in which they are loaded. -/
def paths (env : Environment) (tree : FileTree Bytes) (chosen : Json) : List Json :=
  let inDirectory := joinPath ((env.get? directoryVariable).getD ['.']) fileName
  (if tree.isFile inDirectory then [.text inDirectory] else []) ++
    ((env.get? fileVariable).toList.map Json.text) ++
    (if chosen.isEmpty then [] else [chosen])

/-- The settings after what stands at a path was loaded. The ending of the path says how; slashes
behind it do not count unless the path is absolute. -/
def loadEntry (s : Settings) (path : Text) (entry : Entry Bytes) :
    Except SettingsError Settings :=
  let path := if path.startsWith ['/'] then path else FileTree.withoutSlashes path
  if path.endsWith fileEnding then
    match entry with
    | .directory => .error (.unreadable .isDirectory)
    | .file file => s.load file
  else if path.endsWith compiledEnding then
    match entry with
    | .directory => .error (.unreadable .isDirectory)
    | .file file =>
      match Compiled.check file with
      | .error f => .error (.compiled f)
      | .ok () => .ok s
  else .error .noLoader

/-- The greatest number of a handle. -/
def handleLimit : Int := 2147483647

/-- The settings after the file of a handle, which is none if it is open. -/
def loadHandle (s : Settings) (handle : Int) : Except SettingsError Settings :=
  if handleLimit < handle || handle < -(handleLimit + 1) then .error .noHandle
  else if 0 ≤ handle && handle ≤ 2 then .error .noKey
  else .ok s

/-- The settings after the file at a path, if there is one. -/
def loadPath (tree : FileTree Bytes) (s : Settings) (path : Json) :
    Except SettingsError Settings :=
  match path with
  | .text path =>
    match tree.find path with
    | .error _ => .ok s
    | .ok entry => s.loadEntry path entry
  | .int handle => s.loadHandle handle
  | _ => .error .noKey

/-- The settings of all files. -/
def ofFiles (env : Environment) (tree : FileTree Bytes) (chosen : Json) :
    Except SettingsError Settings :=
  (paths env tree chosen).foldlM (loadPath tree) defaults

/-! ## Looking up -/

/-- The value of a setting, or a value to use when it is missing; what is null so far is taken from
the environment. -/
def get (s : Settings) (env : Environment) (key : Text) (fallback : Script.Value) :
    Except SettingsError Script.Value :=
  match (s.get? key).getD fallback with
  | .null =>
    match env.get? key with
    | some v => .ok (.text v)
    | none => .error (.missing key)
  | v => .ok v

/-- The value of a setting whose key is a value: a key that is no text has the value to use when
there is none. -/
def getValue (s : Settings) (env : Environment) (key : Json) (fallback : Script.Value) :
    Except SettingsError Script.Value :=
  match key, fallback with
  | .text key, _ => s.get env key fallback
  | _, .null => .error .noKey
  | _, _ => if key.isAtom then .ok fallback else .error .noKey

/-- Whether there is a setting, null or not, of a key. -/
def has (s : Settings) (key : Json) : Except SettingsError Bool :=
  match key with
  | .text key => .ok (s.contains key)
  | _ => if key.isAtom then .ok false else .error .noKey

/-- The settings as one object. -/
def asValue (s : Settings) : Script.Value :=
  .mapping (s.map fun b => (.text b.1, b.2))

/-- What the settings have under names that are no settings. -/
def inner (s : Settings) : Dictionary Text Script.Value :=
  let all := "_config".toList
  [("__doc__".toList, .null), ("__weakref__".toList, .null),
    ("__module__".toList, .text "pointy_studio.conf".toList),
    (all, s.asValue), ("__dict__".toList, .mapping [(.text all, s.asValue)])]

/-- The value of a setting by a name in any case. -/
def getNamed (s : Settings) (env : Environment) (name : Json) :
    Except SettingsError Script.Value :=
  match name with
  | .text name =>
    if name.startsWith ['_'] then
      match s.inner.get? name with
      | some v => .ok v
      | none => .error (.hidden name)
    else s.get env name.toUpper .null
  | _ => .error .noKey

/-- The settings in a few words. -/
def describe (s : Settings) : Text :=
  "ConfigLoader <len=".toList ++ Text.ofNat s.length ++ ['>']

end Settings

end EventPipeline
