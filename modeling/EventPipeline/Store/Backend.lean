import EventPipeline.Encoding.Utf8
import EventPipeline.FileTree
import EventPipeline.Json.Shown
import EventPipeline.Lack
import EventPipeline.Log

/-!
# Storage backends

A backend keeps payloads in named slots. One kind keeps them in memory, where any key but a list or
an object names a slot and a payload may be any value; the other keeps each slot in a file of a
directory, named after its key, and takes texts only. A medium is a backend together with the file
tree that it works on; writing to a medium gives the medium after it, whether it succeeds or not.

Reading a slot that was never written gives null, and deleting one is a failure. A payload is
written to a file as it is, and line ends are unified when it is read.
-/

namespace EventPipeline

/-- Why a backend did not do what it was asked to. -/
inductive BackendError
  /-- There is no record under a key. -/
  | noRecord (key : Json)
  /-- A key names no file. -/
  | invalidKey (key : Json)
  /-- A value can be no key. -/
  | noKey
  /-- A value can be no payload. -/
  | noPayload
  /-- A file could not be used. -/
  | path (error : PathError)
  /-- The bytes of a file are no text. -/
  | undecodable (error : DecodeError)
  /-- The medium takes no writes. -/
  | refused
  /-- The backend does not offer the operation. -/
  | unsupported
  deriving DecidableEq, Repr

/-- The wording of a failure. -/
def BackendError.message : BackendError → Text
  | noRecord key => "Record '".toList ++ key.plain ++ "' does not exist in store".toList
  | invalidKey key => "Invalid store key '".toList ++ key.plain ++ ['\'']
  | noKey => []
  | noPayload => []
  | path e => e.message
  | undecodable e => e.message
  | refused => "disk full".toList
  | unsupported => []

/-! ## Backends -/

/-- The name of a slot in memory. Numbers name the same slot when they are equal, of whatever kind
they are. -/
inductive SlotKey
  /-- Null. -/
  | null
  /-- A text. -/
  | text (s : Text)
  /-- A whole number; a truth value is one or zero. -/
  | whole (n : Int)
  /-- A number that is not whole. -/
  | number (x : Binary64)
  deriving DecidableEq, Repr

/-- The slot that a value names. -/
def SlotKey.ofJson? : Json → Option SlotKey
  | .null => some null
  | .text s => some (text s)
  | .bool b => some (whole (if b then 1 else 0))
  | .int n => some (whole n)
  | .float x => some (match x.toInt? with
    | some n => whole n
    | none => number x)
  | _ => none

/-- A place for named payloads. -/
inductive Backend
  /-- Slots in memory. -/
  | memory (slots : Dictionary SlotKey Json)
  /-- Slots in the files of a directory. -/
  | directory (path : Text)
  deriving DecidableEq, Repr

/-- A backend, the files that it works on and whether writing fails. -/
structure Medium where
  /-- The backend. -/
  backend : Backend
  /-- The files. -/
  files : FileTree Bytes
  /-- Whether every write is refused. -/
  refusing : Bool

/-! ## Slots in files -/

namespace SlotFile

/-- Whether a key holds a slash: a text among its characters, any other value as an item or as a
name. -/
def hasSlash : Json → Bool
  | .text s => s.contains '/'
  | .list items => items.contains (.text ['/'])
  | .object members => members.any fun m => m.1 == ['/']
  | _ => false

/-- Whether a value can be searched for a slash. -/
def isSearchable : Json → Bool
  | .text _ => true
  | .list _ => true
  | .object _ => true
  | _ => false

/-- The path of the file of a key: the key has to be a name in the directory. -/
def path (directory : Text) (key : Json) : Except BackendError Text :=
  if key.isEmpty then .error (.invalidKey key)
  else if !isSearchable key then .error .noKey
  else if hasSlash key then .error (.invalidKey key)
  else .ok (joinPath directory (key.plain ++ ".json".toList))

/-- The text of the bytes of a file. -/
def textOfBytes (bytes : Bytes) : Except DecodeError Text :=
  (Utf8.decode bytes).map Text.universalNewlines

/-- The payload in the file of a key, or null if there is none. -/
def read (files : FileTree Bytes) (directory : Text) (key : Json) : Except BackendError Json :=
  match path directory key with
  | .error e => .error e
  | .ok p =>
    match files.read p with
    | .error .notFound => .ok .null
    | .error e => .error (.path e)
    | .ok bytes =>
      match textOfBytes bytes with
      | .ok s => .ok (.text s)
      | .error e => .error (.undecodable e)

/-- Whether there is a file of a key. -/
def exists? (files : FileTree Bytes) (directory : Text) (key : Json) : Except BackendError Bool :=
  (path directory key).map files.isFile

/-- How many names are tried for a draft. -/
def draftTries : Nat := 238328

/-- The name of the draft of a key, the file that takes a payload before it gets the name of its
slot. Eight characters are there to make it new, here the number of the attempt. -/
def draftName (key : Json) (attempt : Nat) : Text :=
  '.' :: (key.plain ++ '.' :: (List.leftpad 8 '_' (Text.ofNat attempt) ++ ".tmp".toList))

/-- The place of a draft in a directory, where nothing stands yet. -/
def draftPlace (files : FileTree Bytes) (directory : Text) (key : Json) : Except PathError Path :=
  files.newPlace (fun attempt => joinPath directory (draftName key attempt)) draftTries 0

/-- What is reported when the file of a key could not be replaced. -/
def writeFailure (key : Json) (path : Text) : LogRecord where
  level := .error
  source := .fileBackend
  message :=
    "Writing store record '".toList ++ key.plain ++ "' to ".toList ++ path ++ " failed".toList

/-- The files after replacing the file of a key, whose directory is there: a draft takes the payload
and then the place of the file. A draft that cannot have that place is removed, and one is left
empty if the payload is no text that could be put into it. -/
def replace (files : FileTree Bytes) (directory : Text) (key : Json) (path : Text)
    (payload : Option Text) : FileTree Bytes × Log × Except BackendError Unit :=
  match draftPlace files directory key, payload with
  | .error e, _ => (files, [], .error (.path e))
  | .ok draft, some s =>
    let drafted := files.putAt draft (Utf8.encode s)
    match drafted.move draft path with
    | .error e => (drafted.removeAt draft, [writeFailure key path], .error (.path e))
    | .ok files => (files, [], .ok ())
  | .ok draft, none => (files.putAt draft [], [], .error .noPayload)

/-- The files after writing a payload: the directory is made when it is missing, and the file of the
key is replaced. -/
def write (files : FileTree Bytes) (directory : Text) (key : Json) (payload : Option Text) :
    FileTree Bytes × Log × Except BackendError Unit :=
  match path directory key with
  | .error e => (files, [], .error e)
  | .ok p =>
    match files.makeDirectories directory with
    | (files, .error e) => (files, [], .error (.path e))
    | (files, .ok ()) => replace files directory key p payload

/-- The files without the file of a key. -/
def delete (files : FileTree Bytes) (directory : Text) (key : Json) :
    Except BackendError (FileTree Bytes) :=
  match path directory key with
  | .error e => .error e
  | .ok p =>
    match files.remove p with
    | .error .notFound => .error (.noRecord key)
    | .error e => .error (.path e)
    | .ok files => .ok files

end SlotFile

/-! ## Operations -/

namespace Medium

/-- The payload of a slot, or null if there is none. -/
def read (m : Medium) (key : Json) : Except BackendError Json :=
  match m.backend with
  | .memory slots =>
    match SlotKey.ofJson? key with
    | some slot => .ok ((slots.get? slot).getD .null)
    | none => .error .noKey
  | .directory path => SlotFile.read m.files path key

/-- The medium after writing a payload to a slot. -/
def write (m : Medium) (key payload : Json) : Medium × Log × Except BackendError Unit :=
  if m.refusing then (m, [], .error .refused)
  else
    match m.backend with
    | .memory slots =>
      match SlotKey.ofJson? key with
      | some slot => ({ m with backend := .memory (slots.put slot payload) }, [], .ok ())
      | none => (m, [], .error .noKey)
    | .directory path =>
      let (files, log, result) := SlotFile.write m.files path key payload.text?
      ({ m with files := files }, log, result)

/-- The medium after deleting a slot. -/
def delete (m : Medium) (key : Json) : Except BackendError Medium :=
  match m.backend with
  | .memory slots =>
    match SlotKey.ofJson? key with
    | some slot =>
      if slots.contains slot then .ok { m with backend := .memory (slots.erase slot) }
      else .error (.noRecord key)
    | none => .error .noKey
  | .directory path =>
    (SlotFile.delete m.files path key).map fun files => { m with files := files }

/-- Whether a slot has a payload. -/
def exists? (m : Medium) (key : Json) : Except BackendError Bool :=
  match m.backend with
  | .memory slots =>
    match SlotKey.ofJson? key with
    | some slot => .ok (slots.contains slot)
    | none => .error .noKey
  | .directory path => SlotFile.exists? m.files path key

/-- The medium after it was closed: memory is forgotten, and files stay. -/
def close (m : Medium) : Medium :=
  match m.backend with
  | .memory _ => { m with backend := .memory [] }
  | .directory _ => m

end Medium

/-! ## Opening a backend -/

/-- Why a backend could not be opened. -/
inductive OpenError
  /-- The directory is a file. -/
  | notDirectory (path : Text)
  /-- The directory is not given as a text. -/
  | noPath
  /-- The options are none that a backend takes. -/
  | noOptions
  deriving DecidableEq, Repr

/-- The wording of a failure; those that need none have an empty one. -/
def OpenError.message : OpenError → Text
  | notDirectory path => "Store directory '".toList ++ path ++ "' is not a directory".toList
  | noPath => []
  | noOptions => []

namespace Backend

/-- The name that no option can have, because it stands for the backend. -/
def reservedOption : Text := "self".toList

/-- The options that a backend takes: any but the one of the reserved name. -/
def checkOptions (options : List (Text × Json)) : Except OpenError (List (Text × Json)) :=
  if Dictionary.contains options reservedOption then .error .noOptions else .ok options

/-- The option that gives the directory. -/
def directoryOption : Text := "directory".toList

/-- The options of a backend that keeps files: the directory is the working directory unless it is
given. -/
def fileOptions (options : List (Text × Json)) : List (Text × Json) :=
  Dictionary.putNew options directoryOption (.text ['.'])

/-- A backend that keeps files, by its options. -/
def openDirectory (files : FileTree Bytes) (options : List (Text × Json)) :
    Except OpenError Backend :=
  match checkOptions options with
  | .error e => .error e
  | .ok options =>
    match Dictionary.get? (fileOptions options) directoryOption with
    | some (.text path) =>
      if files.exists? path && !files.isDirectory path then .error (.notDirectory path)
      else .ok (.directory path)
    | _ => .error .noPath

/-- An empty backend in memory. -/
def emptyMemory : Backend :=
  .memory []

/-- A backend in memory, by its options, which change nothing. -/
def openMemory (options : List (Text × Json)) : Except OpenError Backend :=
  (checkOptions options).map fun _ => emptyMemory

end Backend

/-! ## Backends that are not written out -/

namespace PresetBackend

/-- What a backend reads that offers only preset records. -/
def read (records : Dictionary Text Json) (key : Json) : Except BackendError Json :=
  match SlotKey.ofJson? key with
  | none => .error .noKey
  | some (.text name) =>
    match records.get? name with
    | some v => .ok v
    | none => .error .unsupported
  | some _ => .error .unsupported

/-- Whether a record is preset to something. -/
def exists? (records : Dictionary Text Json) (key : Json) : Except BackendError Bool :=
  (read records key).map fun v => !v.isNull

end PresetBackend

end EventPipeline
