import EventPipeline.Store.Backend
import EventPipeline.Text.Raw

/-!
# Calls on backends

A backend can be called without a store, with any raw texts for keys and payloads. Memory takes them
as they are. A directory takes a key for which the system has a name, and a payload that can be
encoded: the system has a name for a key if the bytes of the key are those of a text, and what is
done for the key is done for that text. A payload that cannot be encoded leaves an empty draft
behind.
-/

namespace EventPipeline

/-- A call on a backend. -/
inductive BackendCall
  /-- Read the payload of a key. -/
  | read (key : RawText)
  /-- Write a payload under a key. -/
  | write (key payload : RawText)
  /-- Delete the payload of a key. -/
  | delete (key : RawText)
  /-- Ask whether a key has a payload. -/
  | holds (key : RawText)
  deriving DecidableEq, Repr

/-- The key of a call. -/
def BackendCall.key : BackendCall → RawText
  | read key => key
  | write key _ => key
  | delete key => key
  | holds key => key

/-- What a call gives back. -/
inductive CallAnswer
  /-- Nothing. -/
  | nothing
  /-- A payload. -/
  | payload (s : RawText)
  /-- Yes or no. -/
  | truth (b : Bool)
  deriving DecidableEq, Repr

/-- Why a call failed. -/
inductive CallError
  /-- There is no record under a key. -/
  | noRecord (key : RawText)
  /-- A key names no file. -/
  | invalidKey (key : RawText)
  /-- A raw text cannot be encoded. -/
  | unencodable
  /-- The bytes of a key are no text, and the system takes only texts for names. -/
  | illegalName
  /-- The backend failed in another way. -/
  | backend (error : BackendError)
  deriving DecidableEq, Repr

/-- The wording of a failure; a raw text that cannot be encoded needs none. -/
def CallError.message : CallError → RawText
  | noRecord key => .ofText "Record '".toList ++ key ++ .ofText "' does not exist in store".toList
  | invalidKey key => .ofText "Invalid store key '".toList ++ key ++ [.char '\'']
  | backend e => .ofText e.message
  | _ => []

/-- The failure of a call that was made for the text of a key. -/
def CallError.ofBackend (key : RawText) : BackendError → CallError
  | .noRecord _ => .noRecord key
  | .noPayload => .unencodable
  | e => .backend e

/-- A backend that is called with raw texts. -/
inductive CalledBackend
  /-- Slots in memory. -/
  | memory (slots : Dictionary RawText RawText)
  /-- Slots in the files of a directory. -/
  | directory (path : Text)

/-- A backend that is called with raw texts, and the files that it works on. -/
structure CalledMedium where
  /-- The backend. -/
  backend : CalledBackend
  /-- The files. -/
  files : FileTree Bytes

/-! ## Calls on a directory -/

namespace SlotFile

/-- The text that the system has for a key. -/
def systemKey (key : RawText) : Except CallError Text :=
  if key.isEmpty || key.contains (.char '/') then .error (.invalidKey key)
  else
    match key.nameBytes? with
    | none => .error .unencodable
    | some bytes => (Utf8.decode bytes).mapError fun _ => .illegalName

/-- The payload in the file of a key, if there is one. -/
def readRaw (files : FileTree Bytes) (directory : Text) (key : RawText) :
    Except CallError CallAnswer :=
  match systemKey key with
  | .error e => .error e
  | .ok name =>
    match read files directory (.text name) with
    | .error e => .error (.ofBackend key e)
    | .ok (.text s) => .ok (.payload (.ofText s))
    | .ok _ => .ok .nothing

/-- The files after writing a payload. The directory is made even if there is no name for the key. -/
def writeRaw (files : FileTree Bytes) (directory : Text) (key payload : RawText) :
    FileTree Bytes × Log × Except CallError CallAnswer :=
  match systemKey key with
  | .error (.invalidKey key) => (files, [], .error (.invalidKey key))
  | .error e =>
    match files.makeDirectories directory with
    | (files, .error p) => (files, [], .error (.backend (.path p)))
    | (files, .ok ()) => (files, [], .error e)
  | .ok name =>
    let (files, log, result) := write files directory (.text name) payload.toText?
    (files, log, (result.map fun _ => .nothing).mapError (.ofBackend key))

/-- The files without the file of a key. -/
def deleteRaw (files : FileTree Bytes) (directory : Text) (key : RawText) :
    Except CallError (FileTree Bytes) :=
  match systemKey key with
  | .error e => .error e
  | .ok name => (delete files directory (.text name)).mapError (.ofBackend key)

/-- Whether there is a file of a key; there is none without a name. -/
def existsRaw (files : FileTree Bytes) (directory : Text) (key : RawText) :
    Except CallError CallAnswer :=
  match systemKey key with
  | .error (.invalidKey key) => .error (.invalidKey key)
  | .error _ => .ok (.truth false)
  | .ok name => ((exists? files directory (.text name)).map .truth).mapError (.ofBackend key)

end SlotFile

/-! ## Calls -/

namespace CalledMedium

/-- The medium after a call on slots in memory, and the result. -/
def callMemory (m : CalledMedium) (slots : Dictionary RawText RawText) :
    BackendCall → CalledMedium × Except CallError CallAnswer
  | .read key => (m, .ok ((slots.get? key).elim .nothing .payload))
  | .write key payload => ({ m with backend := .memory (slots.put key payload) }, .ok .nothing)
  | .delete key =>
    if slots.contains key then ({ m with backend := .memory (slots.erase key) }, .ok .nothing)
    else (m, .error (.noRecord key))
  | .holds key => (m, .ok (.truth (slots.contains key)))

/-- The medium after a call on the files of a directory, what was reported, and the result. -/
def callDirectory (m : CalledMedium) (path : Text) :
    BackendCall → CalledMedium × Log × Except CallError CallAnswer
  | .read key => (m, [], SlotFile.readRaw m.files path key)
  | .write key payload =>
    let (files, log, result) := SlotFile.writeRaw m.files path key payload
    ({ m with files := files }, log, result)
  | .delete key =>
    match SlotFile.deleteRaw m.files path key with
    | .error e => (m, [], .error e)
    | .ok files => ({ m with files := files }, [], .ok .nothing)
  | .holds key => (m, [], SlotFile.existsRaw m.files path key)

/-- The medium after a call, what was reported, and the result. -/
def call (m : CalledMedium) (c : BackendCall) : CalledMedium × Log × Except CallError CallAnswer :=
  match m.backend with
  | .memory slots =>
    let (m, result) := m.callMemory slots c
    (m, [], result)
  | .directory path => m.callDirectory path c

/-- The medium after some calls, and their results. -/
def calls (m : CalledMedium) : List BackendCall →
    CalledMedium × List (Except CallError CallAnswer)
  | [] => (m, [])
  | c :: rest =>
    let (m, _, result) := m.call c
    let (m, results) := m.calls rest
    (m, result :: results)

end CalledMedium

end EventPipeline
