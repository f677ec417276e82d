import EventPipeline.Store
import EventPipeline.Store.Stream

/-!
# Shelves

A session keeps what its stores work on in shelves. On a shelf stands a backend, or a stream, which
can be put in the place of one: it has one record, which is read bit by bit, and lacks all else that
backends offer. A store over a stream loads what it reads and cannot save. A shelf takes writes or
refuses them.
-/

namespace EventPipeline

/-- What stands on a shelf. -/
inductive Shelved
  /-- A backend. -/
  | backend (backend : Backend)
  /-- A stream in the place of a backend. -/
  | stream (stream : TextStream)

/-- A shelf of a session. -/
structure Shelf where
  /-- What stands there. -/
  content : Shelved
  /-- Whether every write is refused. -/
  refusing : Bool

/-- Why a shelf did not do what it was asked to. -/
inductive ShelfError
  /-- The backend failed. -/
  | backend (error : BackendError)
  /-- The stream could not be read or written. -/
  | stream (error : StreamError)
  /-- The stream has no such operation. -/
  | noOperation (lack : Lack)
  deriving DecidableEq, Repr

/-- The wording of a failure. -/
def ShelfError.message : ShelfError → Text
  | backend e => e.message
  | stream e => e.message
  | noOperation lack => lack.message

/-- What came of the use of a shelf. -/
structure Shelf.Used (α : Type) where
  /-- The shelf after it. -/
  shelf : Shelf
  /-- The files after it. -/
  files : FileTree Bytes
  /-- What was reported. -/
  log : Log
  /-- What it gave, or why it failed. -/
  result : α

namespace Shelf

variable (shelf : Shelf) (files : FileTree Bytes)

/-- The medium of a backend on a shelf. -/
def medium (b : Backend) : Medium where
  backend := b
  files := files
  refusing := shelf.refusing

/-- Nothing has changed but what a medium was left as. -/
def after {α : Type} (m : Medium) (log : Log) (result : α) : Used α where
  shelf := ⟨.backend m.backend, m.refusing⟩
  files := m.files
  log := log
  result := result

/-- Nothing has changed but a stream. -/
def afterStream {α : Type} (stream : TextStream) (result : α) : Used α where
  shelf := { shelf with content := .stream stream }
  files := files
  log := []
  result := result

/-- A stream lacks an operation on slots. -/
def streamLack (operation : String) : ShelfError :=
  .noOperation (.ofKind "_io.StringIO".toList operation.toList)

/-! ## Slots -/

/-- Reads a slot; a stream is told by the key how much to read. -/
def read (key : Json) : Used (Except ShelfError Json) :=
  match shelf.content with
  | .backend b =>
    let m := shelf.medium files b
    after m [] ((m.read key).mapError .backend)
  | .stream s =>
    match s.take key with
    | .error e => shelf.afterStream files s (.error (.stream e))
    | .ok (text, s) => shelf.afterStream files s (.ok (.text text))

/-- Writes a payload to a slot. A backend needs a payload; a stream takes none, writes the key and
counts its characters. -/
def write (key : Json) (payload : Option Json) : Used (Except ShelfError Json) :=
  match shelf.content, payload with
  | .backend b, some payload =>
    let (m, log, result) := (shelf.medium files b).write key payload
    after m log ((result.map fun _ => .null).mapError .backend)
  | .stream s, none =>
    if shelf.refusing then shelf.afterStream files s (.error (.backend .refused))
    else
      match s.write key with
      | .error e => shelf.afterStream files s (.error (.stream e))
      | .ok (count, s) => shelf.afterStream files s (.ok (.int count))
  | _, _ =>
    ⟨shelf, files, [], .error (.backend (if shelf.refusing then .refused else .noPayload))⟩

/-- Deletes a slot. -/
def delete (key : Json) : Used (Except ShelfError Json) :=
  match shelf.content with
  | .backend b =>
    match (shelf.medium files b).delete key with
    | .ok m => after m [] (.ok .null)
    | .error e => ⟨shelf, files, [], .error (.backend e)⟩
  | .stream _ => ⟨shelf, files, [], .error (streamLack "delete")⟩

/-- Whether a slot has a payload. -/
def exists? (key : Json) : Used (Except ShelfError Json) :=
  match shelf.content with
  | .backend b =>
    ⟨shelf, files, [], (((shelf.medium files b).exists? key).map .bool).mapError .backend⟩
  | .stream _ => ⟨shelf, files, [], .error (streamLack "exists")⟩

/-! ## Stores -/

/-- Why an operation of a store on a shelf failed. -/
inductive RunError
  /-- The store failed. -/
  | store (error : StoreError)
  /-- The stream could not be read. -/
  | stream (error : StreamError)
  deriving DecidableEq, Repr

/-- The wording of a failure. -/
def RunError.message : RunError → Text
  | store e => e.message
  | stream e => e.message

/-- A medium with one record, the text that was read from a stream. -/
def recordOf (text : Text) : Medium where
  backend := .memory [(.null, .text text)]
  files := .empty
  refusing := true

/-- What writing fails with on a stream, which takes no payload. -/
def unwritten (error : StoreError) : StoreError :=
  if error = .backend .refused && !shelf.refusing then .backend .noPayload else error

/-- Runs an operation of a store on a shelf, which is given by the medium that it works on. -/
def run (around : Surroundings) (storeOn : Medium → Store) (op : Operation) :
    Used (Store × Except RunError Reply) :=
  match shelf.content, op with
  | .backend b, op =>
    let outcome := (storeOn (shelf.medium files b)).run around op
    after outcome.store.medium outcome.log (outcome.store, outcome.result.mapError .store)
  | .stream s, .load =>
    match s.take (storeOn (recordOf [])).key with
    | .error e => shelf.afterStream files s (storeOn (recordOf []), .error (.stream e))
    | .ok (text, s) =>
      let store := storeOn (recordOf text)
      let outcome := { store with key := .null }.load
      shelf.afterStream files s
        ({ store with document := outcome.store.document }, outcome.result.mapError .store)
  | .stream s, .close => shelf.afterStream files s.close (storeOn (recordOf []), .ok .done)
  | .stream s, op =>
    let store := storeOn (recordOf [])
    let outcome := { store with key := .null }.run around op
    { shelf.afterStream files s ({ store with drawn := outcome.store.drawn },
        outcome.result.mapError fun e => .store (shelf.unwritten e)) with log := outcome.log }

end Shelf

end EventPipeline
