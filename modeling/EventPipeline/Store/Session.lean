import EventPipeline.Store.Engine
import EventPipeline.Store.Shelf

/-!
# Sessions

A session has several stores at once, by name. They share the files and the ids for new events; they
share one backend too, unless the session opens the backend that the settings name, which is a new
one for every store. A store that is opened from the settings reads its document at once. Every
backend takes writes or refuses them.

`runOn` gives one of the stores what is shared, lets it run an operation, and puts back what it
left.
-/

namespace EventPipeline

/-- Where the stores of a session keep their documents. -/
inductive Storage
  /-- In one backend in memory. -/
  | memory
  /-- In the files of one backend with these options. -/
  | directory (options : List (Text × Json))
  /-- Each in a backend that the settings name. -/
  | configured

/-- Whether every store has a backend of its own, which the settings name. -/
def Storage.isConfigured : Storage → Bool
  | configured => true
  | _ => false

/-- Why a store could not be opened. -/
inductive SessionError
  /-- A setting has no value. -/
  | settings (error : SettingsError)
  /-- The backend could not be opened. -/
  | backend (error : OpenError)
  /-- The settings name no component that could be a backend. -/
  | noEngine (message : Text)
  /-- The settings name a component in a way that cannot be followed. -/
  | path (error : Component.FindError)
  /-- The component that the settings name gives no backend. -/
  | engine (error : EngineError)
  /-- The settings do not have the shape that they should have. -/
  | shape
  /-- The document could not be read. -/
  | run (error : Shelf.RunError)
  deriving DecidableEq, Repr

/-- The wording of a failure; those that need none have an empty one. -/
def SessionError.message : SessionError → Text
  | settings e => e.message
  | backend e => e.message
  | noEngine message => message
  | path e => e.message
  | engine e => e.message
  | shape => []
  | run e => e.message

namespace Engine

/-- The message about settings that name no component. -/
def lookupMessage (config : Json) (cause : Text) : Text :=
  "Error importing store backend ".toList ++ config.shown ++ [':', ' '] ++ cause

/-- The component that settings name. -/
def componentOf (config : Json) : Except SessionError Component :=
  match config with
  | .object members =>
    match Dictionary.get? members "ENGINE".toList with
    | none => .error (.noEngine (lookupMessage config "'ENGINE'".toList))
    | some path =>
      match Component.find path with
      | .ok c => .ok c
      | .error e =>
        if e.isAbsence then .error (.noEngine (lookupMessage config e.message))
        else .error (.path e)
  | _ => .error .shape

/-- The options that settings give to a backend. -/
def optionsOf (config : Json) : Except SessionError Options :=
  match config with
  | .object members =>
    match (Dictionary.get? members "OPTIONS".toList).getD (.object []) with
    | .object options => .ok options
    | _ => .error .shape
  | _ => .error .shape

/-- What comes of the component that settings name. -/
def ofConfig (around : Surroundings) (files : FileTree Bytes) (config : Json) :
    Except SessionError Product :=
  match componentOf config with
  | .error e => .error e
  | .ok c =>
    match optionsOf config with
    | .error e => .error e
    | .ok options => (make c around files options).mapError .engine

/-- What is reported while the component that settings name makes something. -/
def logOfConfig (around : Surroundings) (files : FileTree Bytes) (config : Json) : Log :=
  match componentOf config, optionsOf config with
  | .ok c, .ok options => report c around files options
  | .error (.noEngine message), _ => [{ level := .error, source := .store, message := message }]
  | _, _ => []

end Engine

/-- What a session keeps of one store. -/
structure Seat where
  /-- The key of the slot. -/
  key : Json
  /-- The current document. -/
  document : Document
  /-- Which of the shelves has the slot. -/
  shelf : Nat

/-- Several stores and what they share. -/
structure Session where
  /-- What surrounds the stores. -/
  around : Surroundings
  /-- Where documents are kept. -/
  storage : Storage
  /-- The shelves with what was opened. -/
  shelves : List Shelf
  /-- The files. -/
  files : FileTree Bytes
  /-- How many ids were drawn. -/
  drawn : Nat
  /-- The stores by name. -/
  seats : Dictionary Text Seat

namespace Session

/-- A session without stores. -/
def start (around : Surroundings) (storage : Storage) (files : FileTree Bytes) : Session where
  around := around
  storage := storage
  shelves := []
  files := files
  drawn := 0
  seats := []

/-! ## Stores -/

/-- A shelf of the session. -/
def shelf (s : Session) (number : Nat) : Shelf :=
  (s.shelves[number]?).getD ⟨.backend Backend.emptyMemory, false⟩

/-- The session after one of its shelves was used. -/
def put {α : Type} (s : Session) (number : Nat) (used : Shelf.Used α) : Session :=
  { s with shelves := s.shelves.set number used.shelf, files := used.files }

/-- The session in which the shelf of a store refuses writes or takes them. -/
def setRefusing (s : Session) (seat : Seat) (refusing : Bool) : Session :=
  { s with shelves := s.shelves.set seat.shelf { s.shelf seat.shelf with refusing := refusing } }

/-- Uses one of the shelves. -/
def use (s : Session) (number : Nat)
    (f : Shelf → FileTree Bytes → Shelf.Used (Except ShelfError Json)) :
    Session × Log × Except ShelfError Json :=
  let used := f (s.shelf number) s.files
  (s.put number used, used.log, used.result)

/-- Runs an operation of a store that has a seat. -/
def runSeat (s : Session) (seat : Seat) (op : Operation) :
    Session × Log × Seat × Except Shelf.RunError Reply :=
  let used := (s.shelf seat.shelf).run s.files s.around
    (fun m => ⟨seat.key, seat.document, m, s.drawn⟩) op
  let (store, result) := used.result
  ({ s.put seat.shelf used with drawn := store.drawn }, used.log,
    { seat with document := store.document }, result)

/-- Runs an operation of the store of a name, if there is one. -/
def runOn (s : Session) (name : Text) (op : Operation) :
    Option (Session × Log × Except Shelf.RunError Reply) :=
  (s.seats.get? name).map fun seat =>
    let (s, log, seat, result) := s.runSeat seat op
    ({ s with seats := s.seats.put name seat }, log, result)

/-! ## Opening stores -/

/-- What a new store is to work with, and what is reported while it is made. -/
def openBackend (s : Session) : Log × Except SessionError Engine.Product :=
  match s.storage with
  | .configured =>
    match s.around.setting "PIPELINE_STORE_CONFIG".toList .null with
    | .error e => ([], .error (.settings e))
    | .ok config =>
      (Engine.logOfConfig s.around s.files config, Engine.ofConfig s.around s.files config)
  | .memory => ([], .ok (.shelved (.backend Backend.emptyMemory)))
  | .directory options =>
    ([], ((Backend.openDirectory s.files options).mapError .backend).map
      fun backend => .shelved (.backend backend))

/-- Opens a store under a name over a shelf, and reads its document if `reading` says so. -/
def seat (s : Session) (name : Text) (shelf : Nat) (key : Json) (reading : Bool) :
    Session × Log × Except SessionError Json :=
  let seat : Seat := ⟨key, Store.emptyDocument, shelf⟩
  if reading then
    match s.runSeat seat .load with
    | (s, log, _, .error e) => (s, log, .error (.run e))
    | (s, log, seat, .ok _) => ({ s with seats := s.seats.put name seat }, log, .ok key)
  else ({ s with seats := s.seats.put name seat }, [], .ok key)

/-- The number of the shelf that the stores of a session share, if they share one that is there. -/
def sharedShelf? (s : Session) : Option Nat :=
  if s.storage.isConfigured || s.shelves.isEmpty then none else some 0

/-- Opens a store under a name over what was made for it. -/
def openOver (s : Session) (name : Text) (key : Json) :
    Engine.Product → Session × Log × Except SessionError Json
  | .other failure => (s, [], .error (.engine failure))
  | .shelved content =>
    let opened := { s with shelves := s.shelves ++ [Shelf.mk content false] }
    opened.seat name s.shelves.length key s.storage.isConfigured

/-- Opens a store under a name, over a slot whose key may be given. -/
def openStore (s : Session) (name : Text) (key : Json) :
    Session × Log × Except SessionError Json :=
  match s.sharedShelf? with
  | some shelf =>
    match Store.keyFor s.around key with
    | .error e => (s, [], .error (.settings e))
    | .ok key => s.seat name shelf key false
  | none =>
    match s.openBackend with
    | (log, .error e) => (s, log, .error e)
    | (log, .ok product) =>
      match Store.keyFor s.around key with
      | .error e => (s, log, .error (.settings e))
      | .ok key =>
        let (s, opened) := s.openOver name key product
        (s, log ++ opened.1, opened.2)

end Session

end EventPipeline
