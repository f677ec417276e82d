import EventPipeline.Store.Engine.Recipe

/-!
# Engines that are types

Recipes for parts of documents, for failures, grids, stores and backends, each made of the options
as its own members.
-/

namespace EventPipeline.Engine

/-- The recipe for a part of a document, which is made of its members. -/
def partRecipe {α : Type} (part : Part) (check : Json → Checked α) : Recipe where
  further := true
  make _ _ options :=
    match check (.object options) with
    | .error issues => .error (.invalid part issues)
    | .ok _ => .ok (.ofKind part.name)

/-- The recipe for what all parts of documents refine. -/
def unrefinedRecipe : Recipe where
  further := true
  make _ _ _ := .error .onlyRefined

/-- The recipe for a failure of the program. -/
def failureRecipe (kind : String) : Recipe :=
  .plain kind ["message"] ["code", "params"]

/-- The recipe for something that places events by the settings unless an option says how. -/
def placingRecipe (kind layout : String) (optional : List String) : Recipe where
  optional := layout :: optional
  make around _ options :=
    match Grid.ofSettings around.settings around.environment with
    | .error e =>
      if (options.value layout).isNull then .error (.grid e) else .ok (.ofKind kind.toList)
    | .ok _ => .ok (.ofKind kind.toList)

/-- The recipe for a grid. -/
def gridRecipe : Recipe where
  further := true
  make around _ options :=
    match Grid.Request.ofJson (.object options) with
    | .error _ => .error .noOptions
    | .ok request =>
      match Grid.ofRequest around.settings around.environment request with
      | .error e => .error (.grid e)
      | .ok _ => .ok (.ofKind "GridLayout".toList)

/-- The recipe for a store. -/
def storeRecipe : Recipe where
  required := ["backend"]
  optional := ["storage_key"]
  make around _ options :=
    match Store.keyFor around (options.value "storage_key") with
    | .error e => .error (.settings e)
    | .ok _ => .ok (.ofKind "PipelineStore".toList)

/-- The recipe for a module, of which only the name matters. -/
def moduleRecipe : Recipe where
  required := ["name"]
  optional := ["doc"]
  make _ _ options :=
    match options.value "name" with
    | .text name => .ok (.other (.lack (.ofModule name reading)))
    | _ => .error .noOptions

/-! ## Backends -/

/-- The recipe for a backend. -/
def backendRecipe (openBackend : FileTree Bytes → Options → Except OpenError Backend) :
    Recipe where
  further := true
  make _ files options :=
    match openBackend files options with
    | .error e => .error (.backend e)
    | .ok b => .ok (.shelved (.backend b))

/-- What an option says about line ends; a null character in it ends what it says. -/
def lineEnds : Json → Except EngineError LineEnds
  | .null => .ok .unified
  | .text s =>
    match s.takeWhile (· ≠ '\x00') with
    | [] => .ok .kept
    | ['\n'] => .ok .kept
    | ['\r'] => .ok (.written ['\r'])
    | ['\r', '\n'] => .ok (.written ['\r', '\n'])
    | _ => .error (.option (.lineEnds (.text s)))
  | _ => .error .noOptions

/-- The recipe for a stream. -/
def streamRecipe : Recipe where
  optional := ["initial_value", "newline"]
  make _ _ options :=
    match lineEnds ((options.get? "newline".toList).getD (.text ['\n'])),
        options.value "initial_value" with
    | .error e, _ => .error e
    | .ok ends, .text s => .ok (.shelved (.stream (.ofText ends s)))
    | .ok ends, .null => .ok (.shelved (.stream (.ofText ends [])))
    | .ok _, _ => .error .noOptions

end EventPipeline.Engine
