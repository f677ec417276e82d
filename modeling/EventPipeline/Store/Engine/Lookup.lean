import EventPipeline.Store.Engine.Recipe

/-!
# Engines that look components up

Functions that find components and modules give what they found as it is. A component is then asked
to read itself: what makes backends cannot read without one, settings look reading up among
themselves, and everything else lacks it in the way of its kind.
-/

namespace EventPipeline.Engine

/-! ## Reading from components -/

/-- The types that read, but only by a value of theirs. -/
def readingTypes : List Text :=
  ["DocumentStoreBackendBase", "InMemoryDocumentStoreBackend", "JSONFileStoreBackend",
    "StringIO"].map String.toList

/-- The types that do not tell what they are when they lack something. -/
def hiddenTypes : List Text :=
  ["BaseModel", "PipelineField", "PipelineConfig", "PipelineEvent", "Position", "EventNodeData",
    "EventNode", "Connection", "PipelineDocument", "StrEnum", "DataType",
    "Severity"].map String.toList

/-- The types that have another name in full. -/
def fullTypeNames : Dictionary Text Text := [
  ("Annotated".toList, "int".toList),
  ("ValidationError".toList, "pydantic_core._pydantic_core.ValidationError".toList)]

/-- The modules that read, but not for a store. -/
def readingModules : List Text := ["os".toList]

/-- What happens when settings are asked to read: there may be a setting of that name, but it is no
operation. -/
def readSettings (settings : Settings) (env : Environment) : EngineError :=
  match settings.getNamed env (.text reading) with
  | .ok _ => .noOptions
  | .error e => .settings e

/-- What happens when a component is asked to read. -/
def readComponent (around : Surroundings) : Component → EngineError
  | .type name =>
    if readingTypes.contains name then .noOptions
    else if hiddenTypes.contains name then .hiddenLack reading
    else .lack (.ofType ((fullTypeNames.get? name).getD name) reading)
  | .function name => .lack (.ofKind (Component.functionKind name) reading)
  | .part name =>
    if readingModules.contains name then .noOptions else .lack (.ofModule name reading)
  | .value kind => .lack (.ofKind kind reading)
  | .settings => readSettings around.settings around.environment
  | .null => .lack (.ofJson .null "read")

/-- A component as what an engine makes. -/
def Product.ofComponent (around : Surroundings) (c : Component) : Product :=
  .other (readComponent around c)

/-! ## Recipes -/

/-- The recipe of the function that finds a component by its path. -/
def componentRecipe : Recipe where
  required := ["dotted_path"]
  make around _ options :=
    match Component.find (options.value "dotted_path") with
    | .ok c => .ok (.ofComponent around c)
    | .error e => .error (.find e)

/-- The recipe of the function that finds a component by its module and its name. -/
def memberRecipe : Recipe where
  required := ["module_path", "class_name"]
  make around _ options :=
    let path := options.value "module_path"
    if !path.isAtom then .error .noOptions
    else
      match Component.findModuleIn .null path, options.value "class_name" with
      | .error e, _ => .error (.find e)
      | .ok m, .text name =>
        match m.find? name with
        | some c => .ok (.ofComponent around c)
        | none => .error (.lack (.ofModule m.name.toList name))
      | .ok _, _ => .error .noOptions

/-- The recipe of the function that finds a module. -/
def moduleLookupRecipe : Recipe where
  required := ["name"]
  optional := ["package"]
  make around _ options :=
    match Component.findModuleIn (options.value "package") (options.value "name") with
    | .ok m => .ok (.ofComponent around (.part m.name.toList))
    | .error e => .error (.find e)

end EventPipeline.Engine
