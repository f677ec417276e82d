import EventPipeline.Component.Catalogue
import EventPipeline.Lack
import EventPipeline.Text.Quoted

/-!
# Components

Settings name components by dotted paths: a module and a name in it. `find` follows a path to the
component. A module is found package by package; the first part that is missing is what the failure
names. `nameAt` gives the name that the component has of its own, if it has one.
-/

namespace EventPipeline.Component

/-! ## Following paths -/

/-- Why a path names no component. -/
inductive FindError
  /-- The path is no text. -/
  | noPath (lack : Lack)
  /-- The path has no module. -/
  | noModulePath (path : Text)
  /-- There is no such module. -/
  | noModule (name : Text)
  /-- A module below one that holds no modules. -/
  | noPackage (name parent : Text)
  /-- The name of the module is empty. -/
  | emptyModule
  /-- The path begins with a dot. -/
  | relative
  /-- The path begins with more dots than there are packages. -/
  | beyondTop
  /-- The module does not offer the component. -/
  | noComponent (moduleName name : Text)
  deriving DecidableEq, Repr

/-- The wording of a failure. -/
def FindError.message : FindError → Text
  | noPath lack => lack.message
  | noModulePath path => path ++ " doesn't look like a module path".toList
  | noModule name => "No module named ".toList ++ name.shown
  | noPackage name parent =>
    "No module named ".toList ++ name.shown ++ "; ".toList ++ parent.shown ++
      " is not a package".toList
  | emptyModule => "Empty module name".toList
  | relative => []
  | beyondTop => "attempted relative import beyond top-level package".toList
  | noComponent moduleName name =>
    "Module \"".toList ++ moduleName ++ "\" does not define a \"".toList ++ name ++
      "\" attribute/class".toList

/-- Whether a failure says that something is not there. -/
def FindError.isAbsence : FindError → Bool
  | noModulePath _ => true
  | noModule _ => true
  | noPackage _ _ => true
  | noComponent _ _ => true
  | beyondTop => true
  | _ => false

/-- The beginnings of a dotted name, the shortest first. -/
def beginnings (moduleName : Text) : List Text :=
  let parts := moduleName.splitOn '.'
  (List.range parts.length).map fun n => Text.join ['.'] (parts.take (n + 1))

/-- Whether a module holds further modules. -/
def isPackage (moduleName : Text) : Bool :=
  (moduleOf? moduleName).any (·.isPackage)

/-- Looks for modules one after the other, each within the one before. -/
def findModules : (parent : Option Text) → List Text → Except FindError Unit
  | _, [] => .ok ()
  | parent, name :: rest =>
    match parent with
    | some p =>
      if !isPackage p then .error (.noPackage name p)
      else if (moduleOf? name).isNone then .error (.noModule name)
      else findModules (some name) rest
    | none =>
      if (moduleOf? name).isNone then .error (.noModule name) else findModules (some name) rest

/-- A path before and behind its last dot. -/
def splitPath (path : Text) : Option (Text × Text) :=
  if path.contains '.' then
    let name := (path.reverse.takeWhile (· != '.')).reverse
    some (path.take (path.length - name.length - 1), name)
  else none

/-- The module of a full name. -/
def findModule (moduleName : Text) : Except FindError Module :=
  if moduleName.isEmpty then .error .emptyModule
  else if moduleName.startsWith ['.'] then .error .relative
  else
    match findModules none (beginnings moduleName), moduleOf? moduleName with
    | .ok (), some m => .ok m
    | .ok (), none => .error (.noModule moduleName)
    | .error e, _ => .error e

/-- The component at the end of a path. -/
def findText (path : Text) : Except FindError Component :=
  match splitPath path with
  | none => .error (.noModulePath path)
  | some (moduleName, name) =>
    match findModule moduleName with
    | .error e => .error e
    | .ok m =>
      match m.find? name with
      | some c => .ok c
      | none => .error (.noComponent moduleName name)

/-- The component at the end of a path, which has to be a text. -/
def find : Json → Except FindError Component
  | .text path => findText path
  | v => .error (.noPath (.ofJson v "rsplit"))

/-- The full name of a module: each dot in front of a name but the first stands for one package less
at the end of the package that the name is looked up in. -/
def fullName (package : Json) (name : Text) : Except FindError Text :=
  let dots := (name.takeWhile (· == '.')).length
  if dots = 0 then .ok name
  else
    match package with
    | .text package =>
      let parts := package.splitOn '.'
      if package.isEmpty then .error .relative
      else if parts.length < dots then .error .beyondTop
      else
        let base := parts.take (parts.length - (dots - 1))
        let rest := name.drop dots
        .ok (Text.join ['.'] (if rest.isEmpty then base else base ++ [rest]))
    | _ => .error .relative

/-- The module of a name that may begin with dots, which counts within a package. -/
def findModuleIn (package name : Json) : Except FindError Module :=
  match name with
  | .text name => (fullName package name).bind findModule
  | v => .error (.noPath (.ofJson v "startswith"))

/-! ## Names of their own -/

/-- Why the name of a component could not be given. -/
inductive NameError
  /-- There is no such component. -/
  | find (error : FindError)
  /-- The component has no name. -/
  | unnamed (lack : Lack)
  /-- The settings keep the name to themselves. -/
  | hidden
  deriving DecidableEq, Repr

/-- How the name that a component has of its own is called. -/
def nameFeature : Text := "__name__".toList

/-- The wording of a failure. -/
def NameError.message : NameError → Text
  | find e => e.message
  | unnamed lack => lack.message
  | hidden => nameFeature

/-- The name that a component has of its own. -/
def ownName : Component → Except NameError Text
  | type name => .ok name
  | function name => .ok name
  | part name => .ok name
  | value kind => .error (.unnamed (.ofKind kind nameFeature))
  | settings => .error .hidden
  | null => .error (.unnamed (.ofJson .null "__name__"))

/-- The name that the component at the end of a path has of its own. -/
def nameAt (path : Json) : Except NameError Text :=
  match find path with
  | .error e => .error (.find e)
  | .ok c => c.ownName

end EventPipeline.Component
