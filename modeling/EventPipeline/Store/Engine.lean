import EventPipeline.Store.Engine.Function
import EventPipeline.Store.Engine.Lexer
import EventPipeline.Store.Engine.Settings
import EventPipeline.Store.Engine.Type
import EventPipeline.Store.Engine.Word

/-!
# Storage engines

Settings name a component that makes a backend, and the options for it. Nothing keeps them from
naming another component: it is called with the options, and a store that opens on what comes of
that fails as the component does, or for lack of the operation of reading. The tables here say which
recipe each component has; a component without one takes no options at all.
-/

namespace EventPipeline.Engine

/-- The recipes of types. -/
def typeRecipes : List (String × Recipe) := [
  ("InMemoryDocumentStoreBackend", backendRecipe fun _ => Backend.openMemory),
  ("JSONFileStoreBackend", backendRecipe Backend.openDirectory),
  ("StringIO", streamRecipe),
  ("PipelineField", partRecipe .field Field.check),
  ("PipelineConfig", partRecipe .config Config.check),
  ("PipelineEvent", partRecipe .event Event.check),
  ("Position", partRecipe .position Position.check),
  ("EventNodeData", partRecipe .nodeData Node.checkData),
  ("EventNode", partRecipe .node Node.check),
  ("Connection", partRecipe .connection Connection.check),
  ("PipelineDocument", partRecipe .document Document.check),
  ("BaseModel", unrefinedRecipe),
  ("PipelineError", failureRecipe "PipelineError"),
  ("PipelineNotConfigured", failureRecipe "PipelineNotConfigured"),
  ("EventDoesNotExist", failureRecipe "EventDoesNotExist"),
  ("ConnectionDoesNotExist", failureRecipe "ConnectionDoesNotExist"),
  ("ObjectDoesNotExist", failureRecipe "ObjectDoesNotExist"),
  ("InvalidPipelineDocument",
    .plain "InvalidPipelineDocument" ["message"] ["code", "params", "exception"]),
  ("ImproperlyConfigured", .plain "ImproperlyConfigured" [] []),
  ("StrEnum", wordRecipe "StrEnum" []),
  ("DataType", wordRecipe "DataType" (DataType.all.map DataType.word)),
  ("Severity", wordRecipe "Severity" [Diagnostic.severity]),
  ("Diagnostic", .plain "Diagnostic" ["message"] ["line", "severity"]),
  ("ParseResult", .plain "ParseResult" ["document"] ["diagnostics"]),
  ("_OpenEvent", .plain "_OpenEvent" ["name", "lineno"] ["lines"]),
  ("PointyLexer", lexerRecipe),
  ("PointyParser", placingRecipe "PointyParser" "layout" ["strict", "lexer"]),
  ("GridLayout", gridRecipe),
  ("PipelineStore", storeRecipe),
  ("ConfigLoader", settingsRecipe),
  ("ConfigDict", .anything "dict"),
  ("Annotated", .plain "int" [] []),
  ("LexToken", .plain "LexToken" [] []),
  ("module", moduleRecipe)]

/-- The recipes of functions. -/
def functionRecipes : List (String × Recipe) := [
  ("import_string", componentRecipe),
  ("cached_import", memberRecipe),
  ("import_module", moduleLookupRecipe),
  ("lint_code", textRecipe "code" "split" "list"),
  ("validate_code", textRecipe "code" "split" "list"),
  ("unreadable_code_lines", textRecipe "code" "split" "list"),
  ("is_pointy_identifier", identifierRecipe),
  ("generate_event_id", .plain "str" [] []),
  ("event_id_from_name", .plain "str" ["name"] []),
  ("generate_connection_id", connectionIdRecipe),
  ("parse_pointy", pointyRecipe),
  ("compile_pointy", lackingRecipe "document" "nodes"),
  ("generate_dot_from_document", lackingRecipe "document" "nodes"),
  ("resolve_event_names", lackingRecipe "document" "nodes"),
  ("draw_graphviz_image", .plain "NoneType" ["document"] ["directory", "filename"]),
  ("_escape", textRecipe "value" "replace" "str"),
  ("_read", readFileRecipe),
  ("_write", writeFileRecipe),
  ("run_validate", lackingRecipe "args" "file"),
  ("run_compile", lackingRecipe "args" "file"),
  ("run_parse", lackingRecipe "args" "strict"),
  ("run_dot", lackingRecipe "args" "file"),
  ("main", programRecipe),
  ("Field", memberFieldRecipe),
  ("field", recordFieldRecipe),
  ("dataclass", .plain "function" [] ["init", "repr", "eq", "order", "unsafe_hash", "frozen",
    "match_args", "kw_only", "slots", "weakref_slot"]),
  ("__repr__", moduleFunctionRecipe "str"),
  ("__str__", moduleFunctionRecipe "str"),
  ("__dir__", moduleFunctionRecipe "list"),
  ("__hash__", moduleFunctionRecipe "int"),
  ("__sizeof__", moduleFunctionRecipe "int"),
  ("__getstate__", moduleFunctionRecipe "dict"),
  ("__subclasshook__", moduleFunctionRecipe "NotImplementedType"),
  ("__init_subclass__", moduleFunctionRecipe "NoneType"),
  ("__init__", moduleSetupRecipe)]

/-- The recipes of values. -/
def valueRecipes : List (String × Recipe) := [
  ("_SubParsersAction", commandNameRecipe)]

/-- The recipe among some of a name. -/
def recipeOf? (recipes : List (String × Recipe)) (name : Text) : Option Recipe :=
  (recipes.find? fun r => r.1.toList == name).map Prod.snd

/-- The recipe of a component. -/
def recipeFor (c : Component) : Recipe :=
  let found := match c with
    | .type name => recipeOf? typeRecipes name
    | .function name => recipeOf? functionRecipes name
    | .value kind => recipeOf? valueRecipes kind
    | _ => none
  found.getD .none

/-- What a component makes of options. -/
def make (c : Component) (around : Surroundings) (files : FileTree Bytes) (options : Options) :
    Except EngineError Product :=
  (recipeFor c).follow around files options

/-- What is reported while a component makes something of options. -/
def report (c : Component) (around : Surroundings) (files : FileTree Bytes) (options : Options) :
    Log :=
  (recipeFor c).report around files options

end EventPipeline.Engine
