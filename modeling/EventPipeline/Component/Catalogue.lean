import EventPipeline.Text

/-!
# The catalogue of components

What the modules of the program offer by name: types, functions, further modules, and values of
several kinds. Every module also has names of its own accord, which are the same for all; the
catalogue says which module has which of the names that differ.
-/

namespace EventPipeline

/-- What a name in a module stands for. -/
inductive Component
  /-- A type. -/
  | type (name : Text)
  /-- A function. -/
  | function (name : Text)
  /-- A module, by its full name. -/
  | part (name : Text)
  /-- A value of a kind. -/
  | value (kind : Text)
  /-- The settings. -/
  | settings
  /-- Nothing. -/
  | null
  deriving DecidableEq, Repr

namespace Component

/-- A module and what its names stand for. -/
structure Module where
  /-- The full name. -/
  name : String
  /-- The types. -/
  types : List String := []
  /-- The types that have another name of their own. -/
  renamedTypes : List (String × String) := []
  /-- The functions. -/
  functions : List String := []
  /-- The modules below it. -/
  parts : List String := []
  /-- Other modules. -/
  modules : List String := []
  /-- Other modules that have another name of their own. -/
  renamedModules : List (String × String) := []
  /-- The texts. -/
  texts : List String := []
  /-- The whole numbers. -/
  numbers : List String := []
  /-- Further values, with their kinds. -/
  values : List (String × String) := []
  /-- The names of the settings. -/
  settings : List String := []
  /-- The names of nothing. -/
  nulls : List String := []
  /-- Whether it can hold further modules. -/
  isPackage : Bool := false

/-- The modules of the program. -/
def catalogue : List Module := [
  { name := "pointy_studio"
    types := ["DataType", "PipelineField", "Connection", "EventNode", "PipelineConfig",
      "PipelineDocument", "PipelineEvent", "Position", "PointyParser", "PipelineStore"]
    functions := ["validate_code", "lint_code", "parse_pointy", "compile_pointy"]
    parts := ["backends", "cli", "conf", "constants", "exceptions", "fields", "import_utils",
      "models", "parser", "store", "translator", "utils"]
    texts := ["__version__"]
    isPackage := true },
  { name := "pointy_studio.__main__"
    functions := ["main"]
    modules := ["sys"] },
  { name := "pointy_studio.backends"
    parts := ["store", "stores"]
    isPackage := true },
  { name := "pointy_studio.backends.store"
    types := ["DocumentStoreBackendBase"]
    modules := ["abc", "typing"] },
  { name := "pointy_studio.backends.stores"
    parts := ["file_store", "inmemory_store"]
    isPackage := true },
  { name := "pointy_studio.backends.stores.file_store"
    types := ["ObjectDoesNotExist", "ImproperlyConfigured", "DocumentStoreBackendBase",
      "JSONFileStoreBackend"]
    modules := ["os", "typing", "logging", "tempfile"]
    values := [("logger", "Logger")] },
  { name := "pointy_studio.backends.stores.inmemory_store"
    types := ["ObjectDoesNotExist", "DocumentStoreBackendBase", "InMemoryDocumentStoreBackend"]
    modules := ["typing", "threading"] },
  { name := "pointy_studio.cli"
    types := ["InvalidPipelineDocument", "PipelineDocument", "PointyParser"]
    functions := ["validate_code", "compile_pointy", "generate_dot_from_document", "_read",
      "_write", "run_validate", "run_compile", "run_parse", "run_dot", "main"]
    modules := ["sys", "typing", "logging", "argparse"]
    values := [("logger", "Logger"), ("cmd_parser", "ArgumentParser"),
      ("subparsers", "_SubParsersAction"), ("validate_cmd", "ArgumentParser"),
      ("compile_cmd", "ArgumentParser"), ("parse_cmd", "ArgumentParser"),
      ("dot_cmd", "ArgumentParser"), ("COMMANDS", "dict")] },
  { name := "pointy_studio.conf"
    types := ["ConfigLoader"]
    modules := ["os", "typing", "logging", "importlib"]
    texts := ["ENV_CONFIG", "ENV_CONFIG_DIR", "CONFIG_FILE", "DEFAULT_SETTINGS_FILE"]
    values := [("logger", "Logger"), ("__all__", "list")]
    settings := ["_default_config"] },
  { name := "pointy_studio.constants"
    texts := ["STORAGE_KEY", "EVENT_NODE_TYPE", "EVENT_ID_PREFIX", "DEFAULT_EVENT_NAME",
      "DEFAULT_EVENT_CODE", "IDENTIFIER_PATTERN", "POINTY_COMMENT", "CODE_COMMENT"]
    numbers := ["LAYOUT_ORIGIN_X", "LAYOUT_ORIGIN_Y", "LAYOUT_COLUMN_SPACING",
      "LAYOUT_ROW_SPACING", "LAYOUT_MAX_X"] },
  { name := "pointy_studio.exceptions"
    types := ["PipelineError", "ImproperlyConfigured", "PipelineNotConfigured",
      "EventDoesNotExist", "ConnectionDoesNotExist", "ObjectDoesNotExist",
      "InvalidPipelineDocument"] },
  { name := "pointy_studio.fields"
    types := ["StrEnum", "BaseModel", "ConfigDict", "DataType", "PipelineField"]
    renamedTypes := [("PositiveInt", "Annotated")]
    modules := ["typing"] },
  { name := "pointy_studio.import_utils"
    functions := ["import_module", "cached_import", "import_string"]
    modules := ["sys", "typing"] },
  { name := "pointy_studio.models"
    types := ["BaseModel", "ConfigDict", "ValidationError", "InvalidPipelineDocument",
      "PipelineField", "PipelineConfig", "PipelineEvent", "Position", "EventNodeData",
      "EventNode", "Connection", "PipelineDocument"]
    functions := ["Field"]
    modules := ["json", "typing"]
    texts := ["EVENT_NODE_TYPE"]
    values := [("__all__", "list")] },
  { name := "pointy_studio.parser"
    types := ["Diagnostic", "Severity", "PointyLexer", "GridLayout", "PointyParser",
      "ParseResult"]
    functions := ["lint_code", "validate_code", "parse_pointy"]
    parts := ["diagnostics", "grammar", "layout", "lexer", "validator"]
    isPackage := true },
  { name := "pointy_studio.parser.diagnostics"
    types := ["StrEnum", "Severity", "Diagnostic"]
    functions := ["dataclass"]
    modules := ["typing"] },
  { name := "pointy_studio.parser.grammar"
    types := ["Connection", "EventNode", "PipelineDocument", "PipelineEvent", "Diagnostic",
      "GridLayout", "PointyLexer", "ParseResult", "_OpenEvent", "PointyParser"]
    functions := ["dataclass", "field", "event_id_from_name", "parse_pointy"]
    modules := ["typing", "logging"]
    texts := ["POINTY_COMMENT", "EVENT_END"]
    values := [("logger", "Logger"), ("EVENT_HEADER", "tuple"), ("CONNECTION", "tuple"),
      ("pointy_lexer", "PointyLexer"), ("__all__", "list")] },
  { name := "pointy_studio.parser.layout"
    types := ["ConfigLoader", "Position", "GridLayout"]
    modules := ["typing"]
    numbers := ["LAYOUT_ORIGIN_X", "LAYOUT_ORIGIN_Y", "LAYOUT_COLUMN_SPACING",
      "LAYOUT_ROW_SPACING", "LAYOUT_MAX_X"]
    settings := ["conf"] },
  { name := "pointy_studio.parser.lexer"
    types := ["LexToken", "PointyLexer"]
    modules := ["typing"]
    renamedModules := [("lex", "ply.lex")]
    texts := ["IDENTIFIER_PATTERN"] },
  { name := "pointy_studio.parser.validator"
    types := ["Diagnostic"]
    functions := ["lint_code", "validate_code"]
    modules := ["typing"]
    texts := ["CODE_COMMENT", "EXPECTED_INDENTATION", "SEMICOLON_USED"]
    values := [("__all__", "list")] },
  { name := "pointy_studio.settings"
    texts := ["STORAGE_KEY", "DEFAULT_EVENT_NAME", "DEFAULT_EVENT_CODE"]
    numbers := ["LAYOUT_ORIGIN_X", "LAYOUT_ORIGIN_Y", "LAYOUT_COLUMN_SPACING",
      "LAYOUT_ROW_SPACING", "LAYOUT_MAX_X"]
    values := [("PIPELINE_STORE_CONFIG", "dict")] },
  { name := "pointy_studio.store"
    types := ["ConfigLoader", "ConnectionDoesNotExist", "EventDoesNotExist",
      "ImproperlyConfigured", "InvalidPipelineDocument", "PipelineNotConfigured", "Connection",
      "EventNode", "PipelineConfig", "PipelineDocument", "PipelineEvent", "Position",
      "DocumentStoreBackendBase", "PipelineStore"]
    functions := ["import_string", "parse_pointy", "validate_code", "compile_pointy",
      "generate_connection_id", "generate_event_id", "is_pointy_identifier"]
    modules := ["typing", "logging", "threading"]
    texts := ["STORAGE_KEY", "DEFAULT_EVENT_NAME", "DEFAULT_EVENT_CODE"]
    values := [("logger", "Logger"), ("__all__", "list")]
    settings := ["conf"] },
  { name := "pointy_studio.translator"
    functions := ["compile_pointy", "generate_dot_from_document", "draw_graphviz_image"]
    parts := ["dot", "pointy"]
    isPackage := true },
  { name := "pointy_studio.translator.dot"
    types := ["StringIO", "PipelineDocument"]
    functions := ["resolve_event_names", "_escape", "generate_dot_from_document",
      "draw_graphviz_image"]
    modules := ["os", "typing", "logging"]
    values := [("logger", "Logger"), ("__all__", "list")]
    nulls := ["graphviz"] },
  { name := "pointy_studio.translator.pointy"
    types := ["StringIO", "PipelineDocument"]
    functions := ["is_pointy_identifier", "resolve_event_names", "unreadable_code_lines",
      "compile_pointy"]
    modules := ["typing", "logging"]
    texts := ["POINTY_COMMENT", "EVENT_END"]
    values := [("logger", "Logger"), ("__all__", "list")] },
  { name := "pointy_studio.utils"
    functions := ["is_pointy_identifier", "generate_event_id", "event_id_from_name",
      "generate_connection_id"]
    modules := ["re", "time", "uuid", "typing"]
    texts := ["EVENT_ID_PREFIX", "IDENTIFIER_PATTERN"]
    values := [("_identifier_re", "re.Pattern")] }]

/-- The values that every module has of its own accord, with their kinds. -/
def standardValues : List (String × String) := [
  ("__name__", "str"), ("__package__", "str"), ("__file__", "str"), ("__cached__", "str"),
  ("__doc__", "NoneType"), ("__loader__", "SourceFileLoader"), ("__spec__", "ModuleSpec"),
  ("__builtins__", "dict"), ("__dict__", "dict"), ("__annotations__", "dict")]

/-- The functions that every module has of its own accord, and that are tied to it. -/
def boundFunctions : List String := [
  "__delattr__", "__eq__", "__ge__", "__getattribute__", "__gt__", "__hash__", "__init__", "__le__",
  "__lt__", "__ne__", "__repr__", "__setattr__", "__str__"]

/-- The further functions that every module has of its own accord. -/
def innerFunctions : List String := [
  "__dir__", "__format__", "__getstate__", "__init_subclass__", "__new__", "__reduce__",
  "__reduce_ex__", "__sizeof__", "__subclasshook__"]

/-- The kind of a function. -/
def functionKind (name : Text) : Text :=
  if boundFunctions.any fun f => f.toList == name then "method-wrapper".toList
  else if innerFunctions.any fun f => f.toList == name then "builtin_function_or_method".toList
  else "function".toList

/-- What the names of every module stand for. -/
def standardEntries : List (String × Component) :=
  (standardValues.map fun v => (v.1, value v.2.toList)) ++
    ((boundFunctions ++ innerFunctions).map fun name => (name, function name.toList)) ++
    [("__class__", type "module".toList)]

namespace Module

/-- What the names of a module stand for. -/
def entries (m : Module) : List (String × Component) :=
  let full (name : String) : Text := m.name.toList ++ '.' :: name.toList
  (m.types.map fun name => (name, type name.toList)) ++
    (m.renamedTypes.map fun n => (n.1, type n.2.toList)) ++
    (m.functions.map fun name => (name, function name.toList)) ++
    (m.parts.map fun name => (name, part (full name))) ++
    (m.modules.map fun name => (name, part name.toList)) ++
    (m.renamedModules.map fun n => (n.1, part n.2.toList)) ++
    (m.texts.map fun name => (name, value "str".toList)) ++
    (m.numbers.map fun name => (name, value "int".toList)) ++
    (m.values.map fun v => (v.1, value v.2.toList)) ++
    (m.settings.map fun name => (name, Component.settings)) ++
    (m.nulls.map fun name => (name, null)) ++
    (if m.isPackage then [("__path__", value "list".toList)] else []) ++
    standardEntries

/-- What a name stands for in a module. -/
def find? (m : Module) (name : Text) : Option Component :=
  (m.entries.find? fun e => e.1.toList == name).map Prod.snd

end Module

/-- The file of a package as a module of its own: it has the names that the package has, but for
the modules below it. -/
def Module.opening (m : Module) : Module :=
  { m with name := m.name ++ ".__init__", parts := [], isPackage := false }

/-- Every module, with those that packages open with. -/
def modules : List Module :=
  catalogue ++ (catalogue.filter Module.isPackage).map Module.opening

/-- The module of a full name. -/
def moduleOf? (name : Text) : Option Module :=
  modules.find? fun m => m.name.toList == name

end Component

end EventPipeline
