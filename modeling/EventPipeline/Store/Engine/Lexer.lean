import EventPipeline.Store.Engine.Recipe

/-!
# Engines that are lexers

A lexer is made with options for the tables that it is made of: flags for its patterns, whether it
tells what it does and to whom, and whether it looks for finished tables under a name and leaves its
own there.
-/

namespace EventPipeline.Engine

/-! ## Flags -/

/-- Whether a number has a flag, which is a power of two. -/
def hasFlag (n flag : Int) : Bool :=
  n / flag % 2 = 1

/-- The flag of patterns that go by a locale. -/
def localeFlag : Int := 4

/-- The flag of patterns for all characters. -/
def allCharactersFlag : Int := 32

/-- The flag of patterns that spread over lines, which is the usual one. -/
def spreadFlag : Int := 64

/-- The flag of patterns for the first alphabet only. -/
def firstAlphabetFlag : Int := 256

/-- The greatest number of flags. -/
def flagLimit : Int := 2147483647

/-- Why patterns cannot be made with some flags. -/
def flagFault? : Json → Option EngineError
  | .bool _ => none
  | .int n =>
    if hasFlag n localeFlag then some (.option .localeFlag)
    else if hasFlag n allCharactersFlag && hasFlag n firstAlphabetFlag then
      some (.option .twoAlphabets)
    else if flagLimit < n || n < -(flagLimit + 1) then some .oversized
    else none
  | .float x => if x = Binary64.ofInt spreadFlag then none else some .noOptions
  | _ => some .noOptions

/-! ## Tables under a name -/

/-- What a script comes to that takes in modules and goes on as a text says. The text has to be the
name of one of them. -/
def takeIn (modules : Text) : Except EngineError Unit :=
  match Script.read ("import ".toList ++ modules) with
  | .error f => .error (.fault f)
  | .ok statements =>
    match Script.run statements, Component.checkModule modules with
    | .error e, _ => .error (.run e)
    | .ok _, .ok () => .ok ()
    | .ok _, .error _ => .error .noMember

/-- The name that tables are looked for under. It does not matter whether they are there. -/
def tablesUnder : Json → Except EngineError Text
  | .text s =>
    match takeIn s with
    | .ok () => .ok s
    | .error (.run (.noModule _)) => .ok s
    | .error e => .error e
  | _ => .error (.fault .malformed)

/-- What leaving tables under a name comes to: without a directory, they go to the package of the
name. -/
def leaveTables (files : FileTree Bytes) (name : Text) (options : Options) :
    Except EngineError Unit :=
  match options.value "outputdir" with
  | .null =>
    match Component.splitPath name with
    | none => .ok ()
    | some (package, _) => takeIn package
  | .text directory =>
    let last := ((name.splitOn '.').getLast?).getD []
    match files.write (joinPath directory (last ++ ".py".toList)) [], options.value "errorlog" with
    | .ok _, _ => .ok ()
    | .error .nullCharacter, _ => .error (.path .nullCharacter)
    | .error _, .null => .ok ()
    | .error _, v => .error (.lack (.ofJson v "warning"))
  | _ => .error .noOptions

/-- The name for the tables of a lexer that keeps them. -/
def tableName? (options : Options) : Except EngineError (Option Text) :=
  if (options.value "optimize").isEmpty then .ok none
  else
    match options.value "lextab" with
    | .null => .ok (some "lextab".toList)
    | v => if v.isEmpty then .ok none else (tablesUnder v).map some

/-! ## The recipe -/

/-- Whether the patterns of a lexer can be made. One that is made in a hurry tries on for ever. -/
def checkFlags (options : Options) : Except EngineError Unit :=
  match flagFault? ((options.get? "reflags".toList).getD (.int spreadFlag)) with
  | none => .ok ()
  | some e => .error (if (options.value "optimize").isEmpty then e else .endless)

/-- Whether a lexer can tell what it does. -/
def checkTalk (options : Options) : Except EngineError Unit :=
  let listener := options.value "debuglog"
  if (options.value "debug").isEmpty || listener.isNull then .ok ()
  else .error (.lack (.ofJson listener "info"))

/-- What comes of the options of a lexer. -/
def makeLexer (files : FileTree Bytes) (options : Options) : Except EngineError Unit := do
  if !(options.value "object").isEmpty then throw .noMember
  if (options.value "optimize").isEmpty then checkFlags options
  let name ← tableName? options
  checkTalk options
  checkFlags options
  match name with
  | some name => leaveTables files name options
  | none => return ()

/-- The recipe for a lexer. -/
def lexerRecipe : Recipe where
  optional := ["object", "debug", "optimize", "lextab", "reflags", "nowarn", "outputdir",
    "debuglog", "errorlog"]
  make _ files options := (makeLexer files options).map fun _ => .ofKind "PointyLexer".toList

end EventPipeline.Engine
