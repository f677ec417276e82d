import EventPipeline.CommandLine.Arguments
import EventPipeline.Document.Interchange
import EventPipeline.Document.Loading
import EventPipeline.Dot
import EventPipeline.Lint
import EventPipeline.Pointy.Writer
import EventPipeline.Store.Backend

/-!
# Commands

The commands of the command line: linting a file of code, and converting between interchange text,
pointy text and graphs. A command reads all that it needs before it gives anything out. Its product
is either a list of remarks or a converted text with the file that it is for.

`execute` takes files through a function and is all that a command decides; `conclude` says what is
shown when its product has been carried out. `run` does both on a file tree. A run that fails leaves
the files as they were and prints nothing.
-/

namespace EventPipeline.CommandLine

/-! ## Products -/

/-- Why a command failed. -/
inductive Failure
  /-- A file could not be used. -/
  | path (error : PathError) (name : Text)
  /-- A file is no text. -/
  | undecodable (error : DecodeError)
  /-- A file is no document. -/
  | load (error : LoadError)
  /-- The document cannot be written. -/
  | unwritable
  /-- Events could not be placed. -/
  | grid (error : GridError)
  /-- The option for the file of the result has no value. -/
  | noOutput
  deriving DecidableEq, Repr

/-- The wording of a failure. -/
def Failure.message : Failure → Text
  | path .nullCharacter _ => PathError.message .nullCharacter
  | path e name =>
    "[Errno ".toList ++ Text.ofNat e.number ++ "] ".toList ++ e.message ++ [':', ' '] ++ name.shown
  | undecodable e => e.message
  | load e => e.message
  | unwritable => Json.limitMessage ++ Json.limitAdvice
  | grid _ => []
  | noOutput => []

/-- Whether the program is prepared for a failure. -/
def Failure.isExpected : Failure → Bool
  | path e _ => e ≠ .nullCharacter
  | undecodable _ => true
  | load _ => true
  | _ => false

/-- What a command makes. -/
inductive Product
  /-- Remarks on a file. -/
  | remarks (lines : List Text)
  /-- A text, for a file or for the output. -/
  | text (text : Text) (output : OptionValue)
  deriving DecidableEq, Repr

/-- What a command reports and makes. -/
structure Report where
  /-- What is reported. -/
  log : Log
  /-- The product, or why there is none. -/
  result : Except Failure Product

/-! ## Commands -/

/-- The text of a file. -/
def readText (read : Text → Except PathError Bytes) (path : Text) : Except Failure Text :=
  match read path with
  | .error e => .error (.path e path)
  | .ok bytes => (SlotFile.textOfBytes bytes).mapError .undecodable

/-- The document of a file. -/
def readDocument (read : Text → Except PathError Bytes) (path : Text) : Except Failure Document :=
  match readText read path with
  | .error e => .error e
  | .ok s => (Document.ofText s).mapError .load

/-- The configuration of the document of a file, if a file is given. -/
def readConfig (read : Text → Except PathError Bytes) (given : OptionValue) :
    Except Failure (Option Config) :=
  match given.path? with
  | none => .ok none
  | some path => (readDocument read path).map Document.config

/-- The remark of a file and a line. -/
def fileRemark (file remark : Text) : Text :=
  file ++ [':', ' '] ++ remark

/-- The warnings about a pointy file. -/
def diagnosticLog (file : Text) (ds : List Diagnostic) : Log :=
  ds.map fun d => LogRecord.mk .warning .commandLine (fileRemark file d.toText)

/-- What a file of pointy text holds, with its events on a grid. -/
def readPointy (read : Text → Except PathError Bytes) (grid : Except GridError Grid) (file : Text)
    (strict : Bool) : Except Failure Pointy.Reading :=
  match grid, readText read file with
  | .error e, _ => .error (.grid e)
  | .ok _, .error e => .error e
  | .ok grid, .ok s => (Pointy.read strict grid s).mapError .grid

/-- Writes the document of a pointy text, with the configuration of a file. -/
def executeParse (read : Text → Except PathError Bytes) (grid : Except GridError Grid)
    (file : Text) (output : OptionValue) (strict : Bool) (config : OptionValue) : Report :=
  match readPointy read grid file strict with
  | .error e => ⟨[], .error e⟩
  | .ok reading =>
    let log := reading.log ++ diagnosticLog file reading.diagnostics
    match readConfig read config with
    | .error e => ⟨log, .error e⟩
    | .ok config =>
      match (reading.document.withConfig config).write? (.indented 2) with
      | none => ⟨log, .error .unwritable⟩
      | some text => ⟨log, .ok (.text text output)⟩

/-- Does what a command asks for, as far as its product; read events go on a grid. -/
def execute (read : Text → Except PathError Bytes) (grid : Except GridError Grid) :
    Command → Report
  | .validate file =>
    ⟨[], (readText read file).map fun code =>
      .remarks ((Lint.warnings code).map (fileRemark file))⟩
  | .compile file output =>
    match readDocument read file with
    | .error e => ⟨[], .error e⟩
    | .ok d => ⟨Pointy.writeLog d, .ok (.text (Pointy.write d) output)⟩
  | .parse file output strict config => executeParse read grid file output strict config
  | .dot file output =>
    match readDocument read file with
    | .error e => ⟨[], .error e⟩
    | .ok d => ⟨[], .ok (.text (Dot.write d) output)⟩

/-! ## What a run prints -/

/-- A text as it is printed: it ends with a line feed. -/
def printed (s : Text) : Text :=
  if s.endsWith ['\n'] then s else s ++ ['\n']

/-- A text on a line of its own. -/
def line (s : Text) : Text :=
  s ++ ['\n']

/-- A record of the log in words. -/
def recordText (r : LogRecord) : Text :=
  r.level.word ++ ' ' :: r.source.name ++ [':', ' '] ++ r.message

/-- The records that are shown. -/
def logText (verbose : Bool) (log : Log) : Text :=
  (log.atLeast (if verbose then .debug else .info)).flatMap fun r => line (recordText r)

/-- The record of a file that was written. -/
def wroteRecord (path : Text) : LogRecord where
  level := .info
  source := .commandLine
  message := "Wrote ".toList ++ path

/-- A failure in words. -/
def failureText (e : Failure) : Text :=
  line ("error: ".toList ++ e.message)

/-- The exit code of a failure: one that the program is prepared for is told apart from others. -/
def Failure.exitCode (e : Failure) : Nat :=
  if e.isExpected then 2 else 1

/-! ## Runs -/

/-- What a run shows. -/
structure Ending where
  /-- The exit code. -/
  exitCode : Nat
  /-- What was printed. -/
  output : Text
  /-- What was reported. -/
  errors : Text
  /-- The failure that ended the run, if the program was not prepared for it. -/
  unexpected : Option Failure := none
  deriving DecidableEq, Repr

/-- What a run leaves behind. -/
structure Outcome extends Ending where
  /-- The files. -/
  files : FileTree Bytes

/-- The file that a report asks for and its text. -/
def Report.file? (r : Report) : Option (Text × Text) :=
  match r.result with
  | .ok (.text text (.text path)) => some (path, text)
  | _ => none

/-- What a run shows that failed. -/
def failed (log : Text) (e : Failure) : Ending :=
  ⟨e.exitCode, [], log ++ failureText e, if e.isExpected then none else some e⟩

/-- What a run shows once the file that its report asks for was written, or could not be. -/
def conclude (verbose : Bool) (report : Report) (written : Except PathError Unit) : Ending :=
  let log := logText verbose report.log
  match report.result with
  | .error e => failed log e
  | .ok (.remarks lines) =>
    { exitCode := if lines.isEmpty then 0 else 1, output := lines.flatMap line, errors := log }
  | .ok (.text text .absent) => { exitCode := 0, output := printed text, errors := log }
  | .ok (.text _ .empty) => failed log .noOutput
  | .ok (.text _ (.text path)) =>
    match written with
    | .error e => failed log (.path e path)
    | .ok () =>
      { exitCode := 0, output := [], errors := log ++ logText verbose [wroteRecord path] }

/-- The files once the file that a report asks for was written, if it could be. -/
def writeFile (files : FileTree Bytes) (report : Report) : Except PathError (FileTree Bytes) :=
  match report.file? with
  | none => .ok files
  | some (path, text) => files.write path (Utf8.encode text)

/-- Carries out what a command made. -/
def deliver (files : FileTree Bytes) (verbose : Bool) (report : Report) : Outcome :=
  let written := writeFile files report
  { toEnding := conclude verbose report (written.map fun _ => ())
    files := (written.toOption).getD files }

/-- Runs an invocation on some files; read events go on a grid. -/
def runInvocation (files : FileTree Bytes) (grid : Except GridError Grid) (i : Invocation) :
    Outcome :=
  deliver files i.verbose (execute files.read grid i.command)

/-- What a run shows whose arguments could not be read. -/
def refuse (e : UsageError) : Ending :=
  match e.fault with
  | .help => { exitCode := 0, output := [], errors := [] }
  | _ => { exitCode := 2, output := [], errors := line e.message }

/-- Runs a command line on some files. -/
def run (files : FileTree Bytes) (args : List Text) : Outcome :=
  match readArguments args with
  | .error e => { toEnding := refuse e, files := files }
  | .ok i => runInvocation files (.ok Grid.standard) i

end EventPipeline.CommandLine
