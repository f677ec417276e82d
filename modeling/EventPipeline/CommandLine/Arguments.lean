import EventPipeline.Text.Digit
import EventPipeline.Text.Quoted

/-!
# Command lines

A command line is options of the program, a command, and then arguments and options of the command.
An option is known by its names; a long name may be cut short as long as one option alone begins
that way, and a value may be joined to a name. Behind two hyphens everything is an argument.

`scan` reads arguments against the options of one level. Arguments that find no place and options
that are not known are left over; whether that is a failure is for the caller to say. The first
failure from the left counts, but an ambiguous name is noticed before anything else.
-/

namespace EventPipeline.CommandLine

/-! ## Options -/

/-- The options that there are. -/
inductive Flag
  /-- Shows how the program is used. -/
  | help
  /-- Shows notes as well. -/
  | verbose
  /-- Gives the file for the result. -/
  | output
  /-- Keeps the first of several events of one name. -/
  | strict
  /-- Gives a file that has the configuration. -/
  | config
  deriving DecidableEq, Repr

/-- An option as a level of the command line has it. -/
structure OptionSpec where
  /-- Which option it is. -/
  flag : Flag
  /-- Its names. -/
  names : List Text
  /-- Whether a value follows it. -/
  takesValue : Bool
  deriving DecidableEq, Repr

/-- The names of an option, as messages give them. -/
def OptionSpec.label (spec : OptionSpec) : Text :=
  Text.join ['/'] spec.names

/-- The option that asks for help. -/
def helpSpec : OptionSpec := ⟨.help, ["-h".toList, "--help".toList], false⟩

/-- The option for more notes. -/
def verboseSpec : OptionSpec := ⟨.verbose, ["-v".toList, "--verbose".toList], false⟩

/-- The option for the file of the result. -/
def outputSpec : OptionSpec := ⟨.output, ["-o".toList, "--output_file".toList], true⟩

/-- The option for strict reading. -/
def strictSpec : OptionSpec := ⟨.strict, ["--strict".toList], false⟩

/-- The option for the file that has the configuration. -/
def configSpec : OptionSpec := ⟨.config, ["--config".toList], true⟩

/-! ## Failures -/

/-- Why a level of the command line could not be read. -/
inductive Fault
  /-- Help was asked for. -/
  | help
  /-- A name could be that of several options. -/
  | ambiguous (name : Text) (candidates : List Text)
  /-- An option has a value that it does not take. -/
  | superfluousValue (label value : Text)
  /-- An option lacks its value. -/
  | missingValue (label : Text)
  /-- An argument is missing. -/
  | missingArgument (name : Text)
  /-- There is no such command. -/
  | unknownCommand (name : Text) (known : List Text)
  /-- Something is left over. -/
  | leftOver (parts : List Text)
  deriving DecidableEq, Repr

/-- The wording of a fault. -/
def Fault.message : Fault → Text
  | help => []
  | ambiguous name candidates =>
    "ambiguous option: ".toList ++ name ++ " could match ".toList ++
      Text.join [',', ' '] candidates
  | superfluousValue label value =>
    "argument ".toList ++ label ++ ": ignored explicit argument ".toList ++ value.shown
  | missingValue label => "argument ".toList ++ label ++ ": expected one argument".toList
  | missingArgument name => "the following arguments are required: ".toList ++ name
  | unknownCommand name known =>
    "argument command: invalid choice: ".toList ++ name.shown ++ " (choose from ".toList ++
      Text.join [',', ' '] (known.map Text.shown) ++ [')']
  | leftOver parts => "unrecognized arguments: ".toList ++ Text.join [' '] parts

/-! ## Telling options from arguments -/

/-- What an argument is taken for. -/
inductive Mark
  /-- An argument. -/
  | argument
  /-- The two hyphens behind which everything is an argument. -/
  | separator
  /-- An option that is not known. -/
  | unknown
  /-- An option under one of its names, perhaps with a value joined to it. -/
  | option (spec : OptionSpec) (name : Text) (joined : Option Text)
  deriving DecidableEq, Repr

/-- The options with each of their names, in order. -/
def namedSpecs (specs : List OptionSpec) : List (Text × OptionSpec) :=
  specs.flatMap fun spec => spec.names.map fun name => (name, spec)

/-- A text before and behind its first equals sign. -/
def splitValue (s : Text) : Text × Option Text :=
  (s.takeWhile (· != '='), (s.dropWhile (· != '=')).tail?)

/-- The options that a name cut short or run together with a value could stand for. -/
def candidates (specs : List OptionSpec) (arg : Text) :
    List (Text × OptionSpec × Option Text) :=
  match arg with
  | '-' :: '-' :: _ =>
    let (start, value) := splitValue arg
    (namedSpecs specs).filterMap fun (name, spec) =>
      if name.startsWith start then some (name, spec, value) else none
  | _ =>
    (namedSpecs specs).filterMap fun (name, spec) =>
      if name = arg.take 2 then some (name, spec, some (arg.drop 2))
      else if name.startsWith arg then some (name, spec, none)
      else none

/-- A text without the line feed at its end, if there is one. -/
def withoutLineFeed (s : Text) : Text :=
  if s.endsWith ['\n'] then s.dropLast else s

/-- Whether an argument is a negative number, in the digits of any script. A line feed may stand
behind it. -/
def isNegativeNumber (arg : Text) : Bool :=
  match withoutLineFeed arg with
  | '-' :: digits =>
    let whole := digits.takeWhile Text.isDecimalDigit
    match digits.dropWhile Text.isDecimalDigit with
    | [] => !whole.isEmpty
    | '.' :: places => !places.isEmpty && places.all Text.isDecimalDigit
    | _ => false
  | _ => false

/-- What an argument in front of the two hyphens is taken for. -/
def markOf (specs : List OptionSpec) (arg : Text) : Except Fault Mark :=
  match arg with
  | '-' :: _ :: _ =>
    match (namedSpecs specs).lookup arg with
    | some spec => .ok (.option spec arg none)
    | none =>
      let (name, value) := splitValue arg
      match value, (namedSpecs specs).lookup name with
      | some v, some spec => .ok (.option spec name (some v))
      | _, _ =>
        match candidates specs arg with
        | [(name, spec, joined)] => .ok (.option spec name joined)
        | [] =>
          if isNegativeNumber arg || arg.contains ' ' then .ok .argument else .ok .unknown
        | several => .error (.ambiguous arg (several.map Prod.fst))
  | _ => .ok .argument

/-- What the arguments are taken for. -/
def marks (specs : List OptionSpec) : List Text → Except Fault (List (Text × Mark))
  | [] => .ok []
  | arg :: rest =>
    if arg = ['-', '-'] then .ok ((arg, .separator) :: rest.map fun a => (a, .argument))
    else
      match markOf specs arg with
      | .error e => .error e
      | .ok mark => (marks specs rest).map fun ms => (arg, mark) :: ms

/-! ## Reading a level -/

/-- What was found on a level. -/
structure Found where
  /-- The options in order, each with its value, if it has one. -/
  options : List (Flag × Option Text)
  /-- The arguments that found their place. -/
  arguments : Option (List Text)
  /-- What is left over. -/
  extras : List Text
  deriving DecidableEq, Repr

/-- How many arguments find their place. -/
inductive Arity
  /-- One. -/
  | one
  /-- One and all that follow it, options included. -/
  | rest
  deriving DecidableEq, Repr

/-- Whether a mark stands for the separator. -/
def Mark.isSeparator : Mark → Bool
  | separator => true
  | _ => false

/-- Whether a mark stands for an option. -/
def Mark.isOption : Mark → Bool
  | option _ _ _ => true
  | unknown => true
  | _ => false

/-- The number of parts in front that the arguments of an arity take up, if they are there: a
separator in front of the first argument and, when there is one argument only, one behind it belong
to them. -/
def placeArguments (arity : Arity) (parts : List (Text × Mark)) : Option Nat :=
  let before := parts.takeWhile fun p => p.2.isSeparator
  match parts.drop before.length with
  | (_, .argument) :: behind =>
    match arity with
    | .rest => some parts.length
    | .one => some (before.length + 1 + (behind.takeWhile fun p => p.2.isSeparator).length)
  | _ => none

/-- The options that one argument holds. -/
structure Joined where
  /-- The options that are complete, each with its value, if it has one. -/
  found : List (Flag × Option Text)
  /-- The last option, if its value has to follow. -/
  pending : Option OptionSpec

/-- A value that is joined to an option. Two hyphens alone stand for none. -/
def joinedValue (s : Text) : Option Text :=
  if s = ['-', '-'] then none else some s

/-- Reads what is joined to an option that was found under a name: its value, or behind one hyphen
further options, of which each but the last takes no value. -/
def joinedOptions (specs : List OptionSpec) :
    (spec : OptionSpec) → (name s : Text) → Except Fault Joined
  | spec, _, [] =>
    if spec.takesValue then .ok ⟨[(spec.flag, some [])], none⟩
    else .error (.superfluousValue spec.label [])
  | spec, name, c :: rest =>
    if spec.takesValue then .ok ⟨[(spec.flag, joinedValue (c :: rest))], none⟩
    else if name.startsWith ['-', '-'] then .error (.superfluousValue spec.label (c :: rest))
    else
      match (namedSpecs specs).lookup ['-', c], rest with
      | none, _ => .error (.superfluousValue spec.label (c :: rest))
      | some next, [] =>
        if next.takesValue then .ok ⟨[(spec.flag, none)], some next⟩
        else .ok ⟨[(spec.flag, none), (next.flag, none)], none⟩
      | some next, d :: more =>
        (joinedOptions specs next ['-', c] (d :: more)).map fun j =>
          { j with found := (spec.flag, none) :: j.found }
  termination_by structural _ _ s => s

/-- The value of an option that has to follow it. -/
def takeValue (spec : OptionSpec) : List (Text × Mark) → Except Fault (Flag × Option Text)
  | (value, .argument) :: _ => .ok (spec.flag, some value)
  | _ => .error (.missingValue spec.label)

/-- An option in front of some parts: the options that were found, what is left over and the number
of parts that it takes up behind its own. -/
def takeOption (specs : List OptionSpec) (arg : Text) (mark : Mark) (behind : List (Text × Mark)) :
    Except Fault (List (Flag × Option Text) × List Text × Nat) :=
  match mark with
  | .option spec _ none =>
    if spec.takesValue then (takeValue spec behind).map fun o => ([o], [], 1)
    else .ok ([(spec.flag, none)], [], 0)
  | .option spec name (some s) =>
    match joinedOptions specs spec name s with
    | .error e => .error e
    | .ok ⟨found, none⟩ => .ok (found, [], 0)
    | .ok ⟨found, some next⟩ => (takeValue next behind).map fun o => (found ++ [o], [], 1)
  | _ => .ok ([], [arg], 0)

/-- Asks for help if the option was found. -/
def refuseHelp (found : List (Flag × Option Text)) : Except Fault Unit :=
  if found.any fun o => o.1 = .help then .error .help else .ok ()

/-- Reads parts from the left. Arguments are placed when they come in front of an option or when no
option is left; in front of an option, those that find no place are left over. -/
def scanParts (specs : List OptionSpec) (arity : Arity) :
    (limit : Nat) → Found → List (Text × Mark) → Except Fault Found
  | 0, found, parts => .ok { found with extras := found.extras ++ parts.map Prod.fst }
  | limit + 1, found, parts =>
    let place := if found.arguments.isNone then placeArguments arity parts else none
    let placed (n : Nat) : Found := { found with arguments := some ((parts.take n).map Prod.fst) }
    if parts.any fun p => p.2.isOption then
      match parts with
      | (arg, mark) :: behind =>
        if mark.isOption then
          match takeOption specs arg mark behind with
          | .error e => .error e
          | .ok (options, extras, n) =>
            match refuseHelp options with
            | .error e => .error e
            | .ok () =>
              scanParts specs arity limit
                { found with options := found.options ++ options, extras := found.extras ++ extras }
                (behind.drop n)
        else
          match place with
          | some n => scanParts specs arity limit (placed n) (parts.drop n)
          | none =>
            let skipped := parts.takeWhile fun p => !p.2.isOption
            scanParts specs arity limit
              { found with extras := found.extras ++ skipped.map Prod.fst }
              (parts.drop skipped.length)
      | [] => .ok found
    else
      match place with
      | some n =>
        let found := placed n
        .ok { found with extras := found.extras ++ (parts.drop n).map Prod.fst }
      | none => .ok { found with extras := found.extras ++ parts.map Prod.fst }

/-- Reads the arguments of a level. -/
def scan (specs : List OptionSpec) (arity : Arity) (args : List Text) : Except Fault Found :=
  match marks specs args with
  | .error e => .error e
  | .ok parts => scanParts specs arity (2 * parts.length + 1) ⟨[], none, []⟩ parts

/-! ## Commands -/

/-- What an option of a command is set to. -/
inductive OptionValue
  /-- The option is not there. -/
  | absent
  /-- The option is there without a value. -/
  | empty
  /-- The option has a value. -/
  | text (s : Text)
  deriving DecidableEq, Repr

/-- The path that an option gives, if it has a value that is not empty. -/
def OptionValue.path? : OptionValue → Option Text
  | text (c :: rest) => some (c :: rest)
  | _ => none

/-- What the program is asked to do. -/
inductive Command
  /-- Lint a file of code. -/
  | validate (file : Text)
  /-- Write the pointy text of a document. -/
  | compile (file : Text) (output : OptionValue)
  /-- Write the document of a pointy text. -/
  | parse (file : Text) (output : OptionValue) (strict : Bool) (config : OptionValue)
  /-- Write the graph of a document. -/
  | dot (file : Text) (output : OptionValue)
  deriving DecidableEq, Repr

/-- The files that a command may read. -/
def Command.inputs : Command → List Text
  | validate file => [file]
  | compile file _ => [file]
  | parse file _ _ config => file :: config.path?.toList
  | dot file _ => [file]

/-- A command and whether notes are to be shown. -/
structure Invocation where
  /-- Whether notes are to be shown. -/
  verbose : Bool
  /-- The command. -/
  command : Command
  deriving DecidableEq, Repr

/-- A fault and the part of the program that finds it. -/
structure UsageError where
  /-- The part of the program. -/
  program : Text
  /-- The fault. -/
  fault : Fault
  deriving DecidableEq, Repr

/-- The wording of a failure. -/
def UsageError.message (e : UsageError) : Text :=
  e.program ++ ": error: ".toList ++ e.fault.message

/-- The name of the program. -/
def programName : Text := "pointy-studio".toList

/-- The names of the commands. -/
def commandNames : List Text :=
  ["validate", "compile", "parse", "dot"].map String.toList

/-- The options of a command. -/
def commandSpecs (name : Text) : List OptionSpec :=
  if name = "validate".toList then [helpSpec]
  else if name = "parse".toList then [helpSpec, outputSpec, strictSpec, configSpec]
  else [helpSpec, outputSpec]

/-- Whether an option was found. -/
def Found.has (found : Found) (flag : Flag) : Bool :=
  found.options.any fun o => o.1 = flag

/-- What an option is set to: where it was found more than once, the last time counts. -/
def Found.last (found : Found) (flag : Flag) : OptionValue :=
  match (found.options.filter fun o => o.1 = flag).getLast? with
  | none => .absent
  | some (_, none) => .empty
  | some (_, some s) => .text s

/-- The command of a name, a file and options. -/
def commandOf (name file : Text) (found : Found) : Command :=
  if name = "validate".toList then .validate file
  else if name = "compile".toList then .compile file (found.last .output)
  else if name = "parse".toList then
    .parse file (found.last .output) (found.has .strict) (found.last .config)
  else .dot file (found.last .output)

/-- Reads the arguments of a command: the command, and what is left over. -/
def readCommand (name : Text) (args : List Text) : Except UsageError (Command × List Text) :=
  let program := programName ++ ' ' :: name
  match scan (commandSpecs name) .one args with
  | .error fault => .error ⟨program, fault⟩
  | .ok found =>
    match (found.arguments.getD []).erase ['-', '-'] with
    | file :: _ => .ok (commandOf name file found, found.extras)
    | [] => .error ⟨program, .missingArgument "file".toList⟩

/-- Reads a command line. -/
def readArguments (args : List Text) : Except UsageError Invocation :=
  match scan [helpSpec, verboseSpec] .rest args with
  | .error fault => .error ⟨programName, fault⟩
  | .ok found =>
    match found.arguments with
    | some (name :: rest) =>
      if !commandNames.contains name then
        .error ⟨programName, .unknownCommand name commandNames⟩
      else
        match readCommand name rest with
        | .error e => .error e
        | .ok (command, extras) =>
          match found.extras ++ extras with
          | [] => .ok ⟨found.has .verbose, command⟩
          | parts => .error ⟨programName, .leftOver parts⟩
    | _ => .error ⟨programName, .missingArgument "command".toList⟩

end EventPipeline.CommandLine
