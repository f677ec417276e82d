import EventPipeline.CommandLine.Arguments
import EventPipeline.Proofs.Result

/-!
# Command lines that convert

A name that does not begin with a hyphen, or is only one, is an argument wherever it stands
(`markOf_of_isOperand`). So a command that converts a file, in front of the name of the file and an
option for the result, is read as just that (`readArguments_parseLine`,
`readArguments_compileLine`).
-/

namespace EventPipeline.CommandLine

/-- Whether an argument is taken for no option: behind a hyphen there is nothing. -/
def IsOperand (arg : Text) : Prop :=
  ∀ rest, arg = '-' :: rest → rest = []

/-- The command line that converts pointy text to interchange text. -/
def parseLine (file output : Text) (strict : Bool) : List Text :=
  "parse".toList :: file :: "-o".toList :: output ::
    if strict then ["--strict".toList] else []

/-- The command line that converts interchange text to pointy text. -/
def compileLine (file output : Text) : List Text :=
  ["compile".toList, file, "-o".toList, output]

section Operand

variable {arg : Text} (h : IsOperand arg)

include h

/-- An operand is not the separator. -/
lemma IsOperand.ne_separator : arg ≠ ['-', '-'] :=
  fun heq => absurd (h _ heq) (by decide)

/-- An operand is taken for an argument. -/
lemma markOf_of_isOperand (specs : List OptionSpec) : markOf specs arg = .ok .argument := by
  unfold markOf
  split
  · exact absurd (h _ rfl) (List.cons_ne_nil _ _)
  · rfl

/-- An operand in front is taken for an argument. -/
lemma marks_cons_of_isOperand (specs : List OptionSpec) (rest : List Text) :
    marks specs (arg :: rest) =
      (marks specs rest).map fun ms => (arg, Mark.argument) :: ms := by
  rw [marks, if_neg h.ne_separator, markOf_of_isOperand h]

end Operand

/-- A word in front that is taken for something, is taken for that. -/
lemma marks_cons_of_markOf {specs : List OptionSpec} {arg : Text} (mark : Mark)
    (harg : arg ≠ ['-', '-']) (h : markOf specs arg = .ok mark) (rest : List Text) :
    marks specs (arg :: rest) = (marks specs rest).map fun ms => (arg, mark) :: ms := by
  rw [marks, if_neg harg, h]

/-- A command line of which nothing is left over is read as its command. -/
lemma readArguments_of_readCommand {name : Text} {rest : List Text} {command : Command}
    (hprogram : scan [helpSpec, verboseSpec] .rest (name :: rest) =
      .ok ⟨[], some (name :: rest), []⟩)
    (hname : commandNames.contains name = true)
    (hcommand : readCommand name rest = .ok (command, [])) :
    readArguments (name :: rest) = .ok ⟨false, command⟩ := by
  rw [readArguments, hprogram]
  dsimp only
  rw [hname, hcommand]
  rfl

/-- A command of which one operand is found is that with the options that are found. -/
lemma readCommand_of_scan {name file : Text} {args : List Text}
    {options : List (Flag × Option Text)} (hfile : IsOperand file)
    (hscan : scan (commandSpecs name) .one args = .ok ⟨options, some [file], []⟩) :
    readCommand name args = .ok (commandOf name file ⟨options, some [file], []⟩, []) := by
  have herase : [file].erase ['-', '-'] = [file] :=
    List.erase_of_not_mem (by simpa using Ne.symm hfile.ne_separator)
  rw [readCommand, hscan]
  dsimp only [Option.getD_some]
  rw [herase]

section Lines

variable {file output : Text} (hfile : IsOperand file) (houtput : IsOperand output)

include hfile houtput

/-- The command line that converts pointy text is read as that. -/
lemma readArguments_parseLine (strict : Bool) :
    readArguments (parseLine file output strict) =
      .ok ⟨false, .parse file (.text output) strict .absent⟩ := by
  refine readArguments_of_readCommand ?_ (by decide) ?_
  · rw [scan, marks_cons_of_markOf .argument (by decide) (by decide),
      marks_cons_of_isOperand hfile,
      marks_cons_of_markOf .unknown (by decide) (by decide),
      marks_cons_of_isOperand houtput]
    cases strict <;> rfl
  · have hscan : scan (commandSpecs "parse".toList) .one
        (file :: "-o".toList :: output :: if strict then ["--strict".toList] else []) =
          .ok ⟨(.output, some output) :: if strict then [(.strict, none)] else [],
            some [file], []⟩ := by
      rw [scan, marks_cons_of_isOperand hfile,
        marks_cons_of_markOf (.option outputSpec "-o".toList none) (by decide) (by decide),
        marks_cons_of_isOperand houtput]
      cases strict <;> rfl
    rw [readCommand_of_scan hfile hscan]
    cases strict <;> rfl

/-- The command line that converts interchange text is read as that. -/
lemma readArguments_compileLine :
    readArguments (compileLine file output) = .ok ⟨false, .compile file (.text output)⟩ := by
  refine readArguments_of_readCommand ?_ (by decide) ?_
  · rw [scan, marks_cons_of_markOf .argument (by decide) (by decide),
      marks_cons_of_isOperand hfile,
      marks_cons_of_markOf .unknown (by decide) (by decide),
      marks_cons_of_isOperand houtput]
    rfl
  · have hscan : scan (commandSpecs "compile".toList) .one [file, "-o".toList, output] =
        .ok ⟨[(.output, some output)], some [file], []⟩ := by
      rw [scan, marks_cons_of_isOperand hfile,
        marks_cons_of_markOf (.option outputSpec "-o".toList none) (by decide) (by decide),
        marks_cons_of_isOperand houtput]
      rfl
    rw [readCommand_of_scan hfile hscan]
    rfl

end Lines

end EventPipeline.CommandLine
