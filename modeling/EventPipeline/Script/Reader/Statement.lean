import EventPipeline.Script.Reader.Expression

/-!
# Reading statements

A script holds statements line by line, and functions with their own statements. `read` gives the
statements of a text. What a reader needs to know of where it stands are the tokens that are left,
and `fuelFor` tells from the length of a text how many steps it can take at most.
-/

namespace EventPipeline.Script

namespace Reader

/-! ## Targets and values -/

/-- Whether a token ends a list of expressions that has no brackets. -/
def endsList (t : Token) : Bool :=
  isLineEnd t || isSign ";" t || isSign "=" t || isSign ":" t || isDone t

/-- Expressions without brackets: with a comma they are a tuple. -/
def expressions (fuel : Nat) : Reader Expression := do
  let first ← item fuel false
  if ← taken (isSign ",") then
    let (further, _) ← items fuel endsList false
    return .tuple (first :: further)
  else return first

/-! ## Statements -/

/-- A name with dots in it. -/
def fullName : (fuel : Nat) → Reader Text
  | 0 => stop
  | fuel + 1 => do
    let first ← name
    if ← taken (isSign ".") then return first ++ '.' :: (← fullName fuel) else return first

/-- The name that something is given, if it is given one. -/
def givenName : Reader (Option Text) := do
  if ← taken (isKeyword "as") then return some (← name) else return none

/-- Things with the names that they are given. -/
def named (thing : Reader Text) : (fuel : Nat) → Reader (List (Text × Option Text))
  | 0 => stop
  | fuel + 1 => do
    let first ← thing
    let given ← givenName
    if ← taken (isSign ",") then return (first, given) :: (← named thing fuel)
    else return [(first, given)]

/-- The components of a module that are given names. -/
def components (fuel : Nat) : Reader (List (Text × Option Text)) := do
  if ← taken (isSign "*") then return []
  else if ← taken (isSign "(") then
    let names ← named name fuel
    need (isSign ")")
    return names
  else named name fuel

/-- Whether an expression was read as a target. -/
def checkTarget (isTarget : Bool) : Reader Unit :=
  if isTarget then pure () else stop

/-- The rest of a chain of assignments, whose targets come last first. -/
def assignments : (fuel : Nat) → (targets : List Expression) → Reader Statement
  | 0, _ => stop
  | fuel + 1, targets => do
    let e ← expressions fuel
    if ← isAhead (isSign "=") then
      checkTarget e.isTarget
      need (isSign "=")
      assignments fuel (targets ++ [e])
    else return .assign targets e

/-- A statement that begins with an expression. -/
def expressionStatement (fuel : Nat) : Reader Statement := do
  let e ← expressions fuel
  if ← isAhead (isSign "=") then
    checkTarget e.isTarget
    need (isSign "=")
    assignments fuel [e]
  else if ← isAhead (isSign ":") then
    checkTarget e.isSingleTarget
    need (isSign ":")
    let remark ← expression fuel
    if ← taken (isSign "=") then return .annotate e remark (some (← expressions fuel))
    else return .annotate e remark none
  else if e.isSingleTarget then
    match ← operator? updates with
    | some op => return .update e op (← expressions fuel)
    | none => return .expression e
  else return .expression e

/-- A statement within a line. -/
def shortStatement (fuel : Nat) : Reader Statement := do
  if ← taken (isKeyword "pass") then return .pass
  else if ← taken (isKeyword "del") then
    let e ← expressions fuel
    checkTarget e.isRemovable
    match e with
    | .tuple targets => return .delete targets
    | target => return .delete [target]
  else if ← taken (isKeyword "import") then return .modules (← named (fullName fuel) fuel)
  else if ← taken (isKeyword "from") then
    let moduleName ← fullName fuel
    need (isKeyword "import")
    return .components moduleName (← components fuel)
  else if ← taken (isKeyword "return") then
    if ← isAhead endsList then return .giveBack none
    else return .giveBack (some (← expressions fuel))
  else expressionStatement fuel

/-- The statements of a line. -/
def line : (fuel : Nat) → Reader (List Statement)
  | 0 => stop
  | fuel + 1 => do
    let first ← shortStatement fuel
    if ← taken (isSign ";") then
      if ← taken isLineEnd then return [first] else return first :: (← line fuel)
    else
      need isLineEnd
      return [first]

/-- Stops where the lines of a function should begin and do not. What is no token further down
counts more. -/
def missingBlock {α : Type} : Reader α := fun tokens =>
  match tokens.getLast? with
  | some (.broken .malformed) => .error .malformed
  | _ => .error .indentation

mutual

/-- The statements up to a closing token. -/
def statements : (fuel : Nat) → (close : Token → Bool) → Reader (List Statement)
  | 0, _ => stop
  | fuel + 1, close => do
    if ← taken close then return []
    else
      let first ←
        if ← taken (isKeyword "def") then (fun s => [s]) <$> definition fuel else line fuel
      return first ++ (← statements fuel close)

/-- A function, from its name on. -/
def definition : (fuel : Nat) → Reader Statement
  | 0 => stop
  | fuel + 1 => do
    let called ← name
    need (isSign "(")
    let options ← orderedOptions fuel (isSign ")") true
    need (isSign ")")
    if ← taken (isSign "->") then let _ ← expressions fuel
    need (isSign ":")
    if ← taken isLineEnd then
      if ← taken isIndent then
        return .function called options (← statements fuel isDedent)
      else missingBlock
    else return .function called options (← line fuel)

end

/-- How many steps a reader needs for a text of a length: it takes fewer than `stepsPerToken`
without taking a token, and there are at most two tokens for a character. -/
def fuelFor (length : Nat) : Nat :=
  stepsPerToken * (2 * length + 4)
where
  /-- The number of steps for one token. -/
  stepsPerToken : Nat := 24

end Reader

/-- What a text says, if it is a script. Where the text could not be decoded, a null character
stands in it. -/
def readDecoded (s : Text) : Except Fault (List Statement) :=
  match Reader.statements (Reader.fuelFor s.length) Reader.isDone (Token.ofText s) with
  | .error fault => .error fault
  | .ok (statements, _) =>
    if Statement.isSound.areSound false statements then .ok statements else .error .malformed

/-- What a text says, if it is a script; there are no null characters in scripts. -/
def read (s : Text) : Except Fault (List Statement) :=
  if s.contains '\x00' then .error .nullCharacter else readDecoded s

end EventPipeline.Script
