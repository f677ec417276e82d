import EventPipeline.Script.Expression

/-!
# Statements of scripts

What scripts do: most statements give values to names. `Statement.isSound` tells whether a statement
can stand as it is although each of its parts has its place.
-/

namespace EventPipeline.Script

/-! ## Options of functions -/

/-- An option of a function, or a mark between options. -/
inductive FunctionOption
  /-- An option by place or name, with what stands for it when it is not given. -/
  | plain (name : Text) (standing : Option Expression)
  /-- The options in front of it are given by place only. -/
  | placeMark
  /-- The options behind it are given by name only. -/
  | nameMark
  /-- What takes further values, with the options behind it given by name only. -/
  | furtherValues (name : Text)
  /-- What takes further options. -/
  | furtherOptions (name : Text)
  deriving Repr

namespace FunctionOption

/-- The name of an option. -/
def name? : FunctionOption → Option Text
  | plain name _ => some name
  | furtherValues name => some name
  | furtherOptions name => some name
  | _ => none

/-- What stands for an option that is not given. -/
def standing? : FunctionOption → Option Expression
  | plain _ standing => standing
  | _ => none

/-- Whether options stand in an order that is possible. The options so far are `marked` if the mark
for places or more is behind them, `named` if further ones are given by name only, and `optional` if
something stands for the last one. -/
def areOrdered : (marked named optional : Bool) → List FunctionOption → Bool
  | _, _, _, [] => true
  | marked, named, optional, plain _ standing :: rest =>
    (named || standing.isSome || !optional) &&
      areOrdered marked named (optional || standing.isSome) rest
  | marked, named, optional, placeMark :: rest =>
    !marked && !named && areOrdered true named optional rest
  | marked, named, optional, nameMark :: rest =>
    !named && (match rest with
      | plain _ _ :: _ => true
      | _ => false) && areOrdered marked true optional rest
  | marked, named, optional, furtherValues _ :: rest =>
    !named && areOrdered marked true optional rest
  | _, _, _, furtherOptions _ :: rest => rest.isEmpty

/-- Whether options can stand next to each other. -/
def haveOrder (options : List FunctionOption) : Bool :=
  (match options with
    | placeMark :: _ => false
    | _ => true) && areOrdered false false false options

/-- Whether options have different names, none of them that of a constant, and what stands for them
can stand as it is. -/
def areSound (options : List FunctionOption) : Bool :=
  let names := options.filterMap name?
  decide names.Nodup && !names.contains constantName &&
    Expression.areSound {} (options.filterMap standing?)

end FunctionOption

/-- A statement. -/
inductive Statement
  /-- An expression. -/
  | expression (value : Expression)
  /-- Targets that are given a value. -/
  | assign (targets : List Expression) (value : Expression)
  /-- A target with a remark on what it is for; it may be given a value. -/
  | annotate (target remark : Expression) (value : Option Expression)
  /-- A target that is given what an operator makes of its value and another one. -/
  | update (target : Expression) (op : Operator) (value : Expression)
  /-- Targets that are taken away. -/
  | delete (targets : List Expression)
  /-- Modules, by their full names, with the names that they are given. -/
  | modules (modules : List (Text × Option Text))
  /-- Components of a module, with the names that they are given. -/
  | components (moduleName : Text) (names : List (Text × Option Text))
  /-- A function, with its options and its body. -/
  | function (name : Text) (options : List FunctionOption) (body : List Statement)
  /-- What a function gives back. -/
  | giveBack (value : Option Expression)
  /-- Nothing. -/
  | pass
  deriving Repr

/-! ## Faults -/

namespace Statement

/-- Whether an expression can stand on its own. -/
def isSoundValue (value : Expression) : Bool :=
  !value.isSpread && value.isSound {}

/-- Whether a target can be given a value on its own. -/
def isFreeTarget (target : Expression) : Bool :=
  !target.isSpread && target.isFree && target.isSound {}

/-- Whether a name can be given to something. -/
def isFreeName (given : Text × Option Text) (full : Bool) : Bool :=
  let name := given.2.getD (if full then given.1.takeWhile (· ≠ '.') else given.1)
  name ≠ constantName

/-- Whether a statement is sound: what it gives values to can be given one, and it gives something
back only inside of a function. -/
def isSound : (inFunction : Bool) → Statement → Bool
  | _, expression value => isSoundValue value
  | _, assign targets value => isSoundValue value && targets.all isFreeTarget
  | _, annotate target remark value =>
    isFreeTarget target && isSoundValue remark && value.all isSoundValue
  | _, update target _ value => isFreeTarget target && isSoundValue value
  | _, delete targets => targets.all isFreeTarget
  | _, modules named => named.all fun m => isFreeName m true
  | _, components _ names => names.all fun n => isFreeName n false
  | _, function name options body =>
    name ≠ constantName && FunctionOption.areSound options && areSound true body
  | inFunction, giveBack value => inFunction && value.all isSoundValue
  | _, pass => true
where
  /-- Whether all of some statements are sound. -/
  areSound : (inFunction : Bool) → List Statement → Bool
    | _, [] => true
    | inFunction, s :: rest => isSound inFunction s && areSound inFunction rest

end Statement

end EventPipeline.Script
