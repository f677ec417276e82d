import EventPipeline.Script.Operator
import EventPipeline.Script.Shown

/-!
# Expressions of scripts

What scripts say about values. Some expressions are targets, which can be given a value: names,
features and items of values, and lists of targets, of which one may take what is left over.

`Expression.isSound` tells whether an expression can stand as it is although each of its parts has
its place: no name is given twice to options of one function, and none that belongs to a loop is
given another value within it.
-/

namespace EventPipeline.Script

/-- What the values of a loop are gathered into. -/
inductive Gathering
  /-- A list. -/
  | list
  /-- A set. -/
  | set
  /-- Values by key. -/
  | mapping
  /-- A stream, which gives one value after the other. -/
  | stream
  deriving DecidableEq, Repr

/-- An expression. -/
inductive Expression
  /-- A literal. -/
  | literal (value : Value)
  /-- A name. -/
  | name (name : Text)
  /-- A list. -/
  | list (items : List Expression)
  /-- A tuple. -/
  | tuple (items : List Expression)
  /-- A set. -/
  | set (items : List Expression)
  /-- Values by key; a value without a key stands for all that it has by key. -/
  | mapping (entries : List (Option Expression × Expression))
  /-- The items of a value, in the middle of others. -/
  | spread (items : Expression)
  /-- An operator and its operand. -/
  | signed (op : Sign) (operand : Expression)
  /-- An operator between its operands. -/
  | binary (op : Operator) (left right : Expression)
  /-- A chain of comparisons. -/
  | compared (first : Expression) (further : List (Comparison × Expression))
  /-- The first of two values that counts as no, or the second. -/
  | both (left right : Expression)
  /-- The first of two values that counts as yes, or the second. -/
  | either (left right : Expression)
  /-- One of two values, by a condition. -/
  | choice (condition yes no : Expression)
  /-- A function, with the names of its options and what stands for those that are not given. -/
  | function (names : List Text) (standing : List Expression) (body : Expression)
  /-- A feature of a value. -/
  | feature (owner : Expression) (name : Text)
  /-- An item of a value. -/
  | item (owner index : Expression)
  /-- A slice. -/
  | slice (first last step : Expression)
  /-- What a function gives, with what it is given by place and by name; a value without a name
  stands for all that it has by name. -/
  | call (callee : Expression) (values : List Expression)
      (options : List (Option Text × Expression))
  /-- A value that a name is given on the way. -/
  | named (name : Text) (value : Expression)
  /-- The values of loops: the parts of each value, and the loops from the outermost on, each with
  its target, its source and its conditions. -/
  | gathered (kind : Gathering) (parts : List Expression)
      (loops : List (Expression × Expression × List Expression))
  /-- A text that is made of other texts. -/
  | joined (parts : List Expression)
  /-- The text of a value by a pattern. -/
  | field (value : Expression) (conversion : Option Conversion) (pattern : Expression)
  deriving Repr

/-- The name that nothing can be given to. -/
def constantName : Text := "__debug__".toList

namespace Expression

/-! ## Targets -/

/-- Whether an expression is a target for a single value. -/
def isSingleTarget : Expression → Bool
  | name _ => true
  | feature _ _ => true
  | item _ _ => true
  | _ => false

/-- The expressions that a target consists of. -/
def parts : Expression → List Expression
  | feature owner _ => [owner]
  | item owner index => [owner, index]
  | _ => []

mutual

/-- Whether an expression is a target. -/
def isTarget : Expression → Bool
  | list items => areTargets items
  | tuple items => areTargets items
  | spread target => isTarget target
  | e => isSingleTarget e

/-- Whether all of some expressions are targets. -/
def areTargets : List Expression → Bool
  | [] => true
  | e :: rest => isTarget e && areTargets rest

end

mutual

/-- Whether an expression is a target that can be taken away. -/
def isRemovable : Expression → Bool
  | list items => areRemovable items
  | tuple items => areRemovable items
  | e => isSingleTarget e

/-- Whether all of some expressions are targets that can be taken away. -/
def areRemovable : List Expression → Bool
  | [] => true
  | e :: rest => isRemovable e && areRemovable rest

end

/-- Whether an expression stands for the items of another one. -/
def isSpread : Expression → Bool
  | spread _ => true
  | _ => false

mutual

/-- Whether a target can be given a value: it is for no constant, and of several targets at most one
takes what is left over. -/
def isFree : Expression → Bool
  | name n => n ≠ constantName
  | feature _ n => n ≠ constantName
  | list items => items.countP isSpread ≤ 1 && areFree items
  | tuple items => items.countP isSpread ≤ 1 && areFree items
  | spread target => isFree target
  | _ => true

/-- Whether all of some targets can be given a value. -/
def areFree : List Expression → Bool
  | [] => true
  | e :: rest => isFree e && areFree rest

end

mutual

/-- The names that a target gives values to. -/
def names : Expression → List Text
  | name n => [n]
  | list items => namesOf items
  | tuple items => namesOf items
  | spread target => names target
  | _ => []

/-- The names that targets give values to. -/
def namesOf : List Expression → List Text
  | [] => []
  | e :: rest => names e ++ namesOf rest

end

/-! ## Soundness -/

/-- Where an expression stands, as far as it matters for the names that are given on the way. -/
structure Surroundings where
  /-- The names that belong to a loop around. -/
  taken : List Text := []
  /-- Whether names can be given at all. -/
  isOpen : Bool := true

/-- Whether what functions are given by name has different names. -/
def areDistinct (options : List (Option Text × Expression)) : Bool :=
  let names := options.filterMap Prod.fst
  decide names.Nodup && !names.contains constantName

mutual

/-- Whether an expression can stand as it is. -/
def isSound (around : Surroundings) : Expression → Bool
  | literal _ => true
  | name _ => true
  | list items => areSound around items
  | tuple items => areSound around items
  | set items => areSound around items
  | mapping entries => areSoundEntries around entries
  | spread items => isSound around items
  | signed _ operand => isSound around operand
  | binary _ left right => isSound around left && isSound around right
  | compared first further => isSound around first && areSoundOperands around further
  | both left right => isSound around left && isSound around right
  | either left right => isSound around left && isSound around right
  | choice condition yes no =>
    isSound around condition && (isSound around yes && isSound around no)
  | function names standing body =>
    (decide names.Nodup && !names.contains constantName) &&
      (areSound around standing && isSound { isOpen := around.isOpen } body)
  | feature owner _ => isSound around owner
  | item owner index => isSound around owner && isSound around index
  | slice first last step => isSound around first && (isSound around last && isSound around step)
  | call callee values options =>
    areDistinct options &&
      (isSound around callee && (areSound around values && areSoundOptions around options))
  | named word value =>
    (around.isOpen && word ≠ constantName && !around.taken.contains word) && isSound around value
  | gathered _ parts loops =>
    let within := { around with taken := around.taken ++ namesOf (loops.map Prod.fst) }
    areSoundLoops within loops && areSound within parts
  | joined parts => areSound around parts
  | field value _ pattern => isSound around value && isSound around pattern

/-- Whether all of some expressions can stand as they are. -/
def areSound (around : Surroundings) : List Expression → Bool
  | [] => true
  | e :: rest => isSound around e && areSound around rest

/-- Whether all of some entries can stand as they are. -/
def areSoundEntries (around : Surroundings) : List (Option Expression × Expression) → Bool
  | [] => true
  | (none, e) :: rest => isSound around e && areSoundEntries around rest
  | (some key, e) :: rest =>
    isSound around key && (isSound around e && areSoundEntries around rest)

/-- Whether all operands of comparisons can stand as they are. -/
def areSoundOperands (around : Surroundings) : List (Comparison × Expression) → Bool
  | [] => true
  | (_, e) :: rest => isSound around e && areSoundOperands around rest

/-- Whether everything that is given by name can stand as it is. -/
def areSoundOptions (around : Surroundings) : List (Option Text × Expression) → Bool
  | [] => true
  | (_, e) :: rest => isSound around e && areSoundOptions around rest

/-- Whether all of some loops can stand as they are. No name is given in their sources. -/
def areSoundLoops (around : Surroundings) :
    List (Expression × Expression × List Expression) → Bool
  | [] => true
  | (target, source, conditions) :: rest =>
    (!isSpread target && isFree target) && (isSound around target &&
      (isSound { around with isOpen := false } source &&
        (areSound around conditions && areSoundLoops around rest)))

end

end Expression

end EventPipeline.Script
