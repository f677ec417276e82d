import EventPipeline.Component
import EventPipeline.Lack
import EventPipeline.Script.ValueFault

/-!
# What goes wrong with scripts

A text may be no script, and a script may fail while it runs. Some failures are of values that have
the right kind and are still not possible (`ValueFault`).
-/

namespace EventPipeline.Script

/-- Why a text is no script. -/
inductive Fault
  /-- It holds a null character. -/
  | nullCharacter
  /-- Its words and signs do not make up statements. -/
  | malformed
  /-- A line is indented where it should not be, or not where it should be. -/
  | indentation
  /-- Whether a line is indented more than another one depends on the width of a tab. -/
  | tabs
  /-- It says that its bytes are in an encoding that stands for no text. -/
  | noEncoding
  deriving DecidableEq, Repr

/-- The wording of a fault; those that need none have an empty one. -/
def Fault.message : Fault → Text
  | nullCharacter => "source code string cannot contain null bytes".toList
  | _ => []

/-- Why a script fails. -/
inductive RunError
  /-- A name was given no value. -/
  | unbound
  /-- A name of a loop was given no value yet. -/
  | unboundInLoop
  /-- A value is of a kind that cannot be used in such a way. -/
  | mismatch
  /-- A value has the right kind and is still not possible. -/
  | value (fault : ValueFault)
  /-- A number is divided by zero. -/
  | zeroDivisor
  /-- A number is beyond all numbers of its kind. -/
  | overflow
  /-- A value would be too large to be kept. -/
  | oversized
  /-- A value lacks a feature. -/
  | lack (lack : Lack)
  /-- A feature of a value stays as it is. -/
  | fixed (kind feature : Text)
  /-- A feature of a value that is a number stays as it is. -/
  | fixedNumber (kind feature : Text)
  /-- A part of a value stays as it is. -/
  | readOnly
  /-- A list has no item at a place. -/
  | noItem
  /-- An object has no value of a key. -/
  | noKey
  /-- A stream has no more items. -/
  | ended
  /-- There is no encoding of a name. -/
  | noEncoding
  /-- A text has characters that an encoding lacks. -/
  | unwritable
  /-- Bytes are no text in an encoding. -/
  | undecodable (message : Text)
  /-- There is no such module. -/
  | noModule (error : Component.FindError)
  deriving DecidableEq, Repr

/-- The wording of a failure; those that need none have an empty one. -/
def RunError.message : RunError → Text
  | value f => f.message
  | lack l => l.message
  | fixed kind feature =>
    '\'' :: (kind ++ "' object attribute '".toList ++ feature ++ "' is read-only".toList)
  | fixedNumber kind feature =>
    "attribute '".toList ++ feature ++ "' of '".toList ++ kind ++ "' objects is not writable".toList
  | readOnly => "readonly attribute".toList
  | undecodable words => words
  | noModule e => e.message
  | _ => []

end EventPipeline.Script
