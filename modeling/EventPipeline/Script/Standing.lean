import EventPipeline.Component.Standard
import EventPipeline.Script.Value

/-!
# Names that every script has

A name that a script gave no value may still stand for something: a type, a function, or one of a
few other values.
-/

namespace EventPipeline.Script

open Component (namesOfLines)

/-- The types that every script has. -/
def standingTypes : List Text := namesOfLines [
  "ArithmeticError AssertionError AttributeError BaseException BaseExceptionGroup BlockingIOError",
  "BrokenPipeError BufferError BytesWarning ChildProcessError ConnectionAbortedError",
  "ConnectionError ConnectionRefusedError ConnectionResetError DeprecationWarning EOFError",
  "EncodingWarning Exception ExceptionGroup FileExistsError FileNotFoundError",
  "FloatingPointError FutureWarning GeneratorExit ImportError ImportWarning",
  "IndentationError IndexError InterruptedError IsADirectoryError KeyError KeyboardInterrupt",
  "LookupError MemoryError ModuleNotFoundError NameError NotADirectoryError NotImplementedError",
  "OSError OverflowError PendingDeprecationWarning PermissionError ProcessLookupError",
  "RecursionError ReferenceError ResourceWarning RuntimeError RuntimeWarning StopAsyncIteration",
  "StopIteration SyntaxError SyntaxWarning SystemError SystemExit TabError TimeoutError TypeError",
  "UnboundLocalError UnicodeDecodeError UnicodeEncodeError UnicodeError UnicodeTranslateError",
  "UnicodeWarning UserWarning ValueError Warning ZeroDivisionError bool bytearray bytes",
  "classmethod complex dict enumerate filter float frozenset int list map memoryview object",
  "property range reversed set slice staticmethod str super tuple type zip"]

/-- The types that every script has under another name. -/
def typeAliases : Dictionary Text Text := [
  ("EnvironmentError".toList, "OSError".toList), ("IOError".toList, "OSError".toList)]

/-- The functions that every script has. -/
def standingFunctions : List Text := namesOfLines [
  "abs aiter all anext any ascii bin breakpoint callable chr compile copyright credits delattr dir",
  "divmod eval exec exit format getattr globals hasattr hash help hex id input isinstance",
  "issubclass iter len license locals max min next oct open ord pow print quit repr round setattr",
  "sorted sum vars __build_class__ __import__"]

/-- The further values that every script has. -/
def standingValues : List Text := namesOfLines [
  "__builtins__ __cached__ __file__ __loader__ __spec__"]

/-- The name of a script to itself. -/
def ownName : Text := "settings".toList

/-- What a name stands for in every script. -/
def standing? (name : Text) : Option Value :=
  if standingTypes.contains name then some (.type name)
  else if standingFunctions.contains name then some (.standing name)
  else
    match typeAliases.get? name with
    | some name => some (.type name)
    | none =>
      if standingValues.contains name then some .other
      else if name = "__name__".toList then some (.text ownName)
      else if name = "__doc__".toList then some .null
      else if name = "__package__".toList then some (.text [])
      else if name = "__debug__".toList then some (.bool true)
      else if name = "Ellipsis".toList then some .ellipsis
      else if name = "NotImplemented".toList then
        some (.constant "NotImplementedType".toList name)
      else none

end EventPipeline.Script
