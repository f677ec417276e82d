import EventPipeline.Script.Statement
import EventPipeline.Script.Token

/-!
# Readers of tokens

A reader takes tokens and gives what it read with the tokens behind it. It never goes back: the
first token that nothing can go on with is where the text is no script, and `stop` tells from that
token what is wrong.

Of the operators those that stand further down in `operators` bind their operands more closely.
-/

namespace EventPipeline.Script

/-- What reads tokens. -/
abbrev Reader (α : Type) := StateT (List Token) (Except Fault) α

namespace Reader

/-! ## Single tokens -/

/-- What is wrong when nothing can go on with a token. -/
def faultAt : List Token → Fault
  | .broken fault :: _ => fault
  | .indent :: _ => .indentation
  | .dedent :: _ => .indentation
  | _ => .malformed

/-- Stops at the next token. -/
def stop {α : Type} : Reader α :=
  fun tokens => .error (faultAt tokens)

/-- Whether a token is a sign. -/
def isSign (sign : String) : Token → Bool
  | .sign s => s == sign.toList
  | _ => false

/-- Whether a token is a word with a meaning of its own. -/
def isKeyword (word : String) : Token → Bool
  | .keyword s => s == word.toList
  | _ => false

/-- Whether a token ends a line. -/
def isLineEnd : Token → Bool
  | .lineEnd => true
  | _ => false

/-- Whether the lines that follow are indented more. -/
def isIndent : Token → Bool
  | .indent => true
  | _ => false

/-- Whether the lines that follow are indented less. -/
def isDedent : Token → Bool
  | .dedent => true
  | _ => false

/-- Whether a token ends the text. -/
def isDone : Token → Bool
  | .done => true
  | _ => false

/-- Whether the next token is of a class. -/
def isAhead (p : Token → Bool) : Reader Bool :=
  fun tokens => .ok (tokens.head?.any p, tokens)

/-- Takes the next token if it is of a class. -/
def taken (p : Token → Bool) : Reader Bool := fun tokens =>
  if tokens.head?.any p then .ok (true, tokens.tail) else .ok (false, tokens)

/-- Takes the next token, which has to be of a class. -/
def need (p : Token → Bool) : Reader Unit := fun tokens =>
  if tokens.head?.any p then .ok ((), tokens.tail) else .error (faultAt tokens)

/-- Takes a name. -/
def name : Reader Text := fun tokens =>
  match tokens with
  | .name word :: rest => .ok (word, rest)
  | tokens => .error (faultAt tokens)

/-- Takes a name and the sign behind it, if both come next. -/
def nameBefore (sign : String) : Reader (Option Text) := fun tokens =>
  match tokens with
  | .name word :: token :: rest =>
    if isSign sign token then .ok (some word, rest) else .ok (none, tokens)
  | tokens => .ok (none, tokens)

/-- Whether a name comes next that is given its value on the way. -/
def isNamingAhead : Reader Bool := fun tokens =>
  match tokens with
  | .name _ :: token :: _ => .ok (isSign ":=" token, tokens)
  | tokens => .ok (false, tokens)

/-- Takes the sign or the words of one of several operators. -/
def operator? {α : Type} (operators : List (List (Token → Bool) × α)) : Reader (Option α) :=
  fun tokens =>
    match operators.find? fun o => o.1.isEmpty || tokens.head?.any (o.1.headD isDone) with
    | none => .ok (none, tokens)
    | some (words, op) =>
      if words.length ≤ 1 then .ok (some op, tokens.drop words.length)
      else if (tokens.drop 1).head?.any (words.getLastD isDone) then .ok (some op, tokens.drop 2)
      else .error (faultAt (tokens.drop 1))

/-! ## Operators -/

/-- The operators between values, from those that bind least. -/
def operators : List (List (List (Token → Bool) × Operator)) := [
  [([isSign "|"], .either)],
  [([isSign "^"], .oneOnly)],
  [([isSign "&"], .both)],
  [([isSign "<<"], .shiftLeft), ([isSign ">>"], .shiftRight)],
  [([isSign "+"], .plus), ([isSign "-"], .minus)],
  [([isSign "*"], .times), ([isSign "/"], .divided), ([isSign "//"], .dividedWhole),
    ([isSign "%"], .remainder), ([isSign "@"], .matrixTimes)]]

/-- The signs in front of values. -/
def signs : List (List (Token → Bool) × Sign) := [
  ([isSign "+"], .plus), ([isSign "-"], .minus), ([isSign "~"], .complement)]

/-- The signs of statements that change a value. -/
def updates : List (List (Token → Bool) × Operator) := [
  ([isSign "+="], .plus), ([isSign "-="], .minus), ([isSign "*="], .times),
  ([isSign "/="], .divided), ([isSign "//="], .dividedWhole), ([isSign "%="], .remainder),
  ([isSign "**="], .power), ([isSign "@="], .matrixTimes), ([isSign "<<="], .shiftLeft),
  ([isSign ">>="], .shiftRight), ([isSign "&="], .both), ([isSign "|="], .either),
  ([isSign "^="], .oneOnly)]

/-- The comparison that comes next, if one does. Two of them have two words, of which the second one
is not needed for another comparison. -/
def comparison? : Reader (Option Comparison) := do
  let signs : List (List (Token → Bool) × Comparison) := [
    ([isSign "=="], .equal), ([isSign "!="], .notEqual),
    ([isSign "<="], .ordered .lessOrEqual), ([isSign ">="], .ordered .greaterOrEqual),
    ([isSign "<"], .ordered .less), ([isSign ">"], .ordered .greater),
    ([isKeyword "in"], .among), ([isKeyword "not", isKeyword "in"], .notAmong)]
  if ← taken (isKeyword "is") then
    return some (if ← taken (isKeyword "not") then .notIdentical else .identical)
  else operator? signs

end Reader

end EventPipeline.Script
