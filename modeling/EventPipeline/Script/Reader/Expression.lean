import EventPipeline.Script.Fields
import EventPipeline.Script.Reader.Basic

/-!
# Reading expressions

Every step of a reader either takes a token or goes on to operators that bind more closely, so that
it suffices to bound the number of steps by that of the tokens (`EventPipeline.Script.read`). The
sources of the fields of a text are read like expressions in brackets.
-/

namespace EventPipeline.Script.Reader

/-! ## Expressions of a few tokens -/

/-- An expression that is one token. -/
def simple : Reader Expression := fun tokens =>
  match tokens with
  | .name word :: rest => .ok (.name word, rest)
  | .number v :: rest => .ok (.literal v, rest)
  | .sign ['.', '.', '.'] :: rest => .ok (.literal Value.ellipsis, rest)
  | .keyword word :: rest =>
    if word = "None".toList then .ok (.literal .null, rest)
    else if word = "True".toList then .ok (.literal (.bool true), rest)
    else if word = "False".toList then .ok (.literal (.bool false), rest)
    else .error .malformed
  | tokens => .error (faultAt tokens)

/-- The quoted texts that tokens begin with, and the tokens behind them. -/
def quotedTexts : List Token → List (Literal.Manner × Text) × List Token
  | .quoted manner body :: rest =>
    let (texts, rest) := quotedTexts rest
    ((manner, body) :: texts, rest)
  | rest => ([], rest)

/-- The pieces of a quoted text that holds no bytes. -/
def piecesOf? (quoted : Literal.Manner × Text) : Option (List Piece) :=
  if quoted.1.filled then Piece.ofText? quoted.1.raw quoted.2
  else (Literal.decoded? quoted.1 quoted.2).map fun s => [.text s]

/-- The text of a piece, if it is no field. -/
def plainText? : Piece → Option Text
  | .text s => some s
  | .field _ _ _ => none

/-- What expressions in brackets are: without a comma they are the one between them. -/
def inBrackets (items : List Expression) (hasComma : Bool) : Reader Expression :=
  match items, hasComma with
  | [e], false => if e.isSpread then stop else pure e
  | items, _ => pure (.tuple items)

/-- Whether a token can stand behind an end of a slice. -/
def endsRangePart (t : Token) : Bool :=
  isSign ":" t || isSign "]" t || isSign "," t

/-- The way in which what a function is given was written so far. -/
inductive Giving
  /-- By place. -/
  | byPlace
  /-- By name. -/
  | byName
  /-- All that a value has by name. -/
  | allByName
  deriving DecidableEq

/-- What a function is given by place and by name. -/
abbrev Given := List Expression × List (Option Text × Expression)

/-! ## Expressions -/

mutual

/-- An expression without commas. -/
def expression : (fuel : Nat) → Reader Expression
  | 0 => stop
  | fuel + 1 => do
    if ← taken (isKeyword "lambda") then
      let options ← orderedOptions fuel (isSign ":") false
      need (isSign ":")
      let body ← expression fuel
      return .function (options.filterMap FunctionOption.name?)
        (options.filterMap FunctionOption.standing?) body
    else
      let e ← disjunction fuel
      if ← taken (isKeyword "if") then
        let condition ← disjunction fuel
        need (isKeyword "else")
        return .choice condition e (← expression fuel)
      else return e

/-- An expression without commas, which may give a name its value. -/
def namedExpression : (fuel : Nat) → Reader Expression
  | 0 => stop
  | fuel + 1 => do
    match ← nameBefore ":=" with
    | some word => return .named word (← expression fuel)
    | none => expression fuel

/-- The options of a function up to a closing token; `remarks` says whether there may be remarks on
what they are for. -/
def options : (fuel : Nat) → (close : Token → Bool) → (remarks : Bool) →
    Reader (List FunctionOption)
  | 0, _, _ => stop
  | fuel + 1, close, remarks => do
    if ← isAhead close then return []
    else
      let first ← option fuel remarks
      if ← taken (isSign ",") then return first :: (← options fuel close remarks)
      else if ← isAhead close then return [first]
      else stop

/-- An option of a function, or a mark between options. -/
def option : (fuel : Nat) → (remarks : Bool) → Reader FunctionOption
  | 0, _ => stop
  | fuel + 1, remarks => do
    if ← taken (isSign "/") then return .placeMark
    else if ← taken (isSign "*") then
      if ← isAhead (isSign ",") then return .nameMark
      else
        let word ← name
        remark fuel remarks
        return .furtherValues word
    else if ← taken (isSign "**") then
      let word ← name
      remark fuel remarks
      return .furtherOptions word
    else
      let word ← name
      remark fuel remarks
      if ← taken (isSign "=") then return .plain word (some (← expression fuel))
      else return .plain word none

/-- A remark on what an option is for. -/
def remark : (fuel : Nat) → (remarks : Bool) → Reader Unit
  | 0, _ => stop
  | fuel + 1, remarks => do
    if remarks then
      if ← taken (isSign ":") then let _ ← expression fuel

/-- The options of a function up to a closing token, which have to stand in order. -/
def orderedOptions : (fuel : Nat) → (close : Token → Bool) → (remarks : Bool) →
    Reader (List FunctionOption)
  | 0, _, _ => stop
  | fuel + 1, close, remarks => do
    let found ← options fuel close remarks
    if FunctionOption.haveOrder found then return found else stop

/-- Values of which the first that counts as yes is taken. -/
def disjunction : (fuel : Nat) → Reader Expression
  | 0 => stop
  | fuel + 1 => do
    let e ← conjunction fuel
    if ← taken (isKeyword "or") then return .either e (← disjunction fuel) else return e

/-- Values of which the first that counts as no is taken. -/
def conjunction : (fuel : Nat) → Reader Expression
  | 0 => stop
  | fuel + 1 => do
    let e ← inversion fuel
    if ← taken (isKeyword "and") then return .both e (← conjunction fuel) else return e

/-- A comparison or its opposite. -/
def inversion : (fuel : Nat) → Reader Expression
  | 0 => stop
  | fuel + 1 => do
    if ← taken (isKeyword "not") then return .signed .opposite (← inversion fuel)
    else
      let first ← operation fuel operators
      match ← comparisons fuel with
      | [] => return first
      | further => return .compared first further

/-- The comparisons behind a value. -/
def comparisons : (fuel : Nat) → Reader (List (Comparison × Expression))
  | 0 => stop
  | fuel + 1 => do
    match ← comparison? with
    | none => return []
    | some c =>
      let e ← operation fuel operators
      return (c, e) :: (← comparisons fuel)

/-- Values with operators between them. -/
def operation : (fuel : Nat) → List (List (List (Token → Bool) × Operator)) → Reader Expression
  | 0, _ => stop
  | fuel + 1, [] => signed fuel
  | fuel + 1, loosest :: closer => do
    let e ← operation fuel closer
    operationRest fuel loosest closer e

/-- The operators that bind equally closely behind a value, with their second operands. -/
def operationRest : (fuel : Nat) → List (List (Token → Bool) × Operator) →
    List (List (List (Token → Bool) × Operator)) → Expression → Reader Expression
  | 0, _, _, _ => stop
  | fuel + 1, loosest, closer, e => do
    match ← operator? loosest with
    | none => return e
    | some op => operationRest fuel loosest closer (.binary op e (← operation fuel closer))

/-- A power, with signs in front of it. -/
def signed : (fuel : Nat) → Reader Expression
  | 0 => stop
  | fuel + 1 => do
    match ← operator? signs with
    | some sign => return .signed sign (← signed fuel)
    | none =>
      let e ← primary fuel
      if ← taken (isSign "**") then return .binary .power e (← signed fuel) else return e

/-- An atom with the features, items and calls behind it. -/
def primary : (fuel : Nat) → Reader Expression
  | 0 => stop
  | fuel + 1 => do suffixes fuel (← atom fuel)

/-- Features, items and calls of an expression. -/
def suffixes : (fuel : Nat) → Expression → Reader Expression
  | 0, _ => stop
  | fuel + 1, e => do
    if ← taken (isSign ".") then suffixes fuel (.feature e (← name))
    else if ← taken (isSign "[") then
      let first ← place fuel
      if ← taken (isSign ",") then
        let further ← places fuel
        suffixes fuel (.item e (.tuple (first :: further)))
      else
        need (isSign "]")
        suffixes fuel (.item e (if first.isSpread then .tuple [first] else first))
    else if ← taken (isSign "(") then
      let (values, named) ← arguments fuel .byPlace true
      suffixes fuel (.call e values named)
    else return e

/-- Where an item is: an expression, the ends of a slice, or all that a value holds. -/
def place : (fuel : Nat) → Reader Expression
  | 0 => stop
  | fuel + 1 => do
    if ← taken (isSign "*") then return .spread (← expression fuel)
    else if ← taken (isSign ":") then slice fuel (.literal .null)
    else
      let isNaming ← isNamingAhead
      let first ← namedExpression fuel
      if isNaming then return first
      else if ← taken (isSign ":") then slice fuel first
      else return first

/-- A slice behind its first colon. -/
def slice : (fuel : Nat) → (first : Expression) → Reader Expression
  | 0, _ => stop
  | fuel + 1, first => do
    let last ← rangePart fuel
    let step ← if ← taken (isSign ":") then rangePart fuel else pure (.literal .null)
    return .slice first last step

/-- A part of a slice, which may be left out. -/
def rangePart : (fuel : Nat) → Reader Expression
  | 0 => stop
  | fuel + 1 => do
    if ← isAhead endsRangePart then return .literal .null else expression fuel

/-- Further places of items up to the closing bracket. -/
def places : (fuel : Nat) → Reader (List Expression)
  | 0 => stop
  | fuel + 1 => do
    if ← taken (isSign "]") then return []
    else
      let e ← place fuel
      if ← taken (isSign ",") then return e :: (← places fuel)
      else
        need (isSign "]")
        return [e]

/-- What a function is given, up to the closing bracket; `giving` is the way in which the values so
far were given. -/
def arguments : (fuel : Nat) → (giving : Giving) → (isFirst : Bool) → Reader Given
  | 0, _, _ => stop
  | fuel + 1, giving, isFirst => do
    if ← taken (isSign ")") then return ([], [])
    else if ← taken (isSign "**") then
      let e ← expression fuel
      let (values, named) ← argumentsRest fuel .allByName
      return (values, (none, e) :: named)
    else
      match ← nameBefore "=" with
      | some word =>
        let e ← expression fuel
        let (values, named) ←
          argumentsRest fuel (if giving = .allByName then giving else .byName)
        return (values, (some word, e) :: named)
      | none =>
        if ← isAhead (isSign "*") then
          if giving = .allByName then stop
          need (isSign "*")
          let e ← expression fuel
          let (values, named) ← argumentsRest fuel giving
          return (.spread e :: values, named)
        else
          if giving ≠ .byPlace then stop
          let e ← namedExpression fuel
          if isFirst then
            match ← loops fuel with
            | [] => pure ()
            | found =>
              need (isSign ")")
              return ([.gathered .stream [e] found], [])
          let (values, named) ← argumentsRest fuel giving
          return (e :: values, named)

/-- What a function is given further, behind a comma. -/
def argumentsRest : (fuel : Nat) → (giving : Giving) → Reader Given
  | 0, _ => stop
  | fuel + 1, giving => do
    if ← taken (isSign ",") then arguments fuel giving false
    else
      need (isSign ")")
      return ([], [])

/-- The loops behind what they gather. -/
def loops : (fuel : Nat) → Reader (List (Expression × Expression × List Expression))
  | 0 => stop
  | fuel + 1 => do
    if ← taken (isKeyword "for") then
      let target ← loopTarget fuel
      need (isKeyword "in")
      let source ← disjunction fuel
      let conditions ← conditions fuel
      return (target, source, conditions) :: (← loops fuel)
    else return []

/-- The conditions of a loop. -/
def conditions : (fuel : Nat) → Reader (List Expression)
  | 0 => stop
  | fuel + 1 => do
    if ← taken (isKeyword "if") then
      let e ← disjunction fuel
      return e :: (← conditions fuel)
    else return []

/-- The target of a loop. -/
def loopTarget : (fuel : Nat) → Reader Expression
  | 0 => stop
  | fuel + 1 => do
    let first ← singleLoopTarget fuel
    if ← taken (isSign ",") then return .tuple (first :: (← loopTargets fuel)) else return first

/-- Further targets of a loop. -/
def loopTargets : (fuel : Nat) → Reader (List Expression)
  | 0 => stop
  | fuel + 1 => do
    if ← isAhead (isKeyword "in") then return []
    else
      let first ← singleLoopTarget fuel
      if ← taken (isSign ",") then return first :: (← loopTargets fuel) else return [first]

/-- One of the targets of a loop. -/
def singleLoopTarget : (fuel : Nat) → Reader Expression
  | 0 => stop
  | fuel + 1 => do
    let isSpread ← taken (isSign "*")
    let e ← primary fuel
    if !e.isTarget then stop
    return if isSpread then .spread e else e

/-- A name, a literal, or something in brackets. -/
def atom : (fuel : Nat) → Reader Expression
  | 0 => stop
  | fuel + 1 => do
    if ← taken (isSign "(") then inRound fuel
    else if ← taken (isSign "[") then inSquare fuel
    else if ← taken (isSign "\x7b") then inCurly fuel
    else
      match ← fun tokens => .ok (quotedTexts tokens) with
      | [] => simple
      | texts => quoted fuel texts

/-- What stands behind an opening round bracket. -/
def inRound : (fuel : Nat) → Reader Expression
  | 0 => stop
  | fuel + 1 => do
    if ← taken (isSign ")") then return .tuple []
    else
      let first ← item fuel true
      let found ← if first.isSpread then pure [] else loops fuel
      if found.isEmpty then
        let hasComma ← taken (isSign ",")
        let further ← if hasComma then Prod.fst <$> items fuel (isSign ")") true else pure []
        let e ← inBrackets (first :: further) hasComma
        need (isSign ")")
        return e
      else
        need (isSign ")")
        return .gathered .stream [first] found

/-- What stands behind an opening square bracket. -/
def inSquare : (fuel : Nat) → Reader Expression
  | 0 => stop
  | fuel + 1 => do
    if ← taken (isSign "]") then return .list []
    else
      let first ← item fuel true
      let found ← if first.isSpread then pure [] else loops fuel
      if found.isEmpty then
        let further ←
          if ← taken (isSign ",") then Prod.fst <$> items fuel (isSign "]") true else pure []
        need (isSign "]")
        return .list (first :: further)
      else
        need (isSign "]")
        return .gathered .list [first] found

/-- What stands behind an opening curly bracket. -/
def inCurly : (fuel : Nat) → Reader Expression
  | 0 => stop
  | fuel + 1 => do
    if ← taken (isSign "\x7d") then return .mapping []
    else if ← taken (isSign "**") then
      let e ← operation fuel operators
      return .mapping ((none, e) :: (← entriesRest fuel))
    else
      let isNaming ← isNamingAhead
      let first ← item fuel true
      if !first.isSpread && !isNaming then
        if ← taken (isSign ":") then
          let v ← expression fuel
          match ← loops fuel with
          | [] => return .mapping ((some first, v) :: (← entriesRest fuel))
          | found =>
            need (isSign "\x7d")
            return .gathered .mapping [first, v] found
      let found ← if first.isSpread then pure [] else loops fuel
      if found.isEmpty then
        let further ←
          if ← taken (isSign ",") then Prod.fst <$> items fuel (isSign "\x7d") true else pure []
        need (isSign "\x7d")
        return .set (first :: further)
      else
        need (isSign "\x7d")
        return .gathered .set [first] found

/-- Further entries of an object, up to the closing bracket. -/
def entriesRest : (fuel : Nat) → Reader (List (Option Expression × Expression))
  | 0 => stop
  | fuel + 1 => do
    if ← taken (isSign "\x7d") then return []
    else
      need (isSign ",")
      if ← taken (isSign "\x7d") then return []
      else if ← taken (isSign "**") then
        let e ← operation fuel operators
        return (none, e) :: (← entriesRest fuel)
      else
        let key ← expression fuel
        need (isSign ":")
        let v ← expression fuel
        return (some key, v) :: (← entriesRest fuel)

/-- One of several expressions between commas; `inside` of brackets it may give a name its value. -/
def item : (fuel : Nat) → (inside : Bool) → Reader Expression
  | 0, _ => stop
  | fuel + 1, inside => do
    if ← taken (isSign "*") then return .spread (← operation fuel operators)
    else if inside then namedExpression fuel
    else expression fuel

/-- Expressions with commas between them, in front of a closing token, and whether there is a
comma. -/
def items : (fuel : Nat) → (close : Token → Bool) → (inside : Bool) →
    Reader (List Expression × Bool)
  | 0, _, _ => stop
  | fuel + 1, close, inside => do
    if ← isAhead close then return ([], false)
    else
      let first ← item fuel inside
      if ← taken (isSign ",") then
        let (further, _) ← items fuel close inside
        return (first :: further, true)
      else return ([first], false)

/-- Quoted texts that stand next to each other. -/
def quoted : (fuel : Nat) → List (Literal.Manner × Text) → Reader Expression
  | 0, _ => stop
  | fuel + 1, texts => do
    if texts.all fun t => t.1.binary then
      match texts.mapM fun t => Literal.decoded? t.1 t.2 with
      | some parts => return .literal (.bytes parts.flatten)
      | none => throw .malformed
    else if texts.any fun t => t.1.binary then throw .malformed
    else
      match texts.mapM piecesOf? with
      | none => throw .malformed
      | some found =>
        match found.flatten.mapM plainText? with
        | some parts => return .literal (.text parts.flatten)
        | none => return .joined (← pieces fuel found.flatten)

/-- The expressions for the pieces of a text. -/
def pieces : (fuel : Nat) → List Piece → Reader (List Expression)
  | 0, _ => stop
  | _ + 1, [] => return []
  | fuel + 1, .text s :: rest => return .literal (.text s) :: (← pieces fuel rest)
  | fuel + 1, .field source conversion pattern :: rest => do
    let value ← fieldValue fuel source
    let parts ← pieces fuel pattern
    return .field value conversion (.joined parts) :: (← pieces fuel rest)

/-- The expression that the source of a field says. -/
def fieldValue : (fuel : Nat) → (source : Text) → Reader Expression
  | 0, _ => stop
  | fuel + 1, source => fun tokens =>
    match atom fuel (Token.ofText ('(' :: source ++ [')'])) with
    | .ok (e, _) => .ok (e, tokens)
    | .error _ => .error .malformed

end

end EventPipeline.Script.Reader
