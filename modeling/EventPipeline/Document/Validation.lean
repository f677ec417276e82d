import EventPipeline.Document

/-!
# Validating interchange values

A value is checked against the shape of a part of a document. Nothing stops at the first problem:
the result is the part, or the list of all issues in the order of the shape, each with its fault
and the path to the value at fault. Members that the shape does not name are ignored, whatever
their order.

Scalars are taken leniently: a truth value may be a number or a word, an integer or a number may be
a text. `Checked.feed` is what collects issues; everything else is built on it.
-/

namespace EventPipeline

/-! ## Issues -/

/-- The parts of a document that have a shape. -/
inductive Part
  /-- A field of the data. -/
  | field
  /-- A configuration. -/
  | config
  /-- An event. -/
  | event
  /-- A position. -/
  | position
  /-- What a node holds. -/
  | nodeData
  /-- A node. -/
  | node
  /-- A connection. -/
  | connection
  /-- A document. -/
  | document
  deriving DecidableEq, Repr

/-- The name of a part, as messages use it. -/
def Part.name : Part → Text
  | field => "PipelineField".toList
  | config => "PipelineConfig".toList
  | event => "PipelineEvent".toList
  | position => "Position".toList
  | nodeData => "EventNodeData".toList
  | node => "EventNode".toList
  | connection => "Connection".toList
  | document => "PipelineDocument".toList

/-- What is wrong with a value. -/
inductive Fault
  /-- A required member is missing. -/
  | missing
  /-- The value is no text. -/
  | noText
  /-- The value is no list. -/
  | noList
  /-- The value is no object, as the part requires. -/
  | noObject (part : Part)
  /-- The value is a text or an integer that is no truth value. -/
  | unreadableBool
  /-- The value is no truth value. -/
  | noBool
  /-- The value is none of the kinds of data. -/
  | noDataType
  /-- The value is a text that is no integer. -/
  | unreadableInt
  /-- The value is no integer. -/
  | noInt
  /-- The value is not finite. -/
  | infinite
  /-- The value has a fraction. -/
  | fractional
  /-- The value is too large for an integer. -/
  | oversizedInt
  /-- The value is not positive. -/
  | notPositive
  /-- The value is no number. -/
  | noNumber
  /-- The value is a text that is no number. -/
  | unreadableNumber
  deriving DecidableEq, Repr

namespace Fault

/-- The code of a fault. -/
def code : Fault → Text
  | missing => "missing".toList
  | noText => "string_type".toList
  | noList => "list_type".toList
  | noObject _ => "model_type".toList
  | unreadableBool => "bool_parsing".toList
  | noBool => "bool_type".toList
  | noDataType => "enum".toList
  | unreadableInt => "int_parsing".toList
  | noInt => "int_type".toList
  | infinite => "finite_number".toList
  | fractional => "int_from_float".toList
  | oversizedInt => "int_parsing_size".toList
  | notPositive => "greater_than".toList
  | noNumber => "float_type".toList
  | unreadableNumber => "float_parsing".toList

/-- The wording of a fault. -/
def message : Fault → Text
  | missing => "Field required".toList
  | noText => "Input should be a valid string".toList
  | noList => "Input should be a valid list".toList
  | noObject part => "Input should be a valid dictionary or instance of ".toList ++ part.name
  | unreadableBool => "Input should be a valid boolean, unable to interpret input".toList
  | noBool => "Input should be a valid boolean".toList
  | noDataType => "Input should be 'string', 'number', 'boolean', 'object' or 'array'".toList
  | unreadableInt => "Input should be a valid integer, unable to parse string as an integer".toList
  | noInt => "Input should be a valid integer".toList
  | infinite => "Input should be a finite number".toList
  | fractional => "Input should be a valid integer, got a number with a fractional part".toList
  | oversizedInt => "Unable to parse input string as an integer, exceeded maximum size".toList
  | notPositive => "Input should be greater than 0".toList
  | noNumber => "Input should be a valid number".toList
  | unreadableNumber => "Input should be a valid number, unable to parse string as a number".toList

end Fault

/-- A step of the path to a value. -/
inductive Step
  /-- Into the member of a name. -/
  | member (name : Text)
  /-- Into the item of an index. -/
  | item (index : Nat)
  deriving DecidableEq, Repr

/-- A fault and the path to the value that has it. -/
structure Issue where
  /-- What is wrong. -/
  fault : Fault
  /-- Where it is wrong. -/
  path : List Step
  deriving DecidableEq, Repr

/-! ## Collecting issues -/

/-- A checked value: the part that it denotes, or all that is wrong with it. -/
abbrev Checked (α : Type) := Except (List Issue) α

namespace Checked

variable {α β : Type}

/-- The value itself has a fault. -/
def fault (f : Fault) : Checked α :=
  .error [⟨f, []⟩]

/-- A result that was found at the end of a step. -/
def under (step : Step) (r : Checked α) : Checked α :=
  r.mapError fun issues => issues.map fun i => { i with path := step :: i.path }

/-- A part that still waits for an argument, and a result for it: the issues that are there come
before those of the argument. -/
def feed : Checked α → Checked (α → β) → Checked β
  | .ok a, .ok f => .ok (f a)
  | .error e, .ok _ => .error e
  | .ok _, .error e => .error e
  | .error e, .error e' => .error (e' ++ e)

/-- A part is accepted exactly when what waits for an argument and the argument are. -/
theorem feed_eq_ok_iff {x : Checked α} {g : Checked (α → β)} {b : β} :
    feed x g = .ok b ↔ ∃ a f, x = .ok a ∧ g = .ok f ∧ f a = b := by
  cases x <;> cases g <;> simp [feed]

/-- The results of checking the items of a list that begins at an index. -/
def items (check : Json → Checked α) : (index : Nat) → List Json → Checked (List α)
  | _, [] => .ok []
  | index, v :: rest =>
    .ok List.cons
      |> feed (under (.item index) (check v))
      |> feed (items check (index + 1) rest)

end Checked

/-! ## Scalars -/

namespace Scalar

/-- A text. -/
def text : Json → Checked Text
  | .text s => .ok s
  | _ => Checked.fault .noText

/-- A name, which has to be a text. -/
def name (v : Json) : Checked EventName :=
  (text v).map .given

/-- A kind of data, by its word. -/
def dataType : Json → Checked DataType
  | .text s =>
    match DataType.ofWord? s with
    | some t => .ok t
    | none => Checked.fault .noDataType
  | _ => Checked.fault .noDataType

/-- The words for false. -/
def falseWords : List Text :=
  ["0", "off", "f", "false", "n", "no"].map String.toList

/-- The words for true. -/
def trueWords : List Text :=
  ["1", "on", "t", "true", "y", "yes"].map String.toList

/-- The integers of 64 bits lie between this number and its negation: it is `2 ^ 63`. -/
def wordLimit : Int := 9223372036854775808

/-- The truth value that an integer stands for. Beyond 64 bits an integer is not looked at. -/
def boolOfInt (n : Int) : Checked Bool :=
  if n = 0 then .ok false
  else if n = 1 then .ok true
  else if -wordLimit ≤ n ∧ n < wordLimit then Checked.fault .unreadableBool
  else Checked.fault .noBool

/-- A truth value: a number that is zero or one and a word stand for one as well. -/
def bool : Json → Checked Bool
  | .bool b => .ok b
  | .int n => boolOfInt n
  | .float x =>
    match x.toInt? with
    | some n => if -wordLimit < n then boolOfInt n else Checked.fault .noBool
    | none => Checked.fault .noBool
  | .text s =>
    let word := s.map Char.toLower
    if falseWords.contains word then .ok false
    else if trueWords.contains word then .ok true
    else Checked.fault .unreadableBool
  | _ => Checked.fault .noBool

/-! ### Numerals -/

/-- A sign in front of a text, which may be missing, and the rest. -/
def sign : Text → Bool × Text
  | '-' :: rest => (true, rest)
  | '+' :: rest => (false, rest)
  | s => (false, s)

/-- A run of digits. -/
def digits? (s : Text) : Option Text :=
  if !s.isEmpty && s.all Char.isDigit then some s else none

/-- Whether an underscore follows another one. -/
def hasDoubledUnderscore : Text → Bool
  | '_' :: '_' :: _ => true
  | _ :: rest => hasDoubledUnderscore rest
  | [] => false

/-- A text without the underscores that it has inside: each of them stands alone there. -/
def withoutUnderscores? (s : Text) : Option Text :=
  if s.contains '_' && !s.startsWith ['_'] && !s.endsWith ['_'] && !hasDoubledUnderscore s then
    some (s.filter (· != '_'))
  else none

/-- A text before and behind the first character of a class. -/
def cut (p : Char → Bool) (s : Text) : Text × Option Text :=
  (s.takeWhile (!p ·), (s.dropWhile (!p ·)).tail?)

/-- Whether a numeral without zeros in front may begin with a character. -/
def isNumeralStart (c : Char) : Bool :=
  (c.isDigit && c != '0') || c == '-'

/-- What is left of a numeral behind a zero or an underscore: any number of both is passed over, and
the last of them is kept where no other digit follows. -/
def behindZeros? (last : Char) : Text → Option Text
  | [] => some [last]
  | c :: rest =>
    if c == '0' || c == '_' then behindZeros? c rest
    else if c == '.' then some (last :: c :: rest)
    else if isNumeralStart c then some (c :: rest)
    else none

/-- A numeral without the zeros in front of it, among which there may be underscores. -/
def withoutZeros? : Text → Option Text
  | [] => none
  | c :: rest =>
    if c == '0' then behindZeros? c rest
    else if isNumeralStart c then some (c :: rest)
    else none

/-- A signed numeral without the zeros in front of its digits; a minus sign stays. -/
def withoutSignedZeros? : Text → Option Text
  | '-' :: rest => (withoutZeros? rest).map ('-' :: ·)
  | '+' :: '-' :: _ => none
  | '+' :: rest => withoutZeros? rest
  | s => withoutZeros? s

/-- A numeral without a fraction of zeros. -/
def withoutFraction? (s : Text) : Option Text :=
  match cut (· == '.') s with
  | (whole, none) => some whole
  | (whole, some zeros) => if !zeros.isEmpty && zeros.all (· == '0') then some whole else none

/-- A numeral in its plain form, which begins with a zero only if that is all: whether it is
negative, and its digits. -/
def plainNumeral? (s : Text) : Option (Bool × Text) :=
  let (negative, body) := match s with
    | '-' :: rest => (true, rest)
    | _ => (false, s)
  match digits? body with
  | some ('0' :: _ :: _) => none
  | some digits => some (negative, digits)
  | none => none

/-- The numeral that a text is: zeros may stand in front of the digits, a fraction of zeros behind
them, and single underscores between them. -/
def numeral? (s : Text) : Option (Bool × Text) :=
  (withoutSignedZeros? (s.trimBy Text.isSpace)).bind fun body =>
    (withoutFraction? body).bind fun whole =>
      plainNumeral? ((withoutUnderscores? whole).getD whole)

/-- The length of the run of digits that a text begins with, behind a minus sign that may be
missing. A run that begins with a zero does not count. -/
def leadingDigits (s : Text) : Nat :=
  let body := match s with
    | '-' :: rest => rest
    | _ => s
  if body.head? == some '0' then 0 else (body.takeWhile Char.isDigit).length

/-- The integer that a text denotes. One that begins with too many digits is refused for its size,
whatever is behind them; a numeral that has too many once it is in its plain form is no integer. -/
def intOfText (s : Text) : Checked Int :=
  if Json.digitLimit < leadingDigits s then Checked.fault .oversizedInt
  else
    match numeral? s with
    | none => Checked.fault .unreadableInt
    | some (negative, digits) =>
      if Json.digitLimit < digits.length then Checked.fault .unreadableInt
      else
        let n : Int := Text.toNat digits
        .ok (if negative then -n else n)

/-- An integer. A number without fraction stands for one if it fits into 64 bits. -/
def int : Json → Checked Int
  | .bool b => .ok (if b then 1 else 0)
  | .int n => .ok n
  | .float x =>
    if !x.isFinite then Checked.fault .infinite
    else
      match x.toInt? with
      | none => Checked.fault .fractional
      | some n =>
        if -wordLimit < n ∧ n < wordLimit then .ok n else Checked.fault .oversizedInt
  | .text s => intOfText s
  | _ => Checked.fault .noInt

/-- A positive integer. -/
def positive (v : Json) : Checked Positive :=
  match int v with
  | .error e => .error e
  | .ok n =>
    if h : 0 < n.toNat then .ok ⟨n.toNat, h⟩ else Checked.fault .notPositive

/-- The digits of a mantissa, on both sides of a point that may be missing, with digits on at
least one side. -/
def mantissa? (s : Text) : Option (Text × Text) :=
  match cut (· == '.') s with
  | (whole, none) => (digits? whole).map fun digits => (digits, [])
  | (whole, some []) => (digits? whole).map fun digits => (digits, [])
  | ([], some fraction) => (digits? fraction).map fun digits => ([], digits)
  | (whole, some fraction) =>
    match digits? whole, digits? fraction with
    | some digits, some places => some (digits, places)
    | _, _ => none

/-- The number that a text without underscores denotes: a decimal with an exponent, or the words for
infinity and for what is not a number. -/
def plainNumber? (s : Text) : Option Binary64 :=
  let (negative, body) := sign s
  let word := body.map Char.toLower
  if word = "nan".toList then some .nan
  else if word = "inf".toList ∨ word = "infinity".toList then some (.infinite negative)
  else
    let (front, back) := cut (fun c => c == 'e' || c == 'E') body
    let exponent? : Option Int := match back with
      | none => some 0
      | some e =>
        let (down, places) := sign e
        (digits? places).map fun run =>
          let n : Int := Text.toNat run
          if down then -n else n
    match mantissa? front, exponent? with
    | some (digits, places), some exponent =>
      some (Binary64.ofDecimal negative (Text.toNat (digits ++ places)) (exponent - places.length))
    | _, _ => none

/-- The number that a text denotes: white space may stand around it, or else single underscores may
stand inside. -/
def numberOfText? (s : Text) : Option Binary64 :=
  match plainNumber? (s.trimBy Text.isSpace) with
  | some x => some x
  | none => (withoutUnderscores? s).bind plainNumber?

/-- A double-precision number. An integer is rounded, unless it is beyond all finite numbers. -/
def number : Json → Checked Binary64
  | .bool b => .ok (Binary64.ofInt (if b then 1 else 0))
  | .int n =>
    let x := Binary64.ofInt n
    if x.isFinite then .ok x else Checked.fault .noNumber
  | .float x => .ok x
  | .text s =>
    match numberOfText? s with
    | some x => .ok x
    | none => Checked.fault .unreadableNumber
  | _ => Checked.fault .noNumber

end Scalar

/-! ## Shapes -/

namespace Shape

variable {α : Type}

/-- An object of a part, by its members. -/
def object (part : Part) (check : List (Text × Json) → Checked α) : Json → Checked α
  | .object members => check members
  | _ => Checked.fault (.noObject part)

/-- A list, by its items. -/
def list (check : Json → Checked α) : Json → Checked (List α)
  | .list values => Checked.items check 0 values
  | _ => Checked.fault .noList

/-- A value that may be null. -/
def nullable (check : Json → Checked α) : Json → Checked (Option α)
  | .null => .ok none
  | v => (check v).map some

/-- A member that has to be there. -/
def required (members : List (Text × Json)) (name : Text) (check : Json → Checked α) : Checked α :=
  Checked.under (.member name) (match Dictionary.get? members name with
    | some v => check v
    | none => Checked.fault .missing)

/-- A member that has a value when it is missing. -/
def optional (members : List (Text × Json)) (name : Text) (value : α) (check : Json → Checked α) :
    Checked α :=
  match Dictionary.get? members name with
  | some v => Checked.under (.member name) (check v)
  | none => .ok value

end Shape

/-- The field that a value denotes. -/
def Field.check : Json → Checked Field :=
  Shape.object .field fun ms =>
    .ok Field.mk
      |> Checked.feed (Shape.required ms "name".toList Scalar.text)
      |> Checked.feed (Shape.optional ms "required".toList false Scalar.bool)
      |> Checked.feed (Shape.optional ms "data_type".toList .string Scalar.dataType)
      |> Checked.feed (Shape.optional ms "default".toList .null .ok)
      |> Checked.feed (Shape.optional ms "batch_processor".toList none (Shape.nullable Scalar.bool))
      |> Checked.feed (Shape.optional ms "batch_size".toList none (Shape.nullable Scalar.positive))

/-- The configuration that a value denotes. -/
def Config.check : Json → Checked Config :=
  Shape.object .config fun ms =>
    .ok Config.mk
      |> Checked.feed (Shape.optional ms "name".toList [] Scalar.text)
      |> Checked.feed (Shape.optional ms "fields".toList [] (Shape.list Field.check))

/-- The event that a value denotes. -/
def Event.check : Json → Checked Event :=
  Shape.object .event fun ms =>
    .ok Event.mk
      |> Checked.feed (Shape.required ms "id".toList Scalar.text)
      |> Checked.feed (Shape.required ms "name".toList Scalar.name)
      |> Checked.feed (Shape.optional ms "code".toList [] Scalar.text)

/-- The position that a value denotes. -/
def Position.check : Json → Checked Position :=
  Shape.object .position fun ms =>
    .ok Position.mk
      |> Checked.feed (Shape.optional ms "x".toList Binary64.zero Scalar.number)
      |> Checked.feed (Shape.optional ms "y".toList Binary64.zero Scalar.number)

/-- The event that the contents of a node denote. -/
def Node.checkData : Json → Checked Event :=
  Shape.object .nodeData fun ms => Shape.required ms "event".toList Event.check

/-- The node that a value denotes. -/
def Node.check : Json → Checked Node :=
  Shape.object .node fun ms =>
    .ok Node.mk
      |> Checked.feed (Shape.required ms "id".toList Scalar.text)
      |> Checked.feed (Shape.optional ms "type".toList Node.eventKind Scalar.text)
      |> Checked.feed (Shape.optional ms "position".toList (some Position.origin) fun v =>
        (Position.check v).map some)
      |> Checked.feed (Shape.required ms "data".toList Node.checkData)

/-- The connection that a value denotes. -/
def Connection.check : Json → Checked Connection :=
  Shape.object .connection fun ms =>
    .ok Connection.mk
      |> Checked.feed (Shape.required ms "id".toList Scalar.text)
      |> Checked.feed (Shape.required ms "source".toList Scalar.text)
      |> Checked.feed (Shape.required ms "target".toList Scalar.text)

/-- The document that a value denotes. -/
def Document.check : Json → Checked Document :=
  Shape.object .document fun ms =>
    .ok Document.mk
      |> Checked.feed (Shape.optional ms "config".toList none (Shape.nullable Config.check))
      |> Checked.feed (Shape.optional ms "nodes".toList [] (Shape.list Node.check))
      |> Checked.feed (Shape.optional ms "edges".toList [] (Shape.list Connection.check))

end EventPipeline
