import EventPipeline.Script.Collection
import EventPipeline.Script.Feature
import EventPipeline.Script.Given
import EventPipeline.Script.PatternText
import EventPipeline.Text.Numeral

/-!
# Templates

A template is a text with fields in curly brackets. A field begins with a place or a name, which a
value is given for, and goes on with features and items of that value; a letter that makes the value
into a text may follow, and a pattern, which may have fields of its own. Two equal brackets stand
for one.

`Template.fill` goes through a template from left to right. Fields without a place take the values
one after the other.
-/

namespace EventPipeline.Script

namespace Template

/-! ## Fields -/

/-- A field. -/
structure Field where
  /-- What the value is: a place or a name, features and items. -/
  path : Text
  /-- The letter that makes it into a text. -/
  letter : Option Char := none
  /-- The pattern. -/
  pattern : Text := []

/-- The path of a field, the sign that ends it, and the text behind that. -/
def pathEnd : (inItem : Bool) → Text → Except TemplateFault (Text × Char × Text)
  | _, [] => .error .openField
  | true, c :: rest => (pathEnd (c ≠ ']') rest).map fun r => (c :: r.1, r.2)
  | false, c :: rest =>
    if c = '{' then .error .nameBracket
    else if c = '}' || c = ':' || c = '!' then .ok ([], c, rest)
    else (pathEnd (c = '[') rest).map fun r => (c :: r.1, r.2)

/-- The pattern of a field, in which so many brackets are open, and the text behind the field. -/
def patternEnd : (depth : Nat) → Text → Except TemplateFault (Text × Text)
  | _, [] => .error .openPattern
  | depth, c :: rest =>
    if c = '{' then (patternEnd (depth + 1) rest).map fun r => (c :: r.1, r.2)
    else if c = '}' then
      match depth with
      | 0 => .ok ([], rest)
      | depth + 1 => (patternEnd depth rest).map fun r => (c :: r.1, r.2)
    else (patternEnd depth rest).map fun r => (c :: r.1, r.2)

/-- The field that a text begins with, behind its bracket, and the text behind it. -/
def field (s : Text) : Except TemplateFault (Field × Text) := do
  let (path, sign, rest) ← pathEnd false s
  let withPattern (letter : Option Char) (s : Text) : Except TemplateFault (Field × Text) :=
    (patternEnd 0 s).map fun r => ({ path, letter, pattern := r.1 }, r.2)
  if sign = ':' then withPattern none rest
  else if sign = '!' then
    match rest with
    | [] => throw .noConversion
    | [letter] => withPattern (some letter) []
    | letter :: c :: rest =>
      if c = '}' then return ({ path, letter := some letter }, rest)
      else if c = ':' then withPattern (some letter) rest
      else throw .behindConversion
  else return ({ path }, rest)

/-- The text in front of the next field, the field and the text behind it. -/
def next (s : Text) : Except TemplateFault (Text × Option Field × Text) :=
  let front := s.takeWhile fun c => c ≠ '{' && c ≠ '}'
  match s.drop front.length with
  | [] => .ok (front, none, [])
  | [c] => .error (.loneBracket c)
  | c :: d :: rest =>
    if c = d then .ok (front ++ [c], none, rest)
    else if c = '}' then .error (.loneBracket c)
    else (field (d :: rest)).map fun r => (front, some r.1, r.2)

/-! ## Values of fields -/

/-- What fields take. -/
structure Supply where
  /-- The values by place, if there can be any. -/
  values : Option (List Value)
  /-- The value of a name. -/
  named : Text → Except RunError Value

/-- How fields say which value they take. -/
inductive Numbering
  /-- No field said so yet. -/
  | unset
  /-- One after the other; so many were taken. -/
  | automatic (count : Nat)
  /-- By places. -/
  | manual

/-- A fault of a template as a failure of a script. -/
def failure {α : Type} (fault : TemplateFault) : Except RunError α :=
  .error (.value (.template fault))

/-- The greatest place. -/
def placeLimit : Nat := 9223372036854775807

/-- The place that a text says, if it says one. -/
def place? (s : Text) : Except RunError (Option Nat) :=
  if s.isEmpty || !s.all Text.isDecimalDigit then .ok none
  else
    let n := Text.valueOfDigits s
    if placeLimit < n then failure .longNumber else .ok (some n)

/-- The place of the value that a field takes, if it takes one by place, and how the fields behind
it say theirs. -/
def placeOf (numbering : Numbering) (name : Text) : Except RunError (Option Nat × Numbering) := do
  let place ← place? name
  match place, name.isEmpty, numbering with
  | none, false, numbering => return (none, numbering)
  | _, true, .unset => return (some 0, .automatic 1)
  | _, true, .automatic count => return (some count, .automatic (count + 1))
  | _, true, .manual => failure (.mixedPlaces true)
  | some _, false, .automatic _ => failure (.mixedPlaces false)
  | some n, false, _ => return (some n, .manual)

/-- Whether a character ends the name of a feature. -/
def endsName (c : Char) : Bool :=
  c = '.' || c = '['

/-- The value that features and items lead to; `fuel` bounds their number. -/
def follow : (fuel : Nat) → Value → Text → Except RunError Value
  | 0, v, _ => .ok v
  | _, v, [] => .ok v
  | fuel + 1, v, sign :: rest =>
    if sign = '.' then do
      let name := rest.takeWhile (!endsName ·)
      if name.isEmpty then failure .emptyPart
      follow fuel (← featureOf v name) (rest.drop name.length)
    else if sign = '[' then do
      let name := rest.takeWhile (· ≠ ']')
      if name.length = rest.length then failure .openItem
      let place ← place? name
      if name.isEmpty then failure .emptyPart
      let index := match place with
        | some n => Value.int n
        | none => .text name
      follow fuel (← v.itemOf index) (rest.drop (name.length + 1))
    else failure .behindItem

/-- The value of a field, and how the fields behind it say theirs. -/
def valueOf (supply : Supply) (numbering : Numbering) (path : Text) :
    Except RunError (Value × Numbering) := do
  let name := path.takeWhile (!endsName ·)
  let (place, numbering) ← placeOf numbering name
  let v ← match place, supply.values with
    | none, _ => supply.named name
    | some _, none => failure .noPlaces
    | some n, some values => Value.itemAt values n
  return (← follow path.length v (path.drop name.length), numbering)

/-- The way to make a value into a text that a letter stands for. -/
def conversionOf (letter : Option Char) : Except RunError (Option Conversion) :=
  match letter with
  | none => .ok none
  | some 's' => .ok (some .plain)
  | some 'r' => .ok (some .shown)
  | some 'a' => .ok (some .firstAlphabet)
  | some c => failure (.conversion c)

/-! ## Filling -/

/-- Two texts one behind the other, if both are known. -/
def both (s t : Option Text) : Option Text :=
  match s, t with
  | some s, some t => some (s ++ t)
  | _, _ => none

/-- A template with its fields filled in, if the text is known; patterns may stand within patterns
so many times, and `fuel` bounds the number of pieces. -/
def fillFrom (supply : Supply) : (fuel depth : Nat) → Numbering → Text →
    Except RunError (Option Text × Numbering)
  | 0, _, numbering, _ => .ok (none, numbering)
  | _, 0, _, _ => failure .deepPattern
  | fuel + 1, depth + 1, numbering, s =>
    if s.isEmpty then .ok (some [], numbering)
    else do
      let (front, found, rest) ← (next s).mapError fun f => .value (.template f)
      match found with
      | none =>
        let (back, numbering) ← fillFrom supply fuel (depth + 1) numbering rest
        return (both (some front) back, numbering)
      | some field =>
        let (v, numbering) ← valueOf supply numbering field.path
        let conversion ← conversionOf field.letter
        let converted ← v.converted conversion
        let (pattern, numbering) ←
          if field.pattern.contains '{' then fillFrom supply fuel depth numbering field.pattern
          else pure (some field.pattern, numbering)
        let text ← match converted, pattern with
          | some v, some pattern => v.textBy pattern
          | _, _ => pure none
        let (back, numbering) ← fillFrom supply fuel (depth + 1) numbering rest
        return (both (both (some front) text) back, numbering)

/-- How deep patterns can stand within patterns. -/
def depthLimit : Nat := 2

/-- A template with its fields filled in, if the text is known. -/
def fill (supply : Supply) (s : Text) : Except RunError (Option Text) :=
  (fillFrom supply (s.length + 1) depthLimit .unset s).map Prod.fst

/-- What values by place and by name supply. -/
def Supply.ofGiven (g : Given) : Supply where
  values := some g.values
  named name :=
    match g.named.get? name with
    | some v => .ok v
    | none => .error .noKey

/-- What the values of an object supply. -/
def Supply.ofMapping (v : Value) : Supply where
  values := none
  named name := v.itemOf (.text name)

end Template

end EventPipeline.Script
