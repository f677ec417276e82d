import EventPipeline.Script.Fault
import EventPipeline.Script.Value
import EventPipeline.Text.Quoted

/-!
# Texts of values

How a value of a script is shown: as it could be written in a script, where that is possible. A set
of several items has no order, so that its text is not known, and neither is that of a function. A
whole number has a text only if it has not too many digits.
-/

namespace EventPipeline.Script

/-- How a value is made into a text before a pattern applies to it. -/
inductive Conversion
  /-- As it stands in a text. -/
  | plain
  /-- As it is shown. -/
  | shown
  /-- As it is shown in the first alphabet. -/
  | firstAlphabet
  deriving DecidableEq, Repr

/-- The text of a whole number, if it has not too many digits. -/
def wholeText (n : Int) : Except RunError Text :=
  if Json.isShort n then .ok (Text.ofInt n) else .error (.value .longNumeral)

namespace Value

/-- The text of a truth value. -/
def boolText (b : Bool) : Text :=
  if b then "True".toList else "False".toList

/-- The bytes of characters that stand for bytes. -/
def rawBytes (s : Text) : List UInt8 :=
  s.map fun c => UInt8.ofNat c.toNat

/-- Texts with commas between them, if all are known. -/
def listText (texts : List (Option Text)) : Option Text :=
  (texts.mapM id).map (Text.join [',', ' '])

mutual

/-- How a value is shown, if that is known. -/
def shown : Value → Except RunError (Option Text)
  | null => .ok (some "None".toList)
  | bool b => .ok (some (boolText b))
  | int n => (wholeText n).map some
  | float x => .ok (some (x.toText Binary64.plainWords))
  | complex z => .ok (some z.text)
  | text s => .ok (some s.shown)
  | bytes s => .ok (some (Text.shownBytes (rawBytes s)))
  | list items => do
    let texts ← shownItems items
    return (listText texts).map fun s => '[' :: (s ++ [']'])
  | tuple items => do
    let texts ← shownItems items
    return (listText texts).map fun s =>
      '(' :: (s ++ if items.length = 1 then [',', ')'] else [')'])
  | set items => do
    let texts ← shownItems items
    match texts with
    | [] => return some "set()".toList
    | [s] => return s.map fun s => '{' :: (s ++ ['}'])
    | _ => return none
  | mapping entries => do
    let texts ← shownEntries entries
    return (listText texts).map fun s => '{' :: (s ++ ['}'])
  | view kind items => do
    let texts ← shownItems items
    return (listText texts).map fun s => kind ++ '(' :: '[' :: (s ++ [']', ')'])
  | range first last step =>
    let numbers := [first, last] ++ if step = 1 then [] else [step]
    .ok (some ("range(".toList ++ Text.join [',', ' '] (numbers.map Text.ofInt) ++ [')']))
  | slice first last step => do
    let first ← shown first
    let last ← shown last
    let step ← shown step
    return (listText [first, last, step]).map fun s => "slice(".toList ++ s ++ [')']
  | type name => .ok (some ("<class '".toList ++ name ++ ['\'', '>']))
  | filledType name held => do
    let texts ← shownChoices held
    return (listText (if held.isEmpty then [some ['(', ')']] else texts)).map fun s =>
      name ++ '[' :: (s ++ [']'])
  | union choices => do
    let texts ← shownChoices choices
    return (texts.mapM id).map (Text.join [' ', '|', ' '])
  | standing name => .ok (some ("<built-in function ".toList ++ name ++ ['>']))
  | constant _ word => .ok (some word)
  | _ => .ok none

/-- How the items of a list are shown. -/
def shownItems : List Value → Except RunError (List (Option Text))
  | [] => .ok []
  | v :: rest => do
    let s ← shown v
    return s :: (← shownItems rest)

/-- How values are shown where types are expected: types by their names. -/
def shownChoices : List Value → Except RunError (List (Option Text))
  | [] => .ok []
  | v :: rest => do
    let s ← match v with
      | type name => pure (some name)
      | standing name => pure (some name)
      | constant _ word => pure (some (if v.same ellipsis then ['.', '.', '.'] else word))
      | v => shown v
    return s :: (← shownChoices rest)

/-- How the entries of an object are shown. -/
def shownEntries : List (Value × Value) → Except RunError (List (Option Text))
  | [] => .ok []
  | (k, v) :: rest => do
    let key ← shown k
    let s ← shown v
    let entry := match key, s with
      | some key, some s => some (key ++ ':' :: ' ' :: s)
      | _, _ => none
    return entry :: (← shownEntries rest)

end

/-- How a value stands in a text: a text as it is, any other value as it is shown. -/
def plain : Value → Except RunError (Option Text)
  | text s => .ok (some s)
  | v => v.shown

/-- A text with the characters beyond the first alphabet shown by their numbers. -/
def firstAlphabet (s : Text) : Text :=
  s.flatMap fun c => if c.toNat < 0x80 then [c]
    else if c.toNat < 0x100 then ['\\', 'x'] ++ Text.ofHex 2 c.toNat
    else if c.toNat < 0x10000 then ['\\', 'u'] ++ Text.ofHex 4 c.toNat
    else ['\\', 'U'] ++ Text.ofHex 8 c.toNat

/-- A value made into a text, if that is asked for and known. -/
def converted (v : Value) : Option Conversion → Except RunError (Option Value)
  | none => .ok (some v)
  | some .plain => v.plain.map fun s => s.map text
  | some .shown => v.shown.map fun s => s.map text
  | some .firstAlphabet => v.shown.map fun s => s.map fun s => text (firstAlphabet s)

end Value

end EventPipeline.Script
