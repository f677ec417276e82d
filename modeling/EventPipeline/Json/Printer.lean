import EventPipeline.Binary64.Shortest
import EventPipeline.Json

/-!
# Writing interchange text

`Json.render` writes a value in printable ASCII: every other character of a text is escaped, those
beyond the first plane as a pair of surrogates. A value goes on one line, or with each item on a
line of its own, indented by its depth in spaces or in a text; an empty list or object has nothing
between its brackets in any style.
-/

namespace EventPipeline.Json

/-! ## Texts -/

/-- The escape of a code unit by its number. -/
def unitEscape (u : Nat) : Text :=
  '\\' :: 'u' :: Text.ofHex 4 u

/-- A character as it stands between quotes. -/
def escapeChar (c : Char) : Text :=
  if c = '"' then ['\\', '"']
  else if c = '\\' then ['\\', '\\']
  else if c = '\n' then ['\\', 'n']
  else if c = '\r' then ['\\', 'r']
  else if c = '\t' then ['\\', 't']
  else if c.toNat = 12 then ['\\', 'f']
  else if c.toNat = 8 then ['\\', 'b']
  else if 0x20 ≤ c.toNat ∧ c.toNat ≤ 0x7E then [c]
  else if c.toNat < 0x10000 then unitEscape c.toNat
  else unitEscape (0xD800 + (c.toNat - 0x10000) / 0x400) ++
    unitEscape (0xDC00 + (c.toNat - 0x10000) % 0x400)

/-- A text in quotes. -/
def quote (s : Text) : Text :=
  '"' :: (s.flatMap escapeChar ++ ['"'])

/-! ## Numbers -/

/-- The words for numbers that are not finite. -/
def numberWords : Binary64.Spelling where
  nan := "NaN".toList
  infinity := "Infinity".toList

/-! ## Values -/

/-- How items are set off from each other. -/
inductive Style
  /-- Everything on one line. -/
  | inline
  /-- Each item on a line of its own, indented by a number of spaces per level. -/
  | indented (width : Nat)
  /-- Each item on a line of its own, with a text in front of it once per level. -/
  | marked (unit : Text)

/-- The style of an optional indentation, which counts as zero when it is negative. -/
def Style.ofIndent : Option Int → Style
  | none => inline
  | some width => indented width.toNat

/-- Why a value is no indentation. -/
inductive IndentError
  /-- The value is of a kind that cannot be one. -/
  | kind
  /-- The number does not fit into 64 bits. -/
  | oversized
  /-- No memory holds so many spaces. -/
  | unlimited

/-- The numbers of spaces lie between the negation of this number and itself: it is `2 ^ 63`. -/
def indentLimit : Int := 9223372036854775808

/-- So many spaces are more than any memory holds: it is `2 ^ 40`. -/
def indentSpace : Int := 1099511627776

/-- The style of an indentation given as a value: none, a number of spaces, a text, or a truth
value, which counts as a number. -/
def Style.ofJson : Json → Except IndentError Style
  | null => .ok inline
  | int width =>
    if width < -indentLimit || indentLimit ≤ width then .error .oversized
    else if indentSpace ≤ width then .error .unlimited
    else .ok (indented width.toNat)
  | bool b => .ok (indented b.toNat)
  | text unit => .ok (marked unit)
  | _ => .error .kind

/-- What stands in front of the first item of a level and behind the last one of the next. -/
def Style.gap : Style → (level : Nat) → Text
  | inline, _ => []
  | indented width, level => '\n' :: List.replicate (width * level) ' '
  | marked unit, level => '\n' :: (List.replicate level unit).flatten

/-- What stands between two items of a level. -/
def Style.separator : Style → (level : Nat) → Text
  | inline, _ => [',', ' ']
  | style, level => ',' :: style.gap level

mutual

/-- The text of a value whose items are on the given level. -/
def renderAt (style : Style) (level : Nat) : Json → Text
  | null => "null".toList
  | bool true => "true".toList
  | bool false => "false".toList
  | int n => Text.ofInt n
  | float x => x.toText numberWords
  | text s => quote s
  | list [] => ['[', ']']
  | list (v :: rest) =>
    '[' :: (style.gap level ++ renderAt style (level + 1) v ++ renderItems style level rest ++
      style.gap (level - 1) ++ [']'])
  | object [] => ['{', '}']
  | object ((key, v) :: rest) =>
    '{' :: (style.gap level ++ quote key ++ [':', ' '] ++ renderAt style (level + 1) v ++
      renderMembers style level rest ++ style.gap (level - 1) ++ ['}'])

/-- The text of the items behind the first one, each with a separator in front. -/
def renderItems (style : Style) (level : Nat) : List Json → Text
  | [] => []
  | v :: rest =>
    style.separator level ++ renderAt style (level + 1) v ++ renderItems style level rest

/-- The text of the members behind the first one, each with a separator in front. -/
def renderMembers (style : Style) (level : Nat) : List (Text × Json) → Text
  | [] => []
  | (key, v) :: rest =>
    style.separator level ++ quote key ++ [':', ' '] ++ renderAt style (level + 1) v ++
      renderMembers style level rest

end

/-- The text of a value. -/
def render (style : Style) (v : Json) : Text :=
  renderAt style 1 v

end EventPipeline.Json
