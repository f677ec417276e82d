import EventPipeline.Text

/-!
# Identifiers and ids

An identifier is an ASCII letter or an underscore followed by letters, digits and underscores; it is
what pointy text can carry as the name of an event. Ids are built from names and from the ids of
endpoints: `connectionId` takes the plain id when it is free and otherwise the free numbered one
with the least number. When the plain id is taken, the ids in use are too few to take as many
numbered ones, so the search is bounded by their number.
-/

namespace EventPipeline

/-! ## Identifiers -/

/-- Whether an identifier can begin with a character. -/
def isIdentifierStart (c : Char) : Bool :=
  c.isAlpha || c == '_'

/-- Whether an identifier can go on with a character. -/
def isIdentifierPart (c : Char) : Bool :=
  c.isAlphanum || c == '_'

/-- Whether a text is an identifier. -/
def isIdentifier : Text → Bool
  | [] => false
  | c :: rest => isIdentifierStart c && rest.all isIdentifierPart

/-! ## Ids of events -/

/-- How the id of an event begins. -/
def eventIdStart : Text :=
  "event-".toList

/-- The id of an event that is known by its name. -/
def eventIdOfName (name : Text) : Text :=
  eventIdStart ++ name

/-- The id of an event that was made at a time, in milliseconds, with a random hexadecimal text. -/
def eventIdOfTime (milliseconds : Int) (hex : Text) : Text :=
  eventIdStart ++ Text.ofInt milliseconds ++ '-' :: hex.take 8

/-! ## Ids of connections -/

/-- The plain id of a connection between two ids. -/
def plainConnectionId (source target : Text) : Text :=
  source ++ '-' :: target

/-- The id of a number. -/
def numberedId (plain : Text) (number : Nat) : Text :=
  plain ++ '-' :: Text.ofNat number

/-- The numbered id with the least number from `number` on that is not taken, as far as `limit`
more ids are looked at. -/
def freeNumberedId (plain : Text) (taken : List Text) : (limit number : Nat) → Text
  | 0, number => numberedId plain number
  | limit + 1, number =>
    if numberedId plain number ∈ taken then freeNumberedId plain taken limit (number + 1)
    else numberedId plain number

/-- An id for a connection between two ids that is not taken. -/
def connectionId (source target : Text) (taken : List Text) : Text :=
  let plain := plainConnectionId source target
  if plain ∈ taken then freeNumberedId plain taken taken.length 1 else plain

end EventPipeline
