import EventPipeline.Pointy.Identifier

/-!
# Tokens of pointy text

A text is cut into tokens from the left. Spaces, tabs and carriage returns between tokens are passed
over. A token is the longest identifier, a brace, an arrow, or a comment, which runs to the end of
its line; a character at which none of these begins is a token of its own. Each token keeps its
characters and where it begins.
-/

namespace EventPipeline.Pointy

/-- The kinds of tokens. -/
inductive TokenKind
  /-- A name. -/
  | identifier
  /-- An opening brace. -/
  | leftBrace
  /-- A closing brace. -/
  | rightBrace
  /-- An arrow. -/
  | arrow
  /-- Two slashes and the rest of the line. -/
  | comment
  /-- A character that begins nothing else. -/
  | stray
  deriving DecidableEq, Repr

/-- The word for a kind of token. -/
def TokenKind.word : TokenKind → Text
  | identifier => "IDENTIFIER".toList
  | leftBrace => "LCURLY_BRACKET".toList
  | rightBrace => "RCURLY_BRACKET".toList
  | arrow => "POINTER".toList
  | comment => "COMMENT".toList
  | stray => "error".toList

/-- A token of a text. -/
structure Token where
  /-- The kind. -/
  kind : TokenKind
  /-- The characters. -/
  text : Text
  /-- The position of the first character. -/
  position : Nat
  deriving DecidableEq, Repr

/-- Whether a character between tokens is passed over. -/
def isSkipped (c : Char) : Bool :=
  c == ' ' || c == '\t' || c == '\r'

/-- The kind of the token that begins with a character, and the characters behind the first one
that belong to it, given the rest of the text. -/
def lexeme (c : Char) (rest : Text) : TokenKind × Text :=
  if isIdentifierStart c then (.identifier, rest.takeWhile isIdentifierPart)
  else if c = '{' then (.leftBrace, [])
  else if c = '}' then (.rightBrace, [])
  else if c = '-' ∧ rest.head? = some '>' then (.arrow, ['>'])
  else if c = '/' ∧ rest.head? = some '/' then (.comment, rest.takeWhile (· != '\n'))
  else (.stray, [])

/-- The tokens from a position on; the first `skip` characters belong to the token before. -/
def tokensFrom : (skip position : Nat) → Text → List Token
  | _, _, [] => []
  | skip + 1, position, _ :: rest => tokensFrom skip (position + 1) rest
  | 0, position, c :: rest =>
    if isSkipped c then tokensFrom 0 (position + 1) rest
    else
      let (kind, more) := lexeme c rest
      ⟨kind, c :: more, position⟩ :: tokensFrom more.length (position + 1) rest

/-- Characters that belong to the token before are passed over. -/
theorem tokensFrom_skip (position : Nat) (skipped rest : Text) :
    tokensFrom skipped.length position (skipped ++ rest) =
      tokensFrom 0 (position + skipped.length) rest := by
  induction skipped generalizing position with
  | nil => simp
  | cons c more ih =>
    have step : tokensFrom (c :: more).length position ((c :: more) ++ rest) =
        tokensFrom more.length (position + 1) (more ++ rest) := rfl
    rw [step, ih, List.length_cons]
    congr 1
    omega

/-- The tokens of a text. -/
def tokens (s : Text) : List Token :=
  tokensFrom 0 0 s

end EventPipeline.Pointy
