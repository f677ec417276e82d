import EventPipeline.Text

/-!
# Parts of texts

Where a part occurs in a text, and what a text is cut into. `cutAt` cuts at a separator and `words`
at white space, both from the left and only so many times.
-/

namespace EventPipeline.Text

/-! ## Places -/

/-- The places at which a part begins in a text whose first character has a place; the part may
overlap with itself. -/
def placesOf (part : Text) : (place : Nat) → Text → List Nat
  | place, [] => if part.isEmpty then [place] else []
  | place, c :: rest =>
    let further := placesOf part (place + 1) rest
    if part.isPrefixOf (c :: rest) then place :: further else further

/-! ## Cuts at a separator -/

/-- The pieces of a text between separators, behind as many characters as are skipped. At most
`limit` separators count, those on the left first, and none of them overlaps with another one. -/
def cutAt (separator : Text) : (limit skip : Nat) → Text → List Text
  | _, _, [] => [[]]
  | limit, skip + 1, _ :: rest => cutAt separator limit skip rest
  | 0, 0, c :: rest => [c :: rest]
  | limit + 1, 0, c :: rest =>
    if separator.isPrefixOf (c :: rest) then
      [] :: cutAt separator limit (separator.length - 1) rest
    else (cutAt separator (limit + 1) 0 rest).modifyHead (c :: ·)

/-- The pieces of a text between separators, of which at most `limit` count, those on the right
first. -/
def cutFromEnd (separator : Text) (limit : Nat) (s : Text) : List Text :=
  ((cutAt separator.reverse limit 0 s.reverse).map List.reverse).reverse

/-- A text with a part in front of as many characters as `limit` says, and at the end if there are
fewer. -/
def spaced (part : Text) : (limit : Nat) → Text → Text
  | 0, s => s
  | _ + 1, [] => part
  | limit + 1, c :: rest => part ++ c :: spaced part limit rest

/-- A text with another part in the place of a part, at most `limit` times. Between any two
characters stands a part that is empty. -/
def replaced (part other : Text) (limit : Nat) (s : Text) : Text :=
  if part.isEmpty then spaced other limit s else join other (cutAt part limit 0 s)

/-! ## Cuts at white space -/

/-- The words of a text, which white space of a class cuts at most `limit` times; what is left over
is one word. -/
def words (isBlank : Char → Bool) : (limit : Nat) → (inWord : Bool) → Text → List Text
  | _, inWord, [] => if inWord then [[]] else []
  | limit, true, c :: rest =>
    if isBlank c then [] :: words isBlank (limit - 1) false rest
    else (words isBlank limit true rest).modifyHead (c :: ·)
  | limit, false, c :: rest =>
    if isBlank c then words isBlank limit false rest
    else if limit = 0 then [c :: rest]
    else (words isBlank limit true rest).modifyHead (c :: ·)

/-- The words of a text, cut from the right. -/
def wordsFromEnd (isBlank : Char → Bool) (limit : Nat) (s : Text) : List Text :=
  ((words isBlank limit false s.reverse).map List.reverse).reverse

/-! ## Cuts at line ends -/

/-- Whether a character ends a line. -/
def isLineEnd (c : Char) : Bool :=
  c = '\n' || c = '\r' || c = '\x0b' || c = '\x0c' || (0x1C ≤ c.toNat && c.toNat ≤ 0x1E) ||
    c.toNat = 0x85 || c.toNat = 0x2028 || c.toNat = 0x2029

/-- The lines of a text, with what ends them or without it. -/
def linesAt (isEnd : Char → Bool) (keepsEnds : Bool) : Text → List Text
  | [] => []
  | '\r' :: '\n' :: rest =>
    (if keepsEnds then ['\r', '\n'] else []) :: linesAt isEnd keepsEnds rest
  | c :: rest =>
    if isEnd c then (if keepsEnds then [c] else []) :: linesAt isEnd keepsEnds rest
    else if rest.isEmpty then [[c]]
    else (linesAt isEnd keepsEnds rest).modifyHead (c :: ·)

/-! ## Laws -/

/-- There is a piece in front of the first separator. -/
theorem cutAt_ne_nil (separator : Text) (limit skip : Nat) (s : Text) :
    cutAt separator limit skip s ≠ [] := by
  fun_induction cutAt separator limit skip s <;> simp_all

/-- A first piece that grows at its front does so in the whole as well. -/
theorem join_modifyHead (separator : Text) (c : Char) {pieces : List Text} (h : pieces ≠ []) :
    join separator (pieces.modifyHead (c :: ·)) = c :: join separator pieces := by
  match pieces, h with
  | [piece], _ => simp [join]
  | piece :: next :: rest, _ => simp [join, List.intercalate_cons_cons]

end EventPipeline.Text
