import EventPipeline.Json.Parser
import EventPipeline.Json.Printer
import EventPipeline.Proofs.Encoding.Utf16

/-!
# Quoted texts

Every text reads back from between its quotes (`quoted_quote`). The escape of a character is read as
just this character, whatever follows it: one letter, one code unit, or a pair of surrogates, which
is never taken for two characters because the first half alone is none.
-/

namespace EventPipeline.Json

/-! ## Hexadecimal digits -/

/-- A numeral that is padded to one digit more ends with the last digit of the number. -/
lemma ofHex_succ {k : Nat} (hk : 0 < k) (n : Nat) :
    Text.ofHex (k + 1) n = Text.ofHex k (n / 16) ++ [Nat.digitChar (n % 16)] := by
  unfold Text.ofHex
  rcases Nat.lt_or_ge n 16 with hn | hn
  · obtain ⟨j, rfl⟩ := Nat.exists_eq_add_one_of_ne_zero (Nat.ne_of_gt hk)
    rw [Nat.div_eq_of_lt hn, Nat.mod_eq_of_lt hn, Nat.toDigits_zero, Nat.toDigits_of_lt_base hn]
    simp [List.replicate_succ']
  · rw [Nat.toDigits_of_base_le (by decide) hn]
    simp

/-- Four hexadecimal digits. -/
lemma ofHex_four {u : Nat} (hu : u < 65536) :
    Text.ofHex 4 u = [Nat.digitChar (u / 4096), Nat.digitChar (u / 256 % 16),
      Nat.digitChar (u / 16 % 16), Nat.digitChar (u % 16)] := by
  have hfirst : Text.ofHex 1 (u / 16 / 16 / 16) = [Nat.digitChar (u / 4096)] := by
    rw [Text.ofHex, Nat.div_div_eq_div_mul, Nat.div_div_eq_div_mul,
      Nat.toDigits_of_lt_base (by omega)]
    rfl
  rw [ofHex_succ (by decide), ofHex_succ (by decide), ofHex_succ (by decide), hfirst,
    Nat.div_div_eq_div_mul]
  rfl

/-- A hexadecimal digit has its value. -/
lemma hexValue?_digitChar {n : Nat} (hn : n < 16) : hexValue? (Nat.digitChar n) = some n := by
  have hall : ∀ m, m < 16 → hexValue? (Nat.digitChar m) = some m := by decide
  exact hall n hn

/-- The code unit of four digits is read if anything follows them. -/
lemma unit?_ofHex {u : Nat} (hu : u < 65536) {rest : Text} (hrest : rest ≠ []) :
    unit? (Text.ofHex 4 u ++ rest) = some u := by
  obtain ⟨c, rest, rfl⟩ := List.exists_cons_of_ne_nil hrest
  rw [ofHex_four hu]
  simp only [List.cons_append, List.nil_append, unit?,
    hexValue?_digitChar (show u % 16 < 16 by omega),
    hexValue?_digitChar (show u / 16 % 16 < 16 by omega),
    hexValue?_digitChar (show u / 256 % 16 < 16 by omega),
    hexValue?_digitChar (show u / 4096 < 16 by omega)]
  congr 1
  omega

/-- Four digits are four characters. -/
lemma length_ofHex {u : Nat} (hu : u < 65536) : (Text.ofHex 4 u).length = 4 := by
  rw [ofHex_four hu]
  rfl

/-! ## Escapes -/

/-- The text behind the digits of an escape. -/
lemma drop_ofHex {u : Nat} (hu : u < 65536) (rest : Text) :
    (Text.ofHex 4 u ++ rest).drop 4 = rest :=
  List.drop_left' (length_ofHex hu)

/-- The escape of a character of the first plane is read as the character. -/
lemma escape_unit (start : Text) {c : Char} (hc : c.toNat < 0x10000) {rest : Text}
    (hrest : rest ≠ []) :
    escape start ('u' :: (Text.ofHex 4 c.toNat ++ rest)) = .ok (c, 5) := by
  rw [escape, unit?_ofHex hc hrest]
  dsimp only
  rw [drop_ofHex hc, charOfUnit_toNat, Utf16.isHigh_toNat]
  split <;> rfl

/-- The escapes of a pair are read as the character. -/
lemma escape_pair (start : Text) {c : Char} {high low : Nat} (h : Utf16.IsPair c high low) {rest : Text}
    (hrest : rest ≠ []) :
    escape start ('u' :: (Text.ofHex 4 high ++ (unitEscape low ++ rest))) = .ok (c, 11) := by
  have hmore : 4 < (Text.ofHex 4 low ++ rest).length := by
    have := List.length_pos_iff.2 hrest
    rw [List.length_append, length_ofHex h.low_lt]
    omega
  rw [escape, unit?_ofHex h.high_lt (by simp [unitEscape])]
  dsimp only
  rw [drop_ofHex h.high_lt, unitEscape]
  simp only [List.cons_append, h.isHigh, hmore, decide_true, Bool.and_self, if_true,
    unit?_ofHex h.low_lt hrest, h.isLow, h.joinPair, Char.ofNat_toNat]

/-! ## Texts -/

/-- What is skipped can be dropped. -/
lemma quoted_skip (start : Text) (skip : Nat) (s : Text) :
    quoted start skip s = quoted start 0 (s.drop skip) := by
  induction skip generalizing s with
  | zero => rfl
  | succ skip ih =>
    cases s with
    | nil => rfl
    | cons c s => exact ih s

/-- An escape is read, and then what follows it. -/
lemma quoted_escape {start : Text} {c : Char} {escaped rest : Text} {taken : Nat}
    (h : escape start (escaped ++ rest) = .ok (c, taken)) (htaken : escaped.length = taken) :
    quoted start 0 ('\\' :: (escaped ++ rest)) =
      (quoted start 0 rest).map fun p => (c :: p.1, p.2) := by
  rw [quoted, if_neg (by decide), if_pos rfl, h]
  dsimp only
  rw [quoted_skip, List.drop_left' htaken]
  cases quoted start 0 rest <;> rfl

/-- A letter behind a backslash is read as its character. -/
lemma quoted_letter (start : Text) {letter c : Char} (hu : letter ≠ 'u')
    (h : letterEscape? letter = some c) (rest : Text) :
    quoted start 0 ('\\' :: letter :: rest) =
      (quoted start 0 rest).map fun p => (c :: p.1, p.2) := by
  have hescape : escape start ([letter] ++ rest) = .ok (c, 1) := by
    rw [List.singleton_append, escape]
    · rw [h]
    · exact hu
  exact quoted_escape hescape rfl

/-- A printable character other than the quote and the backslash is read as it is. -/
lemma quoted_plain (start : Text) {c : Char} (hquote : c ≠ '"') (hslash : c ≠ '\\')
    (hc : 0x20 ≤ c.toNat) (rest : Text) :
    quoted start 0 (c :: rest) = (quoted start 0 rest).map fun p => (c :: p.1, p.2) := by
  rw [quoted, if_neg hquote, if_neg hslash, if_neg (Nat.not_lt.2 hc)]
  cases quoted start 0 rest <;> rfl

/-- The escapes of a pair between quotes are read as the character. -/
lemma quoted_pair (start : Text) {c : Char} {high low : Nat} (h : Utf16.IsPair c high low) {rest : Text}
    (hrest : rest ≠ []) :
    quoted start 0 (unitEscape high ++ unitEscape low ++ rest) =
      (quoted start 0 rest).map fun p => (c :: p.1, p.2) := by
  have hshape : unitEscape high ++ unitEscape low ++ rest =
      '\\' :: (('u' :: (Text.ofHex 4 high ++ unitEscape low)) ++ rest) := by
    simp [unitEscape]
  have hescape : escape start (('u' :: (Text.ofHex 4 high ++ unitEscape low)) ++ rest) =
      .ok (c, 11) := by
    rw [List.cons_append, List.append_assoc]
    exact escape_pair start h hrest
  have hlength : ('u' :: (Text.ofHex 4 high ++ unitEscape low)).length = 11 := by
    simp [unitEscape, length_ofHex h.high_lt, length_ofHex h.low_lt]
  rw [hshape, quoted_escape hescape hlength]

/-- The escape of a character is read as this character, whatever follows. -/
lemma quoted_escapeChar (start : Text) (c : Char) {rest : Text} (hrest : rest ≠ []) :
    quoted start 0 (escapeChar c ++ rest) =
      (quoted start 0 rest).map fun p => (c :: p.1, p.2) := by
  have hletter : ∀ n, c.toNat = n → c = Char.ofNat n := fun n hn => by
    rw [← hn, Char.ofNat_toNat]
  unfold escapeChar
  split
  · rename_i h
    exact quoted_letter start (by decide) (by rw [h]; rfl) rest
  · rename_i hquote
    split
    · rename_i h
      exact quoted_letter start (by decide) (by rw [h]; rfl) rest
    · rename_i hslash
      split
      · rename_i h
        exact quoted_letter start (by decide) (by rw [h]; rfl) rest
      split
      · rename_i h
        exact quoted_letter start (by decide) (by rw [h]; rfl) rest
      split
      · rename_i h
        exact quoted_letter start (by decide) (by rw [h]; rfl) rest
      split
      · rename_i h
        exact quoted_letter start (by decide) (by rw [hletter 12 h]; rfl) rest
      split
      · rename_i h
        exact quoted_letter start (by decide) (by rw [hletter 8 h]; rfl) rest
      split
      · rename_i h
        exact quoted_plain start hquote hslash h.1 rest
      split
      · rename_i h
        have hescape : escape start (('u' :: Text.ofHex 4 c.toNat) ++ rest) = .ok (c, 5) :=
          escape_unit start h hrest
        exact quoted_escape hescape (by rw [List.length_cons, length_ofHex h])
      · rename_i h
        exact quoted_pair start (Utf16.isPair_of_le (Nat.not_lt.1 h)) hrest

/-- A text reads back from between its quotes. -/
lemma quoted_quote (start s rest : Text) :
    quoted start 0 (s.flatMap escapeChar ++ '"' :: rest) = .ok (s, rest) := by
  induction s with
  | nil => rw [List.flatMap_nil, List.nil_append, quoted, if_pos rfl]
  | cons c s ih =>
    rw [List.flatMap_cons, List.append_assoc, quoted_escapeChar start c (by simp), ih]
    rfl

end EventPipeline.Json
