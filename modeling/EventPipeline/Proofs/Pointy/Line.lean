import EventPipeline.Pointy.Reader
import EventPipeline.Proofs.Text.Lines

/-!
# Lines that open a block and lines that connect

The two kinds of lines that the writer makes besides code are read back as what they were written
for: `ofText_header` and `ofText_connection`. Both rest on `tokensFrom_identifier`, by which an
identifier in front of something that cannot continue it is one token. The other way round, every
name that any line says is an identifier (`hasIdentifiers_ofText`).
-/

namespace EventPipeline

/-! ## The characters of identifiers -/

/-- The code points of the characters that identifiers hold. -/
lemma toNat_of_isIdentifierPart {c : Char} (h : isIdentifierPart c = true) :
    (48 ≤ c.toNat ∧ c.toNat ≤ 57) ∨ (65 ≤ c.toNat ∧ c.toNat ≤ 90) ∨ c.toNat = 95 ∨
      (97 ≤ c.toNat ∧ c.toNat ≤ 122) := by
  have hupper : c.isUpper = decide (65 ≤ c.val ∧ c.val ≤ 90) := rfl
  have hlower : c.isLower = (decide (97 ≤ c.val) && decide (c.val ≤ 122)) := rfl
  have halpha : c.isAlpha = (c.isUpper || c.isLower) := rfl
  simp only [isIdentifierPart, Char.isAlphanum, halpha, hupper, hlower, Char.isDigit,
    Bool.or_eq_true, Bool.and_eq_true, decide_eq_true_eq, beq_iff_eq, ge_iff_le,
    UInt32.le_iff_toNat_le] at h
  unfold Char.toNat
  rcases h with ((h | h) | h) | rfl
  · exact Or.inr (Or.inl h)
  · exact Or.inr (Or.inr (Or.inr h))
  · exact Or.inl h
  · exact Or.inr (Or.inr (Or.inl rfl))

/-- What can begin an identifier can go on with one. -/
lemma isIdentifierPart_of_isIdentifierStart {c : Char} (h : isIdentifierStart c = true) :
    isIdentifierPart c = true := by
  simp only [isIdentifierStart, isIdentifierPart, Char.isAlphanum, Bool.or_eq_true] at h ⊢
  tauto

/-- What can begin an identifier is what can go on with one and is no digit. -/
lemma isIdentifierStart_iff (c : Char) :
    isIdentifierStart c = true ↔ isIdentifierPart c = true ∧ c.isDigit = false := by
  constructor
  · intro h
    refine ⟨isIdentifierPart_of_isIdentifierStart h, ?_⟩
    by_contra hdigit
    have hupper : c.isUpper = decide (65 ≤ c.val ∧ c.val ≤ 90) := rfl
    have hlower : c.isLower = (decide (97 ≤ c.val) && decide (c.val ≤ 122)) := rfl
    have halpha : c.isAlpha = (c.isUpper || c.isLower) := rfl
    simp only [isIdentifierStart, halpha, hupper, hlower, Char.isDigit, Bool.not_eq_false,
      Bool.or_eq_true, Bool.and_eq_true, decide_eq_true_eq, beq_iff_eq, ge_iff_le,
      UInt32.le_iff_toNat_le] at h hdigit
    rcases h with (h | h) | rfl
    · exact absurd (h.1.trans hdigit.2) (by decide)
    · exact absurd (h.1.trans hdigit.2) (by decide)
    · exact absurd hdigit.2 (by decide)
  · rintro ⟨h, hdigit⟩
    simpa [isIdentifierPart, isIdentifierStart, Char.isAlphanum, hdigit] using h

/-- An identifier is a text of letters, digits and underscores that is not empty and does not begin
with a digit. -/
lemma isIdentifier_iff (name : Text) :
    isIdentifier name = true ↔
      name ≠ [] ∧ (∀ c ∈ name, isIdentifierPart c = true) ∧
        ∀ c ∈ name.head?, c.isDigit = false := by
  cases name with
  | nil => simp [isIdentifier]
  | cons first rest =>
    rw [isIdentifier, Bool.and_eq_true, isIdentifierStart_iff, List.all_eq_true,
      List.forall_mem_cons]
    simp only [ne_eq, reduceCtorEq, not_false_eq_true, true_and, List.head?_cons, Option.mem_def,
      Option.some.injEq, forall_eq']
    tauto

/-- No character of an identifier is a blank. -/
lemma isBlank_of_isIdentifierPart {c : Char} (h : isIdentifierPart c = true) :
    Text.isBlank c = false := by
  have := toNat_of_isIdentifierPart h
  simp only [Text.isBlank, Text.isSpace, Bool.or_eq_false_iff, Bool.and_eq_false_iff,
    decide_eq_false_iff_not, beq_eq_false_iff_ne]
  omega

/-- An identifier holds only characters that an identifier can go on with. -/
lemma isIdentifierPart_of_mem {name : Text} (h : isIdentifier name = true) {c : Char}
    (hc : c ∈ name) : isIdentifierPart c = true := by
  cases name with
  | nil => simp at hc
  | cons first rest =>
    simp only [isIdentifier, Bool.and_eq_true, List.all_eq_true] at h
    rcases List.mem_cons.1 hc with rfl | hc
    · exact isIdentifierPart_of_isIdentifierStart h.1
    · exact h.2 c hc

/-- An identifier holds no line feed. -/
lemma newline_not_mem_of_isIdentifier {name : Text} (h : isIdentifier name = true) :
    '\n' ∉ name := fun hc => by
  have := isIdentifierPart_of_mem h hc
  contradiction

namespace Pointy

/-! ## Tokens -/

/-- A character of an identifier is not passed over between tokens. -/
lemma isSkipped_of_isIdentifierPart {c : Char} (h : isIdentifierPart c = true) :
    isSkipped c = false := by
  have hb := isBlank_of_isIdentifierPart h
  simp only [isSkipped, Bool.or_eq_false_iff, beq_eq_false_iff_ne]
  refine ⟨⟨?_, ?_⟩, ?_⟩ <;> rintro rfl <;> simp [Text.isBlank, Text.isSpace] at hb

/-- An identifier in front of a character that cannot continue it is one token. -/
lemma tokensFrom_identifier {name rest : Text} (h : isIdentifier name = true)
    (hr : ∀ c ∈ rest.head?, isIdentifierPart c = false) (position : Nat) :
    tokensFrom 0 position (name ++ rest) =
      ⟨.identifier, name, position⟩ :: tokensFrom 0 (position + name.length) rest := by
  cases name with
  | nil => simp [isIdentifier] at h
  | cons c more =>
    have hc := isIdentifierPart_of_mem h List.mem_cons_self
    simp only [isIdentifier, Bool.and_eq_true] at h
    have hmore : (more ++ rest).takeWhile isIdentifierPart = more := by
      rw [List.takeWhile_append_of_pos (List.all_eq_true.1 h.2)]
      cases rest with
      | nil => simp
      | cons d rest => simp [hr d (by simp)]
    have hlex : lexeme c (more ++ rest) = (.identifier, more) := by
      rw [lexeme, if_pos h.1, hmore]
    rw [List.cons_append, tokensFrom, isSkipped_of_isIdentifierPart hc, if_neg Bool.false_ne_true,
      hlex]
    dsimp only
    rw [tokensFrom_skip, List.length_cons, Nat.add_assoc, Nat.add_comm 1]

/-- An identifier alone is one token. -/
lemma tokensFrom_singleton {name : Text} (h : isIdentifier name = true) (position : Nat) :
    tokensFrom 0 position name = [⟨.identifier, name, position⟩] := by
  have hnil : ∀ c ∈ ([] : Text).head?, isIdentifierPart c = false := by simp
  have := tokensFrom_identifier h hnil position
  rwa [List.append_nil, tokensFrom] at this

/-- What begins a token of the kind of identifiers makes an identifier with what belongs to it. -/
lemma isIdentifier_lexeme {c : Char} {rest : Text} (h : (lexeme c rest).1 = .identifier) :
    isIdentifier (c :: (lexeme c rest).2) = true := by
  unfold lexeme at h ⊢
  split_ifs at h ⊢ with hstart
  simp [isIdentifier, hstart, List.all_takeWhile]

/-- A token of the kind of identifiers is an identifier. -/
lemma isIdentifier_of_mem_tokensFrom {skip position : Nat} {s : Text} {t : Token}
    (ht : t ∈ tokensFrom skip position s) (hkind : t.kind = .identifier) :
    isIdentifier t.text = true := by
  fun_induction tokensFrom skip position s with
  | case1 => contradiction
  | case2 position skip c rest ih => exact ih ht
  | case3 position c rest hskipped ih => exact ih ht
  | case4 position c rest hskipped kind more hlex ih =>
    rcases List.mem_cons.1 ht with rfl | ht
    · have hmore : (lexeme c rest).1 = .identifier →
          isIdentifier (c :: (lexeme c rest).2) = true := isIdentifier_lexeme
      rw [hlex] at hmore
      exact hmore hkind
    · exact ih ht

/-! ## Lines -/

/-- The names in what a line says are identifiers. -/
def Line.HasIdentifiers : Line → Prop
  | silent => True
  | header name => isIdentifier name = true
  | connection source target => isIdentifier source = true ∧ isIdentifier target = true
  | unrecognized => True

/-- A line says nothing by a name that is no identifier. -/
lemma hasIdentifiers_ofText (line : Text) : (Line.ofText line).HasIdentifiers := by
  have htokens : ∀ ts : List Token,
      (∀ t ∈ ts, t.kind = .identifier → isIdentifier t.text = true) →
        (Line.ofTokens ts).HasIdentifiers := by
    intro ts h
    fun_cases Line.ofTokens ts with
    | case1 =>
      rw [List.forall_mem_cons] at h
      exact h.1 rfl
    | case2 =>
      rw [List.forall_mem_cons, List.forall_mem_cons, List.forall_mem_cons] at h
      exact ⟨h.1 rfl, h.2.2.1 rfl⟩
    | case3 => trivial
  unfold Line.ofText
  dsimp only
  split
  · trivial
  · exact htokens _ fun t ht hkind => isIdentifier_of_mem_tokensFrom ht hkind

/-- A line that begins with an identifier is not dropped when it is trimmed, and is no comment. -/
lemma ofText_of_identifier {name rest : Text} (h : isIdentifier name = true)
    (hl : ∀ c ∈ (name ++ rest).getLast?, Text.isBlank c = false) :
    Line.ofText (name ++ rest) = Line.ofTokens (tokens (name ++ rest)) := by
  cases name with
  | nil => simp [isIdentifier] at h
  | cons c more =>
    have hc := isIdentifierPart_of_mem h List.mem_cons_self
    have htrim : Text.trim (c :: (more ++ rest)) = c :: (more ++ rest) :=
      Text.trim_eq_self (by simpa using isBlank_of_isIdentifierPart hc) hl
    have hslash : c ≠ '/' := by
      rintro rfl
      contradiction
    simp [Line.ofText, htrim, isComment, Text.startsWith, Ne.symm hslash]

/-- A name and an opening brace are a header. -/
lemma ofText_header {name : Text} (h : isIdentifier name = true) :
    Line.ofText (name ++ [' ', '{']) = .header name := by
  rw [ofText_of_identifier h (by simp; decide), tokens,
    tokensFrom_identifier h (by simp; decide)]
  rfl

/-- Two names with an arrow between them are a connection. -/
lemma ofText_connection {source target : Text} (hs : isIdentifier source = true)
    (ht : isIdentifier target = true) :
    Line.ofText (source ++ [' ', '-', '>', ' '] ++ target) = .connection source target := by
  have hlast : ∀ c ∈ (source ++ ([' ', '-', '>', ' '] ++ target)).getLast?,
      Text.isBlank c = false := by
    have hne : target ≠ [] := by
      rintro rfl
      simp [isIdentifier] at ht
    intro c hc
    rw [← List.append_assoc, List.getLast?_append, List.getLast?_eq_some_getLast hne] at hc
    obtain rfl : target.getLast hne = c := by simpa using hc
    exact isBlank_of_isIdentifierPart (isIdentifierPart_of_mem ht (List.getLast_mem hne))
  have harrow : ∀ position, tokensFrom 0 position ([' ', '-', '>', ' '] ++ target) =
      ⟨.arrow, ['-', '>'], position + 1⟩ :: tokensFrom 0 (position + 4) target := fun _ => rfl
  rw [List.append_assoc, ofText_of_identifier hs hlast, tokens,
    tokensFrom_identifier hs (by simp; decide), harrow, tokensFrom_singleton ht]
  rfl

end Pointy

end EventPipeline
