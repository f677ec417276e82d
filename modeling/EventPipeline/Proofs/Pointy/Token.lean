import EventPipeline.Proofs.Pointy.Line

/-!
# Cutting texts into tokens

A text is a gap, the characters of its first token, and a rest that the other tokens are cut from
(`exists_of_tokensFrom_eq_cons`), where a gap is any run of the three characters that are passed
over between tokens. So every token stands in the text at its position
(`exists_append_of_mem_tokensFrom`), no two overlap, and what is outside of all of them is gaps.

What a token looks like follows from the choice that is made at its first character. Here the rules
for the kinds of tokens are stated by themselves (`TokenKind.Describes`): identifiers and comments
go on as far as they can, and a character becomes a token of its own only where no rule describes
anything.
-/

namespace EventPipeline.Pointy

/-! ## Gaps -/

/-- A run of spaces, tabs and carriage returns. -/
def IsGap (t : Text) : Prop :=
  ∀ c ∈ t, c = ' ' ∨ c = '\t' ∨ c = '\r'

/-- The characters of gaps are those that are passed over between tokens. -/
lemma isSkipped_iff (c : Char) : isSkipped c = true ↔ c = ' ' ∨ c = '\t' ∨ c = '\r' := by
  simp [isSkipped, or_assoc]

/-- A gap in front of a text is passed over. -/
lemma tokensFrom_gap {gap : Text} (h : IsGap gap) (position : Nat) (rest : Text) :
    tokensFrom 0 position (gap ++ rest) = tokensFrom 0 (position + gap.length) rest := by
  induction gap generalizing position with
  | nil => rfl
  | cons c more ih =>
    obtain ⟨hc, hmore⟩ := List.forall_mem_cons.1 h
    rw [List.cons_append, tokensFrom, if_pos ((isSkipped_iff c).2 hc), ih hmore, List.length_cons]
    congr 1
    omega

/-- A text without tokens is a gap. -/
lemma isGap_of_tokensFrom_eq_nil {position : Nat} {s : Text} (h : tokensFrom 0 position s = []) :
    IsGap s := by
  induction s generalizing position with
  | nil => exact List.forall_mem_nil _
  | cons c rest ih =>
    rw [tokensFrom] at h
    split at h
    · rename_i hc
      exact List.forall_mem_cons.2 ⟨(isSkipped_iff c).1 hc, ih h⟩
    · contradiction

/-! ## First tokens -/

/-- What belongs to a token stands behind its first character. -/
lemma prefix_lexeme (c : Char) (rest : Text) : (lexeme c rest).2 <+: rest := by
  have hhead : ∀ d, rest.head? = some d → [d] <+: rest := by
    intro d hd
    obtain ⟨more, rfl⟩ := List.head?_eq_some_iff.1 hd
    exact ⟨more, rfl⟩
  unfold lexeme
  split_ifs with _ _ _ harrow _
  · exact List.takeWhile_prefix _
  · exact List.nil_prefix
  · exact List.nil_prefix
  · exact hhead '>' harrow.2
  · exact List.takeWhile_prefix _
  · exact List.nil_prefix

/-- A text that has a first token is a gap, that token, and a rest with the other tokens. -/
lemma exists_of_tokensFrom_eq_cons {position : Nat} {s : Text} {t : Token} {ts : List Token}
    (h : tokensFrom 0 position s = t :: ts) :
    ∃ gap rest, IsGap gap ∧ s = gap ++ (t.text ++ rest) ∧ t.position = position + gap.length ∧
      tokensFrom 0 (t.position + t.text.length) rest = ts ∧
      ∃ c more, t.text = c :: more ∧ lexeme c (more ++ rest) = (t.kind, more) := by
  induction s generalizing position with
  | nil => contradiction
  | cons c s ih =>
    rw [tokensFrom] at h
    split at h
    · rename_i hc
      obtain ⟨gap, rest, hgap, rfl, hposition, hrest, htoken⟩ := ih h
      refine ⟨c :: gap, rest, List.forall_mem_cons.2 ⟨(isSkipped_iff c).1 hc, hgap⟩, rfl, ?_,
        hrest, htoken⟩
      rw [hposition, List.length_cons]
      omega
    · obtain ⟨rest, hrest⟩ := prefix_lexeme c s
      cases hlex : lexeme c s with
      | mk kind more =>
        rw [hlex] at h hrest
        obtain ⟨rfl, rfl⟩ := List.cons.inj h
        refine ⟨[], rest, List.forall_mem_nil _, ?_, rfl, ?_, c, more, rfl, ?_⟩
        · exact congrArg (c :: ·) hrest.symm
        · rw [← hrest, tokensFrom_skip, Nat.add_assoc, Nat.add_comm 1]
          rfl
        · rw [hrest, hlex]

/-! ## What rules describe -/

/-- The texts that the rule for a kind of tokens describes. There is no rule for characters that
begin nothing else. -/
def TokenKind.Describes : TokenKind → Text → Prop
  | .identifier, t => isIdentifier t = true
  | .leftBrace, t => t = ['{']
  | .rightBrace, t => t = ['}']
  | .arrow, t => t = ['-', '>']
  | .comment, t => ∃ more, t = '/' :: '/' :: more ∧ '\n' ∉ more
  | .stray, _ => False

/-- A run of characters of a class that is not cut short ends in front of another character. -/
lemma eq_false_of_takeWhile_append {p : Char → Bool} {more rest : Text}
    (h : (more ++ rest).takeWhile p = more) : ∀ c ∈ rest.head?, p c = false := by
  have hmore : ∀ c ∈ more, p c = true := by
    intro c hc
    rw [← h] at hc
    exact List.mem_takeWhile_imp hc
  rw [List.takeWhile_append_of_pos hmore, List.append_right_eq_self] at h
  cases rest with
  | nil => rintro c ⟨⟩
  | cons first rest =>
    rintro c ⟨⟩
    by_contra hp
    rw [List.takeWhile_cons_of_pos (by simpa using hp)] at h
    contradiction

section Lexeme

variable {c : Char} {more rest : Text} {kind : TokenKind}

/-- The token of an identifier is the longest one. -/
lemma identifier_of_lexeme (h : lexeme c (more ++ rest) = (.identifier, more)) :
    isIdentifier (c :: more) = true ∧
      (c :: (more ++ rest)).takeWhile isIdentifierPart = c :: more := by
  have hidentifier : isIdentifier (c :: (lexeme c (more ++ rest)).2) = true :=
    isIdentifier_lexeme (by rw [h])
  rw [h] at hidentifier
  have hpart := isIdentifierPart_of_mem hidentifier List.mem_cons_self
  refine ⟨hidentifier, ?_⟩
  rw [List.takeWhile_cons_of_pos hpart]
  rw [isIdentifier, Bool.and_eq_true] at hidentifier
  rw [lexeme, if_pos hidentifier.1, Prod.mk.injEq] at h
  rw [h.2]

/-- The token of an opening brace is that brace. -/
lemma leftBrace_of_lexeme (h : lexeme c (more ++ rest) = (.leftBrace, more)) :
    c :: more = ['{'] := by
  unfold lexeme at h
  split_ifs at h with _ hc <;> cases h
  rw [hc]

/-- The token of a closing brace is that brace. -/
lemma rightBrace_of_lexeme (h : lexeme c (more ++ rest) = (.rightBrace, more)) :
    c :: more = ['}'] := by
  unfold lexeme at h
  split_ifs at h with _ _ hc <;> cases h
  rw [hc]

/-- The token of an arrow is that arrow. -/
lemma arrow_of_lexeme (h : lexeme c (more ++ rest) = (.arrow, more)) : c :: more = ['-', '>'] := by
  unfold lexeme at h
  split_ifs at h with _ _ _ hc <;> cases h
  rw [hc.1]

/-- The token of a comment is two slashes and the rest of the line. -/
lemma comment_of_lexeme (h : lexeme c (more ++ rest) = (.comment, more)) :
    (∃ behind, c :: more = '/' :: '/' :: behind ∧ '\n' ∉ behind) ∧
      ∀ d ∈ rest.head?, d = '\n' := by
  unfold lexeme at h
  split_ifs at h with _ _ _ _ hc <;>
    simp only [Prod.mk.injEq, reduceCtorEq, false_and, true_and] at h
  obtain ⟨rfl, hhead⟩ := hc
  have hmore : ∀ d ∈ more, d ≠ '\n' := by
    intro d hd
    rw [← h] at hd
    simpa using List.mem_takeWhile_imp hd
  obtain ⟨behind, hbehind⟩ := List.head?_eq_some_iff.1 hhead
  refine ⟨?_, fun d hd => by simpa using eq_false_of_takeWhile_append h d hd⟩
  cases more with
  | nil =>
    rw [List.nil_append] at hbehind h
    rw [hbehind] at h
    contradiction
  | cons d more =>
    obtain ⟨rfl, -⟩ := List.cons.inj hbehind
    exact ⟨more, rfl, fun hmem => hmore _ (List.mem_cons_of_mem _ hmem) rfl⟩

/-- Where a character becomes a token of its own, no rule describes anything in front. -/
lemma stray_of_lexeme (h : lexeme c (more ++ rest) = (.stray, more)) :
    more = [] ∧ ∀ kind front, front <+: c :: rest → ¬TokenKind.Describes kind front := by
  unfold lexeme at h
  split_ifs at h with hidentifier hleft hright harrow hcomment <;>
    simp only [Prod.mk.injEq, reduceCtorEq, false_and, true_and] at h
  subst h
  rw [List.nil_append] at harrow hcomment
  refine ⟨rfl, fun kind front hfront hdescribed => ?_⟩
  -- What a rule describes is not empty, and its first two characters decide the choice.
  have hhead : ∀ d behind, front = d :: behind → d = c ∧ behind <+: rest := by
    rintro d behind rfl
    exact List.cons_prefix_cons.1 hfront
  cases kind with
  | identifier =>
    cases front with
    | nil => contradiction
    | cons d behind =>
      obtain ⟨rfl, -⟩ := hhead d behind rfl
      rw [TokenKind.Describes, isIdentifier, Bool.and_eq_true] at hdescribed
      exact hidentifier hdescribed.1
  | leftBrace => exact hleft (hhead _ _ hdescribed).1.symm
  | rightBrace => exact hright (hhead _ _ hdescribed).1.symm
  | arrow =>
    obtain ⟨rfl, behind, rfl⟩ := hhead _ _ hdescribed
    exact harrow ⟨rfl, rfl⟩
  | comment =>
    obtain ⟨more, rfl, -⟩ := hdescribed
    obtain ⟨rfl, behind, rfl⟩ := hhead _ _ rfl
    exact hcomment ⟨rfl, rfl⟩
  | stray => exact hdescribed

/-- A token that is not a character by itself is described by the rule for its kind. -/
lemma describes_of_lexeme (h : lexeme c (more ++ rest) = (kind, more)) (hkind : kind ≠ .stray) :
    kind.Describes (c :: more) := by
  cases kind with
  | identifier => exact (identifier_of_lexeme h).1
  | leftBrace => exact leftBrace_of_lexeme h
  | rightBrace => exact rightBrace_of_lexeme h
  | arrow => exact arrow_of_lexeme h
  | comment => exact (comment_of_lexeme h).1
  | stray => exact absurd rfl hkind

end Lexeme

/-! ## All tokens -/

/-- A token stands in the text at its position, cut as its first character decides. -/
lemma exists_append_of_mem_tokensFrom {position : Nat} {s : Text} {t : Token}
    (h : t ∈ tokensFrom 0 position s) :
    ∃ front rest, s = front ++ (t.text ++ rest) ∧ t.position = position + front.length ∧
      ∃ c more, t.text = c :: more ∧ lexeme c (more ++ rest) = (t.kind, more) := by
  generalize hts : tokensFrom 0 position s = ts at h
  induction ts generalizing position s with
  | nil => contradiction
  | cons first ts ih =>
    obtain ⟨gap, rest, -, rfl, hposition, hrest, hlex⟩ := exists_of_tokensFrom_eq_cons hts
    rcases List.mem_cons.1 h with rfl | h
    · exact ⟨gap, rest, rfl, hposition, hlex⟩
    · obtain ⟨front, rest', rfl, hposition', hlex'⟩ := ih hrest h
      refine ⟨gap ++ (first.text ++ front), rest', ?_, ?_, hlex'⟩
      · simp only [List.append_assoc]
      · rw [hposition', hposition, List.length_append, List.length_append]
        omega

/-- Tokens do not overlap. -/
lemma pairwise_tokensFrom (position : Nat) (s : Text) :
    (tokensFrom 0 position s).Pairwise fun t t' => t.position + t.text.length ≤ t'.position := by
  generalize hts : tokensFrom 0 position s = ts
  induction ts generalizing position s with
  | nil => exact List.Pairwise.nil
  | cons first ts ih =>
    obtain ⟨-, rest, -, -, -, hrest, -⟩ := exists_of_tokensFrom_eq_cons hts
    refine List.pairwise_cons.2 ⟨fun t ht => ?_, ih _ _ hrest⟩
    rw [← hrest] at ht
    obtain ⟨front, -, -, hposition, -⟩ := exists_append_of_mem_tokensFrom ht
    omega

/-- A character outside of all tokens belongs to a gap. -/
lemma isGap_of_outside {position i : Nat} {s : Text} {c : Char} (hc : s[i]? = some c)
    (h : ∀ t ∈ tokensFrom 0 position s,
      position + i < t.position ∨ t.position + t.text.length ≤ position + i) :
    IsGap [c] := by
  generalize hts : tokensFrom 0 position s = ts at h
  induction ts generalizing position i s with
  | nil =>
    have hgap := isGap_of_tokensFrom_eq_nil hts
    exact List.forall_mem_singleton.2 (hgap c (List.mem_of_getElem? hc))
  | cons first ts ih =>
    obtain ⟨gap, rest, hgap, rfl, hposition, hrest, -⟩ := exists_of_tokensFrom_eq_cons hts
    obtain ⟨hfirst, hothers⟩ := List.forall_mem_cons.1 h
    rcases hfirst with hbefore | hbehind
    · rw [List.getElem?_append_left (by omega)] at hc
      exact List.forall_mem_singleton.2 (hgap c (List.mem_of_getElem? hc))
    · rw [List.getElem?_append_right (by omega), List.getElem?_append_right (by omega)] at hc
      refine ih hc hrest fun t ht => ?_
      have := hothers t ht
      omega

/-! ## The tokens of a text -/

section Tokens

variable {s : Text} {t : Token}

/-- A token is cut from what stands at its position, as its first character decides. -/
lemma exists_drop_of_mem_tokens (ht : t ∈ tokens s) :
    ∃ rest, s.drop t.position = t.text ++ rest ∧
      s[t.position + t.text.length]? = rest.head? ∧
      ∃ c more, t.text = c :: more ∧ lexeme c (more ++ rest) = (t.kind, more) := by
  obtain ⟨front, rest, hs, hposition, hlex⟩ := exists_append_of_mem_tokensFrom ht
  rw [Nat.zero_add] at hposition
  have hdrop : s.drop t.position = t.text ++ rest := by rw [hs, hposition, List.drop_left]
  refine ⟨rest, hdrop, ?_, hlex⟩
  rw [← List.getElem?_drop, hdrop, List.getElem?_append_right le_rfl, Nat.sub_self,
    List.head?_eq_getElem?]

/-- Every token has a character. -/
lemma text_ne_nil_of_mem_tokens (ht : t ∈ tokens s) : t.text ≠ [] := by
  obtain ⟨-, -, -, c, more, htext, -⟩ := exists_drop_of_mem_tokens ht
  rw [htext]
  exact List.cons_ne_nil c more

/-- A token is described by the rule for its kind. -/
lemma describes_of_mem_tokens (ht : t ∈ tokens s) (hkind : t.kind ≠ .stray) :
    t.kind.Describes t.text := by
  obtain ⟨rest, -, -, c, more, htext, hlex⟩ := exists_drop_of_mem_tokens ht
  rw [htext]
  exact describes_of_lexeme hlex hkind

/-- No character behind an identifier could belong to it. -/
lemma identifier_of_mem_tokens (ht : t ∈ tokens s) (hkind : t.kind = .identifier) :
    isIdentifier t.text = true ∧
      ∀ c ∈ s[t.position + t.text.length]?, isIdentifierPart c = false := by
  obtain ⟨rest, -, hbehind, c, more, htext, hlex⟩ := exists_drop_of_mem_tokens ht
  rw [hkind] at hlex
  obtain ⟨hidentifier, hlongest⟩ := identifier_of_lexeme hlex
  rw [← List.cons_append] at hlongest
  rw [hbehind, htext]
  exact ⟨hidentifier, eq_false_of_takeWhile_append hlongest⟩

/-- A comment begins with two slashes and goes on to the end of its line. -/
lemma comment_of_mem_tokens (ht : t ∈ tokens s) (hkind : t.kind = .comment) :
    ['/', '/'] <+: t.text ∧ '\n' ∉ t.text ∧
      ∀ c ∈ s[t.position + t.text.length]?, c = '\n' := by
  obtain ⟨rest, -, hbehind, c, more, htext, hlex⟩ := exists_drop_of_mem_tokens ht
  rw [hkind] at hlex
  obtain ⟨⟨behind, hslashes, hline⟩, hend⟩ := comment_of_lexeme hlex
  rw [hbehind, htext, hslashes]
  refine ⟨⟨behind, rfl⟩, ?_, hend⟩
  simpa using hline

/-- A character by itself stands where no rule describes anything. -/
lemma stray_of_mem_tokens (ht : t ∈ tokens s) (hkind : t.kind = .stray) :
    t.text.length = 1 ∧
      ∀ kind front, front <+: s.drop t.position → ¬TokenKind.Describes kind front := by
  obtain ⟨rest, hdrop, -, c, more, htext, hlex⟩ := exists_drop_of_mem_tokens ht
  rw [hkind] at hlex
  obtain ⟨rfl, hnone⟩ := stray_of_lexeme hlex
  rw [hdrop, htext]
  exact ⟨rfl, hnone⟩

/-- An identifier is a text that is cut into itself. -/
lemma isIdentifier_iff_tokens : isIdentifier s = true ↔ tokens s = [⟨.identifier, s, 0⟩] := by
  constructor
  · intro h
    exact tokensFrom_singleton h 0
  · intro h
    have hmem : ⟨.identifier, s, 0⟩ ∈ tokens s := by simp [h]
    exact isIdentifier_of_mem_tokensFrom hmem rfl

end Tokens

/-- Cutting a text into tokens loses and invents nothing. The tokens stand in order, one behind the
other, each where its position says, and all characters outside of them are spaces, tabs and
carriage returns. Each is described by the rule for its kind; an identifier goes on as far as it
can, a comment to the end of the line, and a character is a token of its own only where no rule
describes anything. An identifier is a text that is cut into itself. -/
theorem tokens_partition (s : Text) :
    ((tokens s).Pairwise fun t t' => t.position < t'.position ∧
      t.position + t.text.length ≤ t'.position) ∧
    (∀ t ∈ tokens s, t.text ≠ [] ∧ (s.drop t.position).take t.text.length = t.text) ∧
    (∀ i c, s[i]? = some c →
      (∀ t ∈ tokens s, ¬(t.position ≤ i ∧ i < t.position + t.text.length)) →
        c = ' ' ∨ c = '\t' ∨ c = '\r') ∧
    (∀ t ∈ tokens s, t.kind ≠ .stray → t.kind.Describes t.text) ∧
    (∀ t ∈ tokens s, t.kind = .identifier → isIdentifier t.text = true ∧
      ∀ c ∈ s[t.position + t.text.length]?, isIdentifierPart c = false) ∧
    (∀ t ∈ tokens s, t.kind = .comment → ['/', '/'] <+: t.text ∧ '\n' ∉ t.text ∧
      ∀ c ∈ s[t.position + t.text.length]?, c = '\n') ∧
    (∀ t ∈ tokens s, t.kind = .stray → t.text.length = 1 ∧
      ∀ kind front, front <+: s.drop t.position → ¬TokenKind.Describes kind front) ∧
    (isIdentifier s = true ↔ tokens s = [⟨.identifier, s, 0⟩]) := by
  refine ⟨?_, ?_, ?_, fun t => describes_of_mem_tokens, fun t => identifier_of_mem_tokens,
    fun t => comment_of_mem_tokens, fun t => stray_of_mem_tokens, isIdentifier_iff_tokens⟩
  · apply (pairwise_tokensFrom 0 s).imp_of_mem
    intro t t' ht _ hle
    have hlength := List.length_pos_iff.2 (text_ne_nil_of_mem_tokens ht)
    constructor
    · omega
    · exact hle
  · intro t ht
    obtain ⟨rest, hdrop, -⟩ := exists_drop_of_mem_tokens ht
    rw [hdrop, List.take_left]
    exact ⟨text_ne_nil_of_mem_tokens ht, rfl⟩
  · intro i c hc hout
    apply isGap_of_outside hc
    · intro t ht
      have := hout t ht
      omega
    · simp

/-- A carriage return belongs to the comment that it stands in, a line feed does not, and one hyphen
is no arrow. -/
example : tokens ['a', '1', '\r', '-', '/', '/', ' ', '\r', '\n', '9'] =
    [⟨.identifier, ['a', '1'], 0⟩, ⟨.stray, ['-'], 3⟩, ⟨.comment, ['/', '/', ' ', '\r'], 4⟩,
      ⟨.stray, ['\n'], 8⟩, ⟨.stray, ['9'], 9⟩] := by decide

end EventPipeline.Pointy
