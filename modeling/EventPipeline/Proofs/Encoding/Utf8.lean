import EventPipeline.Encoding.Utf8
import EventPipeline.Proofs.Result

/-!
# Text through UTF-8

Every text is read back from its bytes (`decode_encode`). The bytes of one character are read as
this character whatever follows: its first byte says how many tails there are, and the bounds on the
first tail rule out only what no character is written as. Being lenient makes no difference to bytes
that are a text anyway (`decodeLenient_of_decode`).
-/

namespace EventPipeline

/-- A byte has its value. -/
lemma toNat_byte {n : Nat} (h : n < 256) : (UInt8.ofNat n).toNat = n := by
  rw [UInt8.toNat_ofNat', Nat.mod_eq_of_lt h]

namespace Utf8

/-- A tail within its bounds is taken up. -/
lemma tails_cons {count least greatest bits n : Nat} {b : UInt8} {rest : Bytes}
    (hleast : least ≤ b.toNat) (hgreatest : b.toNat ≤ greatest)
    (h : tails count 0x80 0xBF (bits * 64 + (b.toNat - 0x80)) rest = .ok n) :
    tails (count + 1) least greatest bits (b :: rest) = .ok n := by
  rw [tails, if_pos ⟨hleast, hgreatest⟩, h]

/-- The last tail completes the code point. -/
lemma tails_last {least greatest bits n : Nat} {b : UInt8} {rest : Bytes}
    (hleast : least ≤ b.toNat) (hgreatest : b.toNat ≤ greatest)
    (h : bits * 64 + (b.toNat - 0x80) = n) :
    tails 1 least greatest bits (b :: rest) = .ok n :=
  tails_cons hleast hgreatest (congrArg Except.ok h)

/-- A tail has six bits of the code point. -/
lemma toNat_tail (m : Nat) : (UInt8.ofNat (0x80 + m % 64)).toNat = 0x80 + m % 64 :=
  toNat_byte (by omega)

/-! ## First bytes -/

/-- The first byte of two. -/
lemma lead?_of_two {b : Nat} (hlow : 0xC2 ≤ b) (hhigh : b < 0xE0) :
    lead? b = some ⟨1, 0x80, 0xBF, b - 0xC0⟩ := by
  rw [lead?, if_neg (by omega), if_neg (by omega), if_pos hhigh]

/-- The first byte of three, with the bounds that it puts on the tail behind it. -/
lemma lead?_of_three {b : Nat} (hlow : 0xE0 ≤ b) (hhigh : b < 0xF0) :
    lead? b = some ⟨2, if b = 0xE0 then 0xA0 else 0x80, if b = 0xED then 0x9F else 0xBF,
      b - 0xE0⟩ := by
  rw [lead?, if_neg (by omega), if_neg (by omega), if_neg (by omega)]
  by_cases hE0 : b = 0xE0
  · subst hE0
    rfl
  by_cases hED : b = 0xED
  · subst hED
    rfl
  · rw [if_neg hE0, if_neg hED, if_pos hhigh, if_neg hE0, if_neg hED]

/-- The first byte of four, with the bounds that it puts on the tail behind it. -/
lemma lead?_of_four {b : Nat} (hlow : 0xF0 ≤ b) (hhigh : b ≤ 0xF4) :
    lead? b = some ⟨3, if b = 0xF0 then 0x90 else 0x80, if b = 0xF4 then 0x8F else 0xBF,
      b - 0xF0⟩ := by
  rw [lead?, if_neg (by omega), if_neg (by omega), if_neg (by omega), if_neg (by omega),
    if_neg (by omega), if_neg (by omega)]
  by_cases hF0 : b = 0xF0
  · subst hF0
    rfl
  by_cases hF4 : b = 0xF4
  · subst hF4
    rfl
  · rw [if_neg hF0, if_pos (by omega), if_neg hF0, if_neg hF4]

/-! ## Characters -/

/-- Bytes that belong to the character before are skipped. -/
lemma decodeFrom_skip (bytes rest : Bytes) (position : Nat) :
    decodeFrom false bytes.length position (bytes ++ rest) =
      decodeFrom false 0 (position + bytes.length) rest := by
  induction bytes generalizing position with
  | nil => rfl
  | cons b bytes ih =>
    rw [List.length_cons, List.cons_append, decodeFrom, ih, Nat.add_assoc, Nat.add_comm 1]

/-- A first byte and its tails are read as their character. -/
lemma decodeFrom_lead {b : UInt8} {bytes : Bytes} {count least greatest bits n : Nat}
    (hlead : lead? b.toNat = some ⟨count, least, greatest, bits⟩) (hcount : count = bytes.length)
    (rest : Bytes) (htails : tails count least greatest bits (bytes ++ rest) = .ok n)
    (position : Nat) :
    decodeFrom false 0 position (b :: bytes ++ rest) =
      (decodeFrom false 0 (position + (b :: bytes).length) rest).map (Char.ofNat n :: ·) := by
  rw [List.cons_append, decodeFrom, if_neg (by simp), hlead]
  dsimp only
  rw [htails]
  dsimp only
  rw [hcount, decodeFrom_skip, List.length_cons, Nat.add_assoc, Nat.add_comm 1]

/-- The bytes of a character are read as the character. -/
lemma decodeFrom_encodeChar (c : Char) (rest : Bytes) (position : Nat) :
    decodeFrom false 0 position (encodeChar c ++ rest) =
      (decodeFrom false 0 (position + (encodeChar c).length) rest).map (c :: ·) := by
  have hvalid : c.toNat < 0xD800 ∨ (0xDFFF < c.toNat ∧ c.toNat < 0x110000) := c.valid
  have hc := Char.ofNat_toNat c
  unfold encodeChar
  dsimp only
  generalize c.toNat = n at hvalid hc
  rw [← hc]
  split
  · rename_i hn
    have hb : (UInt8.ofNat n).toNat = n := toNat_byte (by omega)
    have hlead : lead? (UInt8.ofNat n).toNat = some ⟨0, 0x80, 0xBF, n⟩ := by
      rw [hb, lead?, if_pos hn]
    exact decodeFrom_lead hlead rfl rest rfl position
  split
  · rename_i hn' hn
    obtain ⟨b, hb⟩ : ∃ b, UInt8.ofNat (0xC0 + n / 64) = b := ⟨_, rfl⟩
    have htoNat : b.toNat = 0xC0 + n / 64 := by
      rw [← hb, toNat_byte (by omega)]
    have htail := toNat_tail n
    rw [hb]
    exact decodeFrom_lead (lead?_of_two (by omega) (by omega)) rfl rest
      (tails_last (by omega) (by omega) (by omega)) position
  split
  · rename_i hn'' hn' hn
    obtain ⟨b, hb⟩ : ∃ b, UInt8.ofNat (0xE0 + n / 4096) = b := ⟨_, rfl⟩
    have htoNat : b.toNat = 0xE0 + n / 4096 := by
      rw [← hb, toNat_byte (by omega)]
    have htail := toNat_tail (n / 64)
    have htail' := toNat_tail n
    have hleast : (if b.toNat = 0xE0 then 0xA0 else 0x80) ≤ 0x80 + n / 64 % 64 := by
      split <;> omega
    have hgreatest : 0x80 + n / 64 % 64 ≤ if b.toNat = 0xED then 0x9F else 0xBF := by
      split <;> omega
    rw [hb]
    exact decodeFrom_lead (lead?_of_three (by omega) (by omega)) rfl rest
      (tails_cons (by rw [htail]; exact hleast) (by rw [htail]; exact hgreatest)
        (tails_last (by omega) (by omega) (by omega))) position
  · rename_i hn'' hn' hn
    obtain ⟨b, hb⟩ : ∃ b, UInt8.ofNat (0xF0 + n / 262144) = b := ⟨_, rfl⟩
    have htoNat : b.toNat = 0xF0 + n / 262144 := by
      rw [← hb, toNat_byte (by omega)]
    have htail := toNat_tail (n / 4096)
    have htail' := toNat_tail (n / 64)
    have htail'' := toNat_tail n
    have hleast : (if b.toNat = 0xF0 then 0x90 else 0x80) ≤ 0x80 + n / 4096 % 64 := by
      split <;> omega
    have hgreatest : 0x80 + n / 4096 % 64 ≤ if b.toNat = 0xF4 then 0x8F else 0xBF := by
      split <;> omega
    rw [hb]
    exact decodeFrom_lead (lead?_of_four (by omega) (by omega)) rfl rest
      (tails_cons (by rw [htail]; exact hleast) (by rw [htail]; exact hgreatest)
        (tails_cons (by omega) (by omega) (tails_last (by omega) (by omega) (by omega)))) position

/-! ## Texts -/

/-- A text is read back from its bytes. -/
theorem decode_encode (s : Text) : decode (encode s) = .ok s := by
  have hfrom : ∀ position, decodeFrom false 0 position (encode s) = .ok s := by
    induction s with
    | nil => exact fun _ => rfl
    | cons c s ih =>
      intro position
      have hcons : encode (c :: s) = encodeChar c ++ encode s := rfl
      rw [hcons, decodeFrom_encodeChar, ih]
      rfl
  exact hfrom 0

/-! ## Leniently -/

/-- Bytes that would stand for a surrogate are faulty. -/
lemma exists_error_of_surrogateAhead {bytes : Bytes} (h : surrogateAhead bytes = true)
    (position : Nat) : ∃ e, decodeFrom false 0 position bytes = .error e := by
  unfold surrogateAhead at h
  split at h
  · rename_i a b c rest
    simp only [Bool.and_eq_true, beq_iff_eq, decide_eq_true_eq] at h
    obtain ⟨⟨⟨⟨ha, hlow⟩, -⟩, -⟩, -⟩ := h
    have hlead : lead? a.toNat = some ⟨2, 0x80, 0x9F, 0xD⟩ := by
      rw [ha]
      rfl
    have htails : tails 2 0x80 0x9F 0xD (b :: c :: rest) = .error (0, .invalidContinuation) := by
      rw [tails, if_neg (by omega)]
    refine ⟨⟨.utf8, position, [a], .invalidContinuation⟩, ?_⟩
    rw [decodeFrom, if_neg (by simp), hlead]
    dsimp only
    rw [htails]
    rfl
  · contradiction

/-- Bytes that are a text are the same text when they are read leniently. -/
lemma decodeFrom_lenient {bytes : Bytes} {skip position : Nat} {s : Text}
    (h : decodeFrom false skip position bytes = .ok s) :
    decodeFrom true skip position bytes = .ok s := by
  induction bytes generalizing skip position s with
  | nil =>
    cases skip <;> exact h
  | cons b rest ih =>
    cases skip with
    | succ skip => exact ih h
    | zero =>
      have hplain : surrogateAhead (b :: rest) = false := by
        by_contra hahead
        obtain ⟨e, he⟩ := exists_error_of_surrogateAhead (by simpa using hahead) position
        rw [h] at he
        contradiction
      rw [decodeFrom, if_neg (by simp)] at h
      rw [decodeFrom, if_neg (by simp [hplain])]
      split at h
      · contradiction
      · split at h
        · contradiction
        · obtain ⟨t, ht, rfl⟩ := map_eq_ok_iff.1 h
          rw [ih ht]
          rfl

/-- Bytes that are a text are the same text when surrogates may pass. -/
theorem decodeLenient_of_decode {bytes : Bytes} {s : Text} (h : decode bytes = .ok s) :
    decodeLenient bytes = .ok s :=
  decodeFrom_lenient h

end Utf8

end EventPipeline
