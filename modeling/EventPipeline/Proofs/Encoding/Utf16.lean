import EventPipeline.Encoding.Utf16
import EventPipeline.Proofs.Encoding.Utf8

/-!
# Text through UTF-16 and UTF-32

Every text is read back from its units in either order of bytes (`Utf16.decodeFrom_encode`,
`Utf32.decodeFrom_encode`). A unit is put together again from its bytes. In UTF-16 a character
beyond the first plane is a pair of surrogates, and is never taken for anything else, because no
character is the first half of a pair.
-/

namespace EventPipeline

/-! ## Code units -/

/-- A character is no half of a pair. -/
lemma toNat_cases (c : Char) :
    c.toNat < 0xD800 ∨ (0xDFFF < c.toNat ∧ c.toNat < 0x110000) :=
  c.valid

/-- A character stands for itself as a code unit. -/
lemma charOfUnit_toNat (c : Char) : charOfUnit c.toNat = c := by
  rw [charOfUnit, if_pos (toNat_cases c), Char.ofNat_toNat]

namespace Utf16

/-- No character is the first half of a pair. -/
lemma isHigh_toNat (c : Char) : isHigh c.toNat = false := by
  have := toNat_cases c
  simp only [isHigh, Bool.and_eq_false_iff, decide_eq_false_iff_not]
  omega

/-- Two units that make up a character are its pair of surrogates. -/
structure IsPair (c : Char) (high low : Nat) : Prop where
  /-- The first unit is the first one of a pair. -/
  isHigh : isHigh high = true
  /-- The second unit is the second one of a pair. -/
  isLow : isLow low = true
  /-- The pair has the code point of the character. -/
  joinPair : joinPair high low = c.toNat

/-- The first half of a pair is a code unit. -/
lemma IsPair.high_lt {c : Char} {high low : Nat} (h : IsPair c high low) : high < 65536 := by
  have := h.isHigh
  simp only [Utf16.isHigh, Bool.and_eq_true, decide_eq_true_eq] at this
  omega

/-- The second half of a pair is a code unit. -/
lemma IsPair.low_lt {c : Char} {high low : Nat} (h : IsPair c high low) : low < 65536 := by
  have := h.isLow
  simp only [Utf16.isLow, Bool.and_eq_true, decide_eq_true_eq] at this
  omega

/-- The units that are written for a character beyond the first plane are its pair. -/
lemma isPair_of_le {c : Char} (hc : 0x10000 ≤ c.toNat) :
    IsPair c (0xD800 + (c.toNat - 0x10000) / 0x400) (0xDC00 + (c.toNat - 0x10000) % 0x400) := by
  have := toNat_cases c
  refine ⟨?_, ?_, ?_⟩
  · simp only [isHigh, Bool.and_eq_true, decide_eq_true_eq]
    omega
  · simp only [isLow, Bool.and_eq_true, decide_eq_true_eq]
    omega
  · unfold joinPair
    omega

/-! ## Units of two bytes -/

/-- A unit is put together again from its bytes. -/
lemma exists_unitBytes (order : ByteOrder) {u : Nat} (h : u < 65536) :
    ∃ a b, unitBytes order u = [a, b] ∧ unitOf order a b = u := by
  have hlow : (UInt8.ofNat (u % 256)).toNat = u % 256 := toNat_byte (by omega)
  have hhigh : (UInt8.ofNat (u / 256)).toNat = u / 256 := toNat_byte (by omega)
  cases order with
  | little => exact ⟨_, _, rfl, by rw [unitOf, hlow, hhigh]; omega⟩
  | big => exact ⟨_, _, rfl, by rw [unitOf, hlow, hhigh]; omega⟩

/-- A unit that is not the first one of a pair is read as its character, whatever follows. -/
lemma decodeFrom_unit (order : ByteOrder) {u : Nat} (hu : u < 65536) (hhigh : isHigh u = false)
    (rest : Bytes) (position : Nat) :
    decodeFrom order position (unitBytes order u ++ rest) =
      (decodeFrom order (position + 2) rest).map (charOfUnit u :: ·) := by
  obtain ⟨a, b, hbytes, hunit⟩ := exists_unitBytes order hu
  rw [hbytes]
  match rest with
  | [] =>
    show Except.ok [charOfUnit (unitOf order a b)] = _
    rw [hunit]
    rfl
  | [c] =>
    show (decodeFrom order (position + 2) [c]).map (charOfUnit (unitOf order a b) :: ·) = _
    rw [hunit]
  | c :: d :: rest =>
    rw [List.cons_append, List.cons_append, List.nil_append, decodeFrom, hunit, hhigh,
      Bool.false_and, if_neg Bool.false_ne_true]

/-- A pair is read as its character, whatever follows. -/
lemma decodeFrom_pair (order : ByteOrder) {c : Char} {high low : Nat} (h : IsPair c high low)
    (rest : Bytes) (position : Nat) :
    decodeFrom order position (unitBytes order high ++ (unitBytes order low ++ rest)) =
      (decodeFrom order (position + 4) rest).map (c :: ·) := by
  obtain ⟨a, b, hhigh, hfirst⟩ := exists_unitBytes order h.high_lt
  obtain ⟨a', b', hlow, hsecond⟩ := exists_unitBytes order h.low_lt
  rw [hhigh, hlow]
  show decodeFrom order position (a :: b :: a' :: b' :: rest) = _
  rw [decodeFrom, hfirst, hsecond, h.isHigh, h.isLow, Bool.and_self, if_pos rfl, h.joinPair,
    Char.ofNat_toNat]

/-- The bytes of a character are read as the character, whatever follows. -/
lemma exists_decodeFrom_units (order : ByteOrder) (c : Char) (rest : Bytes) (position : Nat) :
    ∃ behind, decodeFrom order position ((units c).flatMap (unitBytes order) ++ rest) =
      (decodeFrom order behind rest).map (c :: ·) := by
  unfold units
  dsimp only
  split
  · rename_i hc
    have hunit := decodeFrom_unit order hc (isHigh_toNat c) rest position
    rw [charOfUnit_toNat] at hunit
    exact ⟨_, by rw [List.flatMap_singleton, hunit]⟩
  · rename_i hc
    have hpair := isPair_of_le (Nat.not_lt.1 hc)
    refine ⟨position + 4, ?_⟩
    rw [List.flatMap_cons, List.flatMap_singleton, List.append_assoc]
    exact decodeFrom_pair order hpair rest position

/-- A text is read back from its bytes. -/
theorem decodeFrom_encode (order : ByteOrder) (s : Text) (position : Nat) :
    decodeFrom order position (encode order s) = .ok s := by
  induction s generalizing position with
  | nil => rfl
  | cons c s ih =>
    obtain ⟨behind, hc⟩ := exists_decodeFrom_units order c (encode order s) position
    have hcons : encode order (c :: s) =
        (units c).flatMap (unitBytes order) ++ encode order s := rfl
    rw [hcons, hc, ih]
    rfl

end Utf16

namespace Utf32

/-! ## Units of four bytes -/

/-- A unit is put together again from its bytes. -/
lemma exists_unitBytes (order : ByteOrder) {u : Nat} (h : u < 0x110000) :
    ∃ a b c d, unitBytes order u = [a, b, c, d] ∧ unitOf order a b c d = u := by
  have hfirst : (UInt8.ofNat (u % 256)).toNat = u % 256 := toNat_byte (by omega)
  have hsecond : (UInt8.ofNat (u / 256 % 256)).toNat = u / 256 % 256 := toNat_byte (by omega)
  have hthird : (UInt8.ofNat (u / 65536 % 256)).toNat = u / 65536 % 256 := toNat_byte (by omega)
  have hfourth : (UInt8.ofNat (u / 16777216)).toNat = u / 16777216 := toNat_byte (by omega)
  cases order with
  | little => exact ⟨_, _, _, _, rfl, by rw [unitOf, hfirst, hsecond, hthird, hfourth]; omega⟩
  | big => exact ⟨_, _, _, _, rfl, by rw [unitOf, hfirst, hsecond, hthird, hfourth]; omega⟩

/-- A text is read back from its bytes. -/
theorem decodeFrom_encode (order : ByteOrder) (s : Text) (position : Nat) :
    decodeFrom order position (encode order s) = .ok s := by
  induction s generalizing position with
  | nil => rfl
  | cons c s ih =>
    have hlt : c.toNat < 0x110000 := by
      have := toNat_cases c
      omega
    obtain ⟨a, b, a', b', hbytes, hunit⟩ := exists_unitBytes order hlt
    have hcons : encode order (c :: s) = a :: b :: a' :: b' :: encode order s :=
      congrArg (· ++ encode order s) hbytes
    rw [hcons, decodeFrom, hunit, if_pos hlt, ih, charOfUnit_toNat]
    rfl

end Utf32

end EventPipeline
