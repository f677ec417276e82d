import EventPipeline.Encoding.Detection
import EventPipeline.Proofs.Encoding.Utf16

/-!
# Encodings that are detected

A text is read back from its bytes in any of the encodings, with and without a mark in front, when
it begins with two characters of the first half of the code table other than the null character
(`decodeDetected_encode`). Such a character is one byte that is not zero, among as many zeros as the
encoding asks for. Where the zeros stand tells the encodings apart, and none of these bytes belongs
to a mark.
-/

namespace EventPipeline

/-- Whether a character is in the first half of the code table and not null. -/
def IsPlain (c : Char) : Prop :=
  c.toNat ≠ 0 ∧ c.toNat < 0x80

/-- The byte of such a character. -/
structure IsPlainByte (x : UInt8) : Prop where
  /-- The byte is not zero. -/
  ne_zero : x ≠ 0
  /-- The byte is in the first half. -/
  lt : x.toNat < 0x80

/-- A plain character has a plain byte. -/
lemma IsPlain.isPlainByte {c : Char} (h : IsPlain c) : IsPlainByte (UInt8.ofNat c.toNat) := by
  obtain ⟨hzero, hlt⟩ := h
  have hbyte : (UInt8.ofNat c.toNat).toNat = c.toNat := toNat_byte (by omega)
  refine ⟨fun h0 => ?_, by omega⟩
  rw [h0] at hbyte
  exact hzero hbyte.symm

/-- A plain byte is not in any mark. -/
lemma IsPlainByte.not_mark {x : UInt8} (h : IsPlainByte x) : x ≠ 0xFF ∧ x ≠ 0xFE ∧ x ≠ 0xEF := by
  obtain ⟨-, hlt⟩ := h
  refine ⟨?_, ?_, ?_⟩ <;> rintro rfl <;> contradiction

namespace Encoding

/-! ## What is written -/

/-- A byte among the zeros that an encoding puts around it. -/
def padded (x : UInt8) : Encoding → Bytes
  | utf8 => [x]
  | utf16 .little => [x, 0]
  | utf16 .big => [0, x]
  | utf32 .little => [x, 0, 0, 0]
  | utf32 .big => [0, 0, 0, x]

/-- A plain character is written as its byte among zeros. -/
lemma encode_cons {c : Char} (h : IsPlain c) (s : Text) (e : Encoding) :
    e.encode (c :: s) = e.padded (UInt8.ofNat c.toNat) ++ e.encode s := by
  obtain ⟨-, hlt⟩ := h
  have hmod : c.toNat % 256 = c.toNat := Nat.mod_eq_of_lt (by omega)
  have hdiv : c.toNat / 256 = 0 := Nat.div_eq_of_lt (by omega)
  have hdiv' : c.toNat / 65536 = 0 := Nat.div_eq_of_lt (by omega)
  have hdiv'' : c.toNat / 16777216 = 0 := Nat.div_eq_of_lt (by omega)
  have hunits : Utf16.units c = [c.toNat] := if_pos (by omega)
  cases e with
  | utf8 =>
    have hchar : Utf8.encodeChar c = [UInt8.ofNat c.toNat] := if_pos hlt
    exact congrArg (· ++ Utf8.encode s) hchar
  | utf16 order =>
    cases order <;>
      simp [encode, Utf16.encode, Utf16.unitBytes, padded, hunits, hmod, hdiv]
  | utf32 order =>
    cases order <;>
      simp [encode, Utf32.encode, Utf32.unitBytes, padded, hmod, hdiv, hdiv', hdiv'']

/-! ## What is detected -/

/-- The byte order marks of the encodings. -/
lemma marks :
    mark utf8 = [0xEF, 0xBB, 0xBF] ∧ mark (utf16 .little) = [0xFF, 0xFE] ∧
      mark (utf16 .big) = [0xFE, 0xFF] ∧ mark (utf32 .little) = [0xFF, 0xFE, 0, 0] ∧
      mark (utf32 .big) = [0, 0, 0xFE, 0xFF] := by
  decide

/-- Bytes without a mark are seen to be in their encoding from two plain bytes. -/
lemma detectEncoding_padded (e : Encoding) {x y : UInt8} (hx : IsPlainByte x) (hy : IsPlainByte y)
    (rest : Bytes) : detectEncoding (e.padded x ++ (e.padded y ++ rest)) = (e, 0) := by
  have hzero := hx.ne_zero
  have hzero' := hy.ne_zero
  obtain ⟨hFF, hFE, hEF⟩ := hx.not_mark
  -- A mark begins with a byte of the second half, but for one that has it behind two zeros.
  have hnone : ofMark? (e.padded x ++ (e.padded y ++ rest)) = none := by
    cases e with
    | utf8 => simp [ofMark?, all, marks, padded, Ne.symm, *]
    | utf16 order => cases order <;> simp [ofMark?, all, marks, padded, Ne.symm, *]
    | utf32 order => cases order <;> simp [ofMark?, all, marks, padded, Ne.symm, *]
  have hzeros : ofZeros (e.padded x ++ (e.padded y ++ rest)) = e := by
    cases e with
    | utf8 =>
      show ofZeros (x :: y :: rest) = utf8
      match rest with
      | [] => rw [ofZeros, if_neg hzero, if_neg hzero']
      | [_] => rfl
      | _ :: _ :: _ => rw [ofZeros, if_neg hzero, if_neg hzero']
    | utf16 order => cases order <;> simp [padded, ofZeros, *]
    | utf32 order => cases order <;> simp [padded, ofZeros, *]
  rw [detectEncoding, hnone, hzeros]

/-- Bytes with a mark are seen to be in their encoding from the mark and one plain byte. -/
lemma detectEncoding_mark (e : Encoding) {x : UInt8} (hx : IsPlainByte x) (rest : Bytes) :
    detectEncoding (e.mark ++ (e.padded x ++ rest)) = (e, e.mark.length) := by
  have hzero := hx.ne_zero
  -- One mark of two bytes is the beginning of one of four, which goes on with zeros only.
  have hmark : ofMark? (e.mark ++ (e.padded x ++ rest)) = some e := by
    cases e with
    | utf8 => simp [ofMark?, all, marks]
    | utf16 order => cases order <;> simp [ofMark?, all, marks, padded, Ne.symm, *]
    | utf32 order => cases order <;> simp [ofMark?, all, marks]
  rw [detectEncoding, hmark]

/-! ## What is read -/

/-- A text is read back from its bytes behind a mark if its encoding is detected. -/
lemma decodeDetected_of_detectEncoding {e : Encoding} {s : Text} (mark : Bytes)
    (h : detectEncoding (mark ++ e.encode s) = (e, mark.length)) :
    decodeDetected (mark ++ e.encode s) = .ok s := by
  rw [decodeDetected, h]
  dsimp only
  rw [List.drop_left]
  cases e with
  | utf8 => exact Utf8.decodeLenient_of_decode (Utf8.decode_encode s)
  | utf16 order => exact Utf16.decodeFrom_encode order s mark.length
  | utf32 order => exact Utf32.decodeFrom_encode order s mark.length

/-- A text that begins with two plain characters is read back from its bytes in any encoding, with
and without a mark. -/
theorem decodeDetected_encode {a b : Char} (ha : IsPlain a) (hb : IsPlain b) (s : Text)
    (e : Encoding) :
    decodeDetected (e.encode (a :: b :: s)) = .ok (a :: b :: s) ∧
      decodeDetected (e.mark ++ e.encode (a :: b :: s)) = .ok (a :: b :: s) := by
  have hbytes := encode_cons ha (b :: s) e
  have hbytes' := encode_cons hb s e
  constructor
  · refine decodeDetected_of_detectEncoding [] ?_
    rw [List.nil_append, hbytes, hbytes']
    exact e.detectEncoding_padded ha.isPlainByte hb.isPlainByte _
  · refine decodeDetected_of_detectEncoding e.mark ?_
    rw [hbytes]
    exact e.detectEncoding_mark ha.isPlainByte _

end Encoding

end EventPipeline
