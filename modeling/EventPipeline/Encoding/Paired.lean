import EventPipeline.Encoding

/-!
# Encodings with several bytes for most characters

The first half of the bytes are the characters of the first alphabet. Every other character takes
bytes of one of several forms, where a form says for each byte in which ranges it can be. Which
character that is is not told here: one of the second plane stands for it, and different bytes have
different ones.
-/

namespace EventPipeline

/-- Ranges of bytes, each with its first and its last one. -/
abbrev ByteClass := List (Nat × Nat)

/-- An encoding with several bytes for most characters. -/
structure PairedAlphabet where
  /-- Its names, in lines. -/
  nameLines : List String
  /-- The forms of the characters beyond the first alphabet. -/
  forms : List (List ByteClass)

namespace PairedAlphabet

/-- Whether bytes begin with a character of a form. -/
def fits : List ByteClass → Bytes → Bool
  | [], _ => true
  | _ :: _, [] => false
  | c :: form, b :: rest => c.any (fun r => r.1 ≤ b.toNat && b.toNat ≤ r.2) && fits form rest

/-- The character that stands for bytes. -/
def standIn (bytes : Bytes) : Char :=
  Char.ofNat (0x20000 + bytes.foldl (fun n b => 256 * n + b.toNat) 0 % 0x8000)

/-- The text of bytes, the first `skip` of which belong to the character before, if all of them
belong to characters. -/
def decodeFrom? (forms : List (List ByteClass)) : (skip : Nat) → Bytes → Option Text
  | _, [] => some []
  | skip + 1, _ :: rest => decodeFrom? forms skip rest
  | 0, b :: rest =>
    if b.toNat < 0x80 then (decodeFrom? forms 0 rest).map (Char.ofNat b.toNat :: ·)
    else
      match forms.find? fun form => fits form (b :: rest) with
      | some form =>
        (decodeFrom? forms (form.length - 1) rest).map
          (standIn ((b :: rest).take form.length) :: ·)
      | none => none

/-- The text of bytes, if all of them belong to characters. -/
def decode? (a : PairedAlphabet) (bytes : Bytes) : Option Text :=
  decodeFrom? a.forms 0 bytes

/-- The bytes of the upper half without its margins. -/
def inner : ByteClass := [(0xA1, 0xFE)]

/-- The encodings. -/
def all : List PairedAlphabet := [
  ⟨["hz hz_gb hz_gb_2312 hzgb csiso2022jp csiso2022kr iso2022_jp iso2022_jp_1 iso2022_jp_2",
    "iso2022_jp_2004 iso2022_jp_3 iso2022_jp_ext iso2022_kr iso2022jp iso2022jp_1 iso2022jp_2",
    "iso2022jp_2004 iso2022jp_3 iso2022jp_ext iso2022kr iso_2022_jp iso_2022_jp_1 iso_2022_jp_2",
    "iso_2022_jp_2004 iso_2022_jp_3 iso_2022_jp_ext iso_2022_kr"], []⟩,
  ⟨["chinese csiso58gb231280 euc_cn euccn eucgb2312_cn gb2312 gb2312_1980 gb2312_80 iso_ir_58"],
    [[[(0xA1, 0xA9), (0xB0, 0xF7)], inner]]⟩,
  ⟨["936 cp936 gbk ms936"], [[[(0x81, 0xFE)], [(0x40, 0x7E), (0x80, 0xFE)]]]⟩,
  ⟨["gb18030 gb18030_2000"],
    [[[(0x81, 0xFE)], [(0x40, 0x7E), (0x80, 0xFE)]],
      [[(0x81, 0xFE)], [(0x30, 0x39)], [(0x81, 0xFE)], [(0x30, 0x39)]]]⟩,
  ⟨["big5 big5_tw csbig5 950 cp950 ms950"], [[[(0xA1, 0xF9)], [(0x40, 0x7E), (0xA1, 0xFE)]]]⟩,
  ⟨["big5_hkscs big5hkscs hkscs"], [[[(0x87, 0xFE)], [(0x40, 0x7E), (0xA1, 0xFE)]]]⟩,
  ⟨["euc_kr euckr korean ks_c_5601 ks_c_5601_1987 ks_x_1001 ksc5601 ksx1001"],
    [[[(0xA1, 0xAC), (0xB0, 0xC8), (0xCA, 0xFD)], inner]]⟩,
  ⟨["949 cp949 ms949 uhc"],
    [[[(0x81, 0xFD)], [(0x41, 0x5A), (0x61, 0x7A), (0x81, 0xFE)]]]⟩,
  ⟨["cp1361 johab ms1361"],
    [[[(0x84, 0xD3), (0xD8, 0xDE), (0xE0, 0xF9)], [(0x31, 0x7E), (0x81, 0xFE)]]]⟩,
  ⟨["euc_jis_2004 euc_jisx0213 euc_jp eucjisx0213 eucjp jisx0213 eucjis2004 u_jis ujis"],
    [[[(0x8E, 0x8E)], [(0xA1, 0xDF)]], [[(0x8F, 0x8F)], inner, inner], [inner, inner]]⟩,
  ⟨["932 cp932 cs_shift_jis csshiftjis ms932 ms_kanji mskanji s_jis s_jis_2004 s_jisx0213",
    "shift_jis shift_jis_2004 shift_jisx0213 shiftjis shiftjis2004 shiftjisx0213 sjis sjis_2004",
    "sjisx0213 windows_31j"],
    [[[(0xA1, 0xDF)]], [[(0x81, 0x9F), (0xE0, 0xFC)], [(0x40, 0x7E), (0x80, 0xFC)]]]⟩]

/-- The encoding of a name. -/
def ofName? (name : Text) : Option PairedAlphabet :=
  all.find? fun a => a.nameLines.any fun line => (line.toList.splitOn ' ').contains name

end PairedAlphabet

end EventPipeline
