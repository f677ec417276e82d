import EventPipeline.Text.CharacterName.Ancient
import EventPipeline.Text.CharacterName.Letters
import EventPipeline.Text.CharacterName.Pictures
import EventPipeline.Text.CharacterName.Signs
import EventPipeline.Text.CodeTable

/-!
# Names of characters

Most characters have a name of words in capital letters, and some have further names. A text in a
file of settings can give any of its characters by an escape with the name, and what the text is
bound as depends on it, so the names are all listed. In the texts that list them, a small letter
stands in front of each name and says how many of its first words are those of the name before it:
`a` none, `b` one, and so on. Names that follow each other are those of code points that do; behind
a `z` stands the code point of the next name. The names of syllables are made of those of their
sounds, and ideographs and the like are named by their code points.

`Text.named?` gives the character of a name. Small letters count as capital ones in it, but not in
the names of syllables and of most ideographs.
-/

namespace EventPipeline.Text

/-! ## Listed names -/

/-- The marks of a list of names, each with the text behind it. -/
def splitMarks : Text → List (Char × Text)
  | [] => []
  | c :: rest =>
    if c.isLower then (c, rest.takeWhile fun d => !d.isLower) :: splitMarks rest
    else splitMarks rest

/-- Where the reading of a list of names stands. -/
structure NamePlace where
  /-- The code point of the next name. -/
  code : Nat
  /-- The words of the name before. -/
  words : List Text
  /-- The code point of the name that is looked for. -/
  found : Option Nat

/-- The mark in front of a code point. -/
def codeMark : Char := 'z'

/-- The reading of a list of names behind a mark and its text. -/
def NamePlace.next (wanted : List Text) (place : NamePlace) (item : Char × Text) : NamePlace :=
  if item.1 = codeMark then { place with code := ofHexDigits item.2 }
  else
    let words := place.words.take (item.1.toNat - 'a'.toNat) ++ item.2.splitOn ' '
    { code := place.code + 1
      words
      found := if words = wanted then some place.code else place.found }

/-- The code point of a name in a list of names, whose lines are written out. -/
def listed? (lines : List String) (wanted : List Text) : Option Nat :=
  ((splitMarks (lines.flatMap String.toList)).foldl (NamePlace.next wanted) ⟨0, [], none⟩).found

/-- The further names of characters, each behind a code point. -/
def furtherNames : List String := [
  "0 NULL/0 NUL/1 START OF HEADING/1 SOH/2 START OF TEXT/2 STX/3 END OF TEXT/3 ETX",
  "4 END OF TRANSMISSION/4 EOT/5 ENQUIRY/5 ENQ/6 ACKNOWLEDGE/6 ACK/7 ALERT/7 BEL/8 BACKSPACE",
  "8 BS/9 CHARACTER TABULATION/9 HORIZONTAL TABULATION/9 HT/9 TAB/A LINE FEED/A NEW LINE",
  "A END OF LINE/A EOL/A LF/A NL/B LINE TABULATION/B VERTICAL TABULATION/B VT/C FORM FEED/C FF",
  "D CARRIAGE RETURN/D CR/E SHIFT OUT/E LOCKING-SHIFT ONE/E SO/F SHIFT IN/F LOCKING-SHIFT ZERO",
  "F SI/10 DATA LINK ESCAPE/10 DLE/11 DEVICE CONTROL ONE/11 DC1/12 DEVICE CONTROL TWO/12 DC2",
  "13 DEVICE CONTROL THREE/13 DC3/14 DEVICE CONTROL FOUR/14 DC4/15 NEGATIVE ACKNOWLEDGE/15 NAK",
  "16 SYNCHRONOUS IDLE/16 SYN/17 END OF TRANSMISSION BLOCK/17 ETB/18 CANCEL/18 CAN",
  "19 END OF MEDIUM/19 EOM/1A SUBSTITUTE/1A SUB/1B ESCAPE/1B ESC/1C INFORMATION SEPARATOR FOUR",
  "1C FILE SEPARATOR/1C FS/1D INFORMATION SEPARATOR THREE/1D GROUP SEPARATOR/1D GS",
  "1E INFORMATION SEPARATOR TWO/1E RECORD SEPARATOR/1E RS/1F INFORMATION SEPARATOR ONE",
  "1F UNIT SEPARATOR/1F US/20 SP/7F DELETE/7F DEL/80 PADDING CHARACTER/80 PAD",
  "81 HIGH OCTET PRESET/81 HOP/82 BREAK PERMITTED HERE/82 BPH/83 NO BREAK HERE/83 NBH/84 INDEX",
  "84 IND/85 NEXT LINE/85 NEL/86 START OF SELECTED AREA/86 SSA/87 END OF SELECTED AREA/87 ESA",
  "88 CHARACTER TABULATION SET/88 HORIZONTAL TABULATION SET/88 HTS",
  "89 CHARACTER TABULATION WITH JUSTIFICATION/89 HORIZONTAL TABULATION WITH JUSTIFICATION",
  "89 HTJ/8A LINE TABULATION SET/8A VERTICAL TABULATION SET/8A VTS/8B PARTIAL LINE FORWARD",
  "8B PARTIAL LINE DOWN/8B PLD/8C PARTIAL LINE BACKWARD/8C PARTIAL LINE UP/8C PLU",
  "8D REVERSE LINE FEED/8D REVERSE INDEX/8D RI/8E SINGLE SHIFT TWO/8E SINGLE-SHIFT-2/8E SS2",
  "8F SINGLE SHIFT THREE/8F SINGLE-SHIFT-3/8F SS3/90 DEVICE CONTROL STRING/90 DCS",
  "91 PRIVATE USE ONE/91 PRIVATE USE-1/91 PU1/92 PRIVATE USE TWO/92 PRIVATE USE-2/92 PU2",
  "93 SET TRANSMIT STATE/93 STS/94 CANCEL CHARACTER/94 CCH/95 MESSAGE WAITING/95 MW",
  "96 START OF GUARDED AREA/96 START OF PROTECTED AREA/96 SPA/97 END OF GUARDED AREA",
  "97 END OF PROTECTED AREA/97 EPA/98 START OF STRING/98 SOS",
  "99 SINGLE GRAPHIC CHARACTER INTRODUCER/99 SGC/9A SINGLE CHARACTER INTRODUCER/9A SCI",
  "9B CONTROL SEQUENCE INTRODUCER/9B CSI/9C STRING TERMINATOR/9C ST/9D OPERATING SYSTEM COMMAND",
  "9D OSC/9E PRIVACY MESSAGE/9E PM/9F APPLICATION PROGRAM COMMAND/9F APC/A0 NBSP/AD SHY",
  "1A2 LATIN CAPITAL LETTER GHA/1A3 LATIN SMALL LETTER GHA/34F CGJ/61C ALM",
  "709 SYRIAC SUBLINEAR COLON SKEWED LEFT/CDE KANNADA LETTER LLLA/E9D LAO LETTER FO FON",
  "E9F LAO LETTER FO FAY/EA3 LAO LETTER RO/EA5 LAO LETTER LO",
  "FD0 TIBETAN MARK BKA- SHOG GI MGO RGYAN/11EC HANGUL JONGSEONG YESIEUNG-KIYEOK",
  "11ED HANGUL JONGSEONG YESIEUNG-SSANGKIYEOK/11EE HANGUL JONGSEONG SSANGYESIEUNG",
  "11EF HANGUL JONGSEONG YESIEUNG-KHIEUKH/180B FVS1/180C FVS2/180D FVS3/180E MVS/180F FVS4",
  "200B ZWSP/200C ZWNJ/200D ZWJ/200E LRM/200F RLM/202A LRE/202B RLE/202C PDF/202D LRO/202E RLO",
  "202F NNBSP/205F MMSP/2060 WJ/2066 LRI/2067 RLI/2068 FSI/2069 PDI",
  "2118 WEIERSTRASS ELLIPTIC FUNCTION/2448 MICR ON US SYMBOL/2449 MICR DASH SYMBOL",
  "2B7A LEFTWARDS TRIANGLE-HEADED ARROW WITH DOUBLE VERTICAL STROKE",
  "2B7C RIGHTWARDS TRIANGLE-HEADED ARROW WITH DOUBLE VERTICAL STROKE",
  "A015 YI SYLLABLE ITERATION MARK/AA6E MYANMAR LETTER KHAMTI LLA",
  "FE18 PRESENTATION FORM FOR VERTICAL RIGHT WHITE LENTICULAR BRACKET/FEFF BYTE ORDER MARK",
  "FEFF BOM/FEFF ZWNBSP/122D4 CUNEIFORM SIGN NU11 TENU",
  "122D5 CUNEIFORM SIGN NU11 OVER NU11 BUR OVER BUR/16E56 MEDEFAIDRIN CAPITAL LETTER H",
  "16E57 MEDEFAIDRIN CAPITAL LETTER NG/16E76 MEDEFAIDRIN SMALL LETTER H",
  "16E77 MEDEFAIDRIN SMALL LETTER NG/1B001 HENTAIGANA LETTER E-1",
  "1D0C5 BYZANTINE MUSICAL SYMBOL FTHORA SKLIRON CHROMA VASIS"]

/-- The code point of a further name. -/
def further? (name : Text) : Option Nat :=
  (furtherNames.flatMap fun line => line.toList.splitOn '/').findSome? fun row =>
    let code := row.takeWhile (· ≠ ' ')
    if row.drop (code.length + 1) = name then some (ofHexDigits code) else none

/-! ## Names with numbers -/

/-- The number that a decimal numeral without leading zeros denotes. -/
def plainNumber? (digits : Text) : Option Nat :=
  if digits.isEmpty || !digits.all Char.isDigit || digits.head? = some '0' then none
  else some (toNat digits)

/-- The code point of the short name of a selector of variants. -/
def selector? : Text → Option Nat
  | 'V' :: 'S' :: digits =>
    match plainNumber? digits with
    | some n =>
      if n ≤ 16 then some (0xFE00 + (n - 1))
      else if n ≤ 256 then some (0xE0100 + (n - 17))
      else none
    | none => none
  | _ => none

/-- The number of a hexadecimal numeral of four or five digits in capital letters. -/
def codeNumber? (digits : Text) : Option Nat :=
  let areDigits := digits.all fun c => c.isDigit || ('A' ≤ c && c ≤ 'F')
  if areDigits && (digits.length = 4 || digits.length = 5) then some (ofHexDigits digits) else none

/-- The beginnings of names that end in their code points, each with the ranges of the code
points. -/
def numberedNames : List (String × List (Nat × Nat)) := [
  ("CJK COMPATIBILITY IDEOGRAPH-", [(0xF900, 0xFA6D), (0xFA70, 0xFAD9), (0x2F800, 0x2FA1D)]),
  ("KHITAN SMALL SCRIPT CHARACTER-", [(0x18B00, 0x18CD5)]),
  ("NUSHU CHARACTER-", [(0x1B170, 0x1B2FB)])]

/-- The ranges of the code points of unified ideographs. -/
def unifiedIdeographs : List (Nat × Nat) := [
  (0x3400, 0x4DBF), (0x4E00, 0x9FFF), (0x20000, 0x2A6DF), (0x2A700, 0x2B738), (0x2B740, 0x2B81D),
  (0x2B820, 0x2CEA1), (0x2CEB0, 0x2EBE0), (0x30000, 0x3134A)]

/-- Whether a number is in one of some ranges. -/
def isWithin (ranges : List (Nat × Nat)) (n : Nat) : Bool :=
  ranges.any fun r => r.1 ≤ n && n ≤ r.2

/-- The code point that a name ends in behind a beginning, in one of some ranges. -/
def numbered? (name : Text) (beginning : String) (ranges : List (Nat × Nat)) : Option Nat :=
  if beginning.toList.isPrefixOf name then
    match codeNumber? (name.drop beginning.length) with
    | some n => if isWithin ranges n then some n else none
    | none => none
  else none

/-! ## Syllables -/

/-- The names of the sounds that a syllable begins with. -/
def firstSounds : List String :=
  ["G", "GG", "N", "D", "DD", "R", "M", "B", "BB", "S", "SS", "", "J", "JJ", "C", "K", "T", "P",
    "H"]

/-- The names of the sounds in the middle of a syllable. -/
def middleSounds : List String :=
  ["A", "AE", "YA", "YAE", "EO", "E", "YEO", "YE", "O", "WA", "WAE", "OE", "YO", "U", "WEO", "WE",
    "WI", "YU", "EU", "YI", "I"]

/-- The names of the sounds that a syllable ends with. -/
def lastSounds : List String :=
  ["", "G", "GG", "GS", "N", "NJ", "NH", "D", "L", "LG", "LM", "LB", "LS", "LT", "LP", "LH", "M",
    "B", "BS", "S", "SS", "NG", "J", "C", "K", "T", "P", "H"]

/-- The place of the longest sound that a text begins with, and the text behind it. -/
def sound? (sounds : List String) (s : Text) : Option (Nat × Text) :=
  let fitting := sounds.zipIdx.filter fun sound => sound.1.toList.isPrefixOf s
  let longest := fitting.foldl (fun longest sound => max longest sound.1.length) 0
  (fitting.find? fun sound => sound.1.length = longest).map fun sound => (sound.2, s.drop longest)

/-- The code point of the syllable of some sounds. -/
def syllable? (sounds : Text) : Option Nat := do
  let (first, rest) ← sound? firstSounds sounds
  let (middle, rest) ← sound? middleSounds rest
  let (last, rest) ← sound? lastSounds rest
  if rest.isEmpty then
    some (0xAC00 + (first * middleSounds.length + middle) * lastSounds.length + last)
  else none

/-! ## All names -/

/-- What the names of syllables begin with. -/
def syllableBeginning : Text := "HANGUL SYLLABLE ".toList

/-- What the names of unified ideographs begin with. -/
def ideographBeginning : String := "CJK UNIFIED IDEOGRAPH-"

/-- The code point of a name in capital letters. -/
def codeOfName? (name : Text) : Option Nat :=
  (numberedNames.findSome? fun n => numbered? name n.1 n.2) <|> selector? name <|> further? name <|>
    [letterNames, signNames, ancientNames, pictureNames].findSome? fun names =>
      listed? names (name.splitOn ' ')

/-- The character of a name. -/
def named? (name : Text) : Option Char :=
  let code :=
    if syllableBeginning.isPrefixOf name then syllable? (name.drop syllableBeginning.length)
    else if ideographBeginning.toList.isPrefixOf name then
      numbered? name ideographBeginning unifiedIdeographs
    else codeOfName? (name.map Char.toUpper)
  code.map Char.ofNat

end EventPipeline.Text
