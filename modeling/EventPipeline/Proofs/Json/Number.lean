import EventPipeline.Json.Parser
import EventPipeline.Json.Printer
import EventPipeline.Proofs.Binary64.Decimal
import Mathlib.Data.List.TakeWhile

/-!
# Numbers of interchange text

A number reads back from its text as the same number of the same kind (`scalar_ofInt`,
`scalar_toText`): an integer has neither point nor exponent, and every double-precision number that
is finite has one of the two. Whatever stands behind a number has to be seen not to continue it,
which is what `EndsNumber` says.
-/

namespace EventPipeline

/-! ## Numerals -/

namespace Text

/-- The digits of a number are digits. -/
lemma isDigit_of_mem_ofNat {n : Nat} {c : Char} (h : c ∈ ofNat n) : c.isDigit = true :=
  Nat.isDigit_of_mem_toDigits (by decide) (by decide) h

/-- A number has a digit. -/
lemma ofNat_ne_nil (n : Nat) : ofNat n ≠ [] :=
  Nat.toDigits_ne_nil

/-- The digits of a number denote it. -/
lemma toNat_ofNat (n : Nat) : toNat (ofNat n) = n :=
  Nat.ofDigitChars_ten_toDigits

/-- Zeros in front of digits do not count. -/
lemma toNat_zeros_append (k : Nat) (s : Text) : toNat (List.replicate k '0' ++ s) = toNat s := by
  rw [toNat, Nat.ofDigitChars_append, Nat.ofDigitChars_replicate_zero, Nat.mul_zero, toNat]

/-- Zeros behind digits multiply by powers of ten. -/
lemma toNat_append_zeros (k : Nat) (s : Text) :
    toNat (s ++ List.replicate k '0') = toNat s * 10 ^ k := by
  rw [toNat, Nat.ofDigitChars_append, Nat.ofDigitChars_replicate_zero, Nat.mul_comm, toNat]

/-- The digits of a positive number do not begin with a zero. -/
lemma head?_ofNat_ne {n : Nat} (hn : 0 < n) : (ofNat n).head? ≠ some '0' := by
  induction n using Nat.strongRecOn with
  | ind n ih =>
    unfold ofNat
    rcases Nat.lt_or_ge n 10 with hlt | hge
    · rw [Nat.toDigits_of_lt_base hlt, List.head?_cons, ne_eq, Option.some.injEq,
        Nat.digitChar_eq_zero]
      omega
    · obtain ⟨c, s, hs⟩ := List.exists_cons_of_ne_nil (ofNat_ne_nil (n / 10))
      have hhead := ih (n / 10) (by omega) (by omega)
      rw [hs] at hhead
      rw [ofNat] at hs
      rw [Nat.toDigits_of_base_le (by decide) hge, hs]
      exact hhead

end Text

namespace Json

/-! ## The parts of a number -/

/-- A text that begins with none of the characters that continue a number. -/
def EndsNumber (rest : Text) : Prop :=
  ∀ c ∈ rest.head?, c.isDigit = false ∧ c ≠ '.' ∧ c ≠ 'e' ∧ c ≠ 'E'

/-- The digits in front of the point of a number: there are some, and a zero stands alone. -/
structure IsWhole (whole : Text) : Prop where
  /-- There is a digit. -/
  ne_nil : whole ≠ []
  /-- There are only digits. -/
  isDigit : ∀ c ∈ whole, c.isDigit = true
  /-- A zero in front is all. -/
  leading : whole.head? = some '0' → whole = ['0']

/-- A text behind a sign. -/
def signed (negative : Bool) (s : Text) : Text :=
  if negative then '-' :: s else s

/-- The sign is in front of all that follows. -/
lemma signed_append (negative : Bool) (s t : Text) :
    signed negative (s ++ t) = signed negative s ++ t := by
  cases negative <;> rfl

/-- A run of digits is read as far as it goes. -/
lemma takeWhile_isDigit {digits rest : Text} (hdigits : ∀ c ∈ digits, c.isDigit = true)
    (hrest : ∀ c ∈ rest.head?, c.isDigit = false) :
    (digits ++ rest).takeWhile Char.isDigit = digits := by
  rw [List.takeWhile_append_of_pos hdigits]
  cases rest with
  | nil => simp
  | cons c rest => simp [hrest c rfl]

/-- What stands behind a run of digits. -/
lemma dropWhile_isDigit {digits rest : Text} (hdigits : ∀ c ∈ digits, c.isDigit = true)
    (hrest : ∀ c ∈ rest.head?, c.isDigit = false) :
    (digits ++ rest).dropWhile Char.isDigit = rest := by
  rw [List.dropWhile_append_of_pos hdigits]
  cases rest with
  | nil => simp
  | cons c rest => simp [hrest c rfl]

/-- No word that is a value begins as a number does. -/
lemma find?_words_signed (negative : Bool) {c : Char} (hc : c.isDigit = true) (s : Text) :
    (words.find? fun word => Text.startsWith (signed negative (c :: s)) word.1) = none := by
  have hne : ∀ a : Char, a.isDigit = false → (a == c) = false := fun a ha =>
    beq_eq_false_iff_ne.2 fun h => by rw [h, hc] at ha; contradiction
  rw [List.find?_eq_none]
  intro word hword
  simp only [words, List.mem_cons, List.not_mem_nil, or_false] at hword
  rcases hword with rfl | rfl | rfl | rfl | rfl | rfl <;> cases negative <;>
    simp [signed, Text.startsWith, List.isPrefixOf, hne, Char.isDigit]

/-- A number that begins with a zero has no other whole digit. -/
lemma number_signed_cons (negative : Bool) {c : Char} (hc : c.isDigit = true) (s : Text) :
    number (signed negative (c :: s)) =
      if c = '0' then numberFrom negative ['0'] s
      else numberFrom negative ((c :: s).takeWhile Char.isDigit)
        ((c :: s).dropWhile Char.isDigit) := by
  have hminus : c ≠ '-' := fun h => absurd hc (by rw [h]; decide)
  by_cases hzero : c = '0'
  · cases negative <;> simp [number, signed, hzero]
  · cases negative <;> simp [number, signed, hminus, hzero, hc]

/-- The sign and the whole digits of a number are read, and then what follows them. -/
lemma scalar_signed (negative : Bool) {whole rest : Text} (hwhole : IsWhole whole)
    (hrest : ∀ c ∈ rest.head?, c.isDigit = false) :
    scalar (signed negative whole ++ rest) = numberFrom negative whole rest := by
  obtain ⟨c, s, rfl⟩ := List.exists_cons_of_ne_nil hwhole.ne_nil
  have hc : c.isDigit = true := hwhole.isDigit c List.mem_cons_self
  have htake : (c :: (s ++ rest)).takeWhile Char.isDigit = c :: s :=
    takeWhile_isDigit hwhole.isDigit hrest
  have hdrop : (c :: (s ++ rest)).dropWhile Char.isDigit = rest :=
    dropWhile_isDigit hwhole.isDigit hrest
  rw [← signed_append, List.cons_append, scalar, find?_words_signed negative hc]
  dsimp only
  rw [number_signed_cons negative hc, htake, hdrop]
  by_cases hzero : c = '0'
  · have hnil : s = [] := (List.cons.inj (hwhole.leading (by rw [hzero]; rfl))).2
    rw [if_pos hzero, hnil, hzero, List.nil_append]
  · rw [if_neg hzero]

/-! ## Integers -/

/-- The digits of a number make up a whole. -/
lemma isWhole_ofNat (n : Nat) : IsWhole (Text.ofNat n) where
  ne_nil := Text.ofNat_ne_nil n
  isDigit := fun _ hc => Text.isDigit_of_mem_ofNat hc
  leading := fun h => by
    rcases Nat.eq_zero_or_pos n with rfl | hn
    · rfl
    · exact absurd h (Text.head?_ofNat_ne hn)

/-- What ends a number begins neither a fraction nor an exponent. -/
lemma EndsNumber.fraction?_exponent? {rest : Text} (h : EndsNumber rest) :
    fraction? rest = none ∧ exponent? rest = none := by
  cases rest with
  | nil => exact ⟨rfl, rfl⟩
  | cons c rest =>
    obtain ⟨-, hpoint, he, hE⟩ := h c rfl
    constructor
    · simp [fraction?, hpoint]
    · simp [exponent?, he, hE]

/-- A short integer has few digits. -/
lemma length_ofNat_le {n : Int} (hn : isShort n = true) :
    (Text.ofNat n.natAbs).length ≤ digitLimit := by
  have hpos : 0 < digitLimit := by decide
  unfold isShort at hn
  generalize digitLimit = limit at *
  exact Binary64.length_toDigits_le hpos (of_decide_eq_true hn)

/-- A short integer reads back from its text. -/
lemma scalar_ofInt {n : Int} (hn : isShort n = true) {rest : Text} (hrest : EndsNumber rest) :
    scalar (Text.ofInt n ++ rest) = .ok (.int n, rest) := by
  obtain ⟨hfraction, hexponent⟩ := hrest.fraction?_exponent?
  have hsigned : Text.ofInt n = signed (decide (n < 0)) (Text.ofNat n.natAbs) := by
    by_cases h : n < 0 <;> simp [Text.ofInt, signed, h]
  have hvalue : (if decide (n < 0) = true then -(n.natAbs : Int) else n.natAbs) = n := by
    split <;> rename_i h <;> rw [decide_eq_true_eq] at h <;> omega
  rw [hsigned, scalar_signed _ (isWhole_ofNat _) fun c hc => (hrest c hc).1, numberFrom]
  simp only [hfraction, hexponent, Option.map_none, Option.getD_none,
    Nat.not_lt.2 (length_ofNat_le hn), if_false, Text.toNat_ofNat, hvalue]

/-! ## Fractions and exponents -/

/-- Places behind the point are read as far as they go. -/
lemma fraction?_cons {places rest : Text} (hne : places ≠ [])
    (hplaces : ∀ c ∈ places, c.isDigit = true) (hrest : ∀ c ∈ rest.head?, c.isDigit = false) :
    fraction? ('.' :: (places ++ rest)) = some (places, rest) := by
  rw [fraction?, takeWhile_isDigit hplaces hrest, dropWhile_isDigit hplaces hrest]
  simp [hne]

/-- An exponent reads back from its text. -/
lemma exponent?_exponentText (e : Int) {rest : Text} (hrest : ∀ c ∈ rest.head?, c.isDigit = false) :
    exponent? ('e' :: (Binary64.exponentText e ++ rest)) = some (e, rest) := by
  obtain ⟨k, digits, htext, hdigits⟩ : ∃ k digits, Binary64.exponentText e =
      (if e < 0 then '-' else '+') :: (List.replicate k '0' ++ digits) ∧
      digits = Text.ofNat e.natAbs := ⟨_, _, rfl, rfl⟩
  have hall : ∀ c ∈ List.replicate k '0' ++ digits, c.isDigit = true := by
    intro c hc
    rcases List.mem_append.1 hc with hc | hc
    · rw [List.eq_of_mem_replicate hc]
      rfl
    · exact Text.isDigit_of_mem_ofNat (hdigits ▸ hc)
  have hempty : (List.replicate k '0' ++ digits).isEmpty = false := by
    have := Text.ofNat_ne_nil e.natAbs
    simp [hdigits, this]
  have hvalue : Text.toNat (List.replicate k '0' ++ digits) = e.natAbs := by
    rw [Text.toNat_zeros_append, hdigits, Text.toNat_ofNat]
  rw [htext, exponent?, List.cons_append]
  by_cases he : e < 0
  · rw [if_pos he, signedDigits?]
    dsimp only
    rw [takeWhile_isDigit hall hrest, dropWhile_isDigit hall hrest, hempty, hvalue]
    simp only [Bool.false_eq_true, if_false, if_true, Option.some.injEq, Prod.mk.injEq, and_true]
    omega
  · rw [if_neg he, signedDigits?]
    dsimp only
    rw [takeWhile_isDigit hall hrest, dropWhile_isDigit hall hrest, hempty, hvalue]
    simp only [Bool.false_eq_true, if_false, Option.some.injEq, Prod.mk.injEq, and_true]
    omega

/-- A number with a fraction is read in double precision. -/
lemma numberFrom_fraction (negative : Bool) (whole : Text) {places rest : Text} (hne : places ≠ [])
    (hplaces : ∀ c ∈ places, c.isDigit = true) (hrest : EndsNumber rest) :
    numberFrom negative whole ('.' :: (places ++ rest)) =
      .ok (.float (Binary64.ofDecimal negative (Text.toNat (whole ++ places)) (-places.length)),
        rest) := by
  have hfraction := fraction?_cons hne hplaces fun c hc => (hrest c hc).1
  have hexponent := hrest.fraction?_exponent?.2
  simp only [numberFrom, hfraction, hexponent, Option.map_some, Option.map_none, Option.getD_some,
    Option.getD_none, Int.zero_sub]

/-- A number with an exponent is read in double precision. -/
lemma numberFrom_exponent (negative : Bool) (whole : Text) (e : Int) {rest : Text}
    (hrest : EndsNumber rest) :
    numberFrom negative whole ('e' :: (Binary64.exponentText e ++ rest)) =
      .ok (.float (Binary64.ofDecimal negative (Text.toNat whole) e), rest) := by
  have hexponent := exponent?_exponentText e fun c hc => (hrest c hc).1
  have hfraction : fraction? ('e' :: (Binary64.exponentText e ++ rest)) = none := rfl
  simp only [numberFrom, hfraction, hexponent, Option.map_some, Option.map_none, Option.getD_some,
    Option.getD_none, List.append_nil, List.length_nil, Int.natCast_zero, Int.sub_zero]

/-- A number with a fraction and an exponent is read in double precision. -/
lemma numberFrom_fraction_exponent (negative : Bool) (whole : Text) (e : Int) {places rest : Text}
    (hne : places ≠ []) (hplaces : ∀ c ∈ places, c.isDigit = true) (hrest : EndsNumber rest) :
    numberFrom negative whole ('.' :: (places ++ 'e' :: (Binary64.exponentText e ++ rest))) =
      .ok (.float (Binary64.ofDecimal negative (Text.toNat (whole ++ places)) (e - places.length)),
        rest) := by
  have hexponent := exponent?_exponentText e fun c hc => (hrest c hc).1
  have hfraction : fraction? ('.' :: (places ++ 'e' :: (Binary64.exponentText e ++ rest))) = _ :=
    fraction?_cons hne hplaces (by simp)
  simp only [numberFrom, hfraction, hexponent, Option.map_some, Option.getD_some]

/-! ## Double-precision numbers -/

/-- The digits of a number without zeros on either side of the point: they begin with another
digit. -/
structure IsLeading (digits : Text) : Prop where
  /-- There is a digit. -/
  ne_nil : digits ≠ []
  /-- There are only digits. -/
  isDigit : ∀ c ∈ digits, c.isDigit = true
  /-- They do not begin with a zero. -/
  head : digits.head? ≠ some '0'

/-- A text that begins like digits without a zero in front, and has only digits, is a whole. -/
lemma IsLeading.isWhole_append {digits more : Text} (h : IsLeading digits)
    (hmore : ∀ c ∈ more, c.isDigit = true) : IsWhole (digits ++ more) where
  ne_nil := by simp [h.ne_nil]
  isDigit := fun c hc => (List.mem_append.1 hc).elim (h.isDigit c) (hmore c)
  leading := fun hzero => by
    obtain ⟨c, s, rfl⟩ := List.exists_cons_of_ne_nil h.ne_nil
    exact absurd hzero h.head

/-- Zeros that are taken off the end of digits go to the exponent. -/
lemma trimZeros_spec (digits : Text) (exponent : Int) :
    ∃ k, digits = (Binary64.trimZeros digits exponent).1 ++ List.replicate k '0' ∧
      (Binary64.trimZeros digits exponent).2 = exponent + k := by
  have hzeros : digits.reverse.takeWhile (· == '0') =
      List.replicate (digits.reverse.takeWhile (· == '0')).length '0' :=
    List.eq_replicate_of_mem fun c hc => by simpa using List.mem_takeWhile_imp hc
  have hsplit := List.takeWhile_append_dropWhile (p := (· == '0')) (l := digits.reverse)
  rw [hzeros] at hsplit
  refine ⟨(digits.reverse.takeWhile (· == '0')).length, ?_, ?_⟩
  · rw [Binary64.trimZeros, ← List.reverse_replicate, ← List.reverse_append, hsplit,
      List.reverse_reverse]
  · have hlength := congrArg List.length hsplit
    rw [List.length_append, List.length_replicate, List.length_reverse] at hlength
    rw [Binary64.trimZeros, List.length_reverse]
    omega

/-- A number in positional notation without places reads back. -/
lemma scalar_positional_of_nonneg (negative : Bool) {digits : Text} (hdigits : IsLeading digits)
    {exponent : Int} (he : 0 ≤ exponent) {rest : Text} (hrest : EndsNumber rest) :
    scalar (signed negative (Binary64.positional digits exponent) ++ rest) =
      .ok (.float (Binary64.ofDecimal negative (Text.toNat digits) exponent), rest) := by
  obtain ⟨k, rfl⟩ := Int.eq_ofNat_of_zero_le he
  have hwhole : IsWhole (digits ++ List.replicate k '0') :=
    hdigits.isWhole_append fun c hc => by rw [List.eq_of_mem_replicate hc]; rfl
  have hshape : signed negative (Binary64.positional digits k) ++ rest =
      signed negative (digits ++ List.replicate k '0') ++ '.' :: (['0'] ++ rest) := by
    rw [Binary64.positional, if_pos he, signed_append, List.append_assoc]
    rfl
  have hvalue : Text.toNat (digits ++ List.replicate k '0' ++ ['0']) =
      Text.toNat digits * 10 ^ (k + 1) := by
    rw [List.append_assoc, ← List.replicate_succ', Text.toNat_append_zeros]
  have hexponent : (-(['0'] : Text).length : Int) = (k : Int) - ((k + 1 : Nat) : Int) := by
    rw [List.length_singleton]
    omega
  rw [hshape, scalar_signed negative hwhole (by simp),
    numberFrom_fraction negative _ (by simp) (by simp) hrest, hvalue, hexponent,
    Binary64.ofDecimal_mul_pow_ten]

/-- A number in positional notation with places reads back. -/
lemma scalar_positional_of_neg (negative : Bool) {digits : Text} (hdigits : IsLeading digits)
    {exponent : Int} (he : exponent < 0) {rest : Text} (hrest : EndsNumber rest) :
    scalar (signed negative (Binary64.positional digits exponent) ++ rest) =
      .ok (.float (Binary64.ofDecimal negative (Text.toNat digits) exponent), rest) := by
  obtain ⟨places, hplaces⟩ : ∃ places, (-exponent).toNat = places := ⟨_, rfl⟩
  obtain ⟨padded, hpadded⟩ : ∃ padded,
      List.replicate (places + 1 - digits.length) '0' ++ digits = padded := ⟨_, rfl⟩
  have hall : ∀ c ∈ padded, c.isDigit = true := by
    intro c hc
    rcases List.mem_append.1 (hpadded ▸ hc) with hc | hc
    · rw [List.eq_of_mem_replicate hc]
      rfl
    · exact hdigits.isDigit c hc
  have hlength : places < padded.length := by
    rw [← hpadded, List.length_append, List.length_replicate]
    omega
  have hpoint : (padded.drop (padded.length - places)).length = places := by
    rw [List.length_drop]
    omega
  -- the whole is one padded zero, or else it begins as the digits do
  have hwhole : IsWhole (padded.take (padded.length - places)) := by
    refine ⟨?_, fun c hc => hall c (List.mem_of_mem_take hc), fun hzero => ?_⟩
    · rw [ne_eq, ← List.length_eq_zero_iff, List.length_take]
      omega
    rcases Nat.lt_or_ge places digits.length with hlong | hshort
    · rw [show places + 1 - digits.length = 0 by omega] at hpadded
      rw [List.head?_take, if_neg (by omega), ← hpadded] at hzero
      exact absurd hzero hdigits.head
    · obtain ⟨k, hk⟩ : ∃ k, places + 1 - digits.length = k + 1 := ⟨places - digits.length, by omega⟩
      have hone : padded.length - places = 1 := by
        rw [← hpadded, List.length_append, List.length_replicate]
        omega
      rw [hone, ← hpadded, hk]
      rfl
  have hshape : signed negative (Binary64.positional digits exponent) ++ rest =
      signed negative (padded.take (padded.length - places)) ++
        '.' :: (padded.drop (padded.length - places) ++ rest) := by
    rw [Binary64.positional, if_neg (Int.not_le.2 he)]
    dsimp only
    rw [hplaces, hpadded, signed_append, List.append_assoc, List.cons_append]
  have hvalue : Text.toNat (padded.take (padded.length - places) ++
      padded.drop (padded.length - places)) = Text.toNat digits := by
    rw [List.take_append_drop, ← hpadded, Text.toNat_zeros_append]
  have hnone : padded.drop (padded.length - places) ≠ [] := by
    rw [ne_eq, ← List.length_eq_zero_iff]
    omega
  have hexponent : (-(places : Int)) = exponent := by
    omega
  rw [hshape, scalar_signed negative hwhole (by simp),
    numberFrom_fraction negative _ hnone (fun c hc => hall c (List.mem_of_mem_drop hc)) hrest,
    hvalue, hpoint, hexponent]

/-- A number in scientific notation reads back. -/
lemma scalar_scientific (negative : Bool) {digits : Text} (hdigits : IsLeading digits)
    (exponent : Int) {rest : Text} (hrest : EndsNumber rest) :
    scalar (signed negative (Binary64.scientific digits exponent) ++ rest) =
      .ok (.float (Binary64.ofDecimal negative (Text.toNat digits) exponent), rest) := by
  have hends : ∀ e : Int, ∀ c ∈ ('e' :: (Binary64.exponentText e ++ rest) : Text).head?,
      c.isDigit = false := by simp
  obtain ⟨d, ds, rfl⟩ := List.exists_cons_of_ne_nil hdigits.ne_nil
  have hd : IsWhole [d] := by
    refine ⟨by simp, by simpa using hdigits.isDigit d List.mem_cons_self, fun h => ?_⟩
    exact absurd h hdigits.head
  cases ds with
  | nil =>
    have hshape : signed negative (Binary64.scientific [d] exponent) ++ rest =
        signed negative [d] ++ 'e' :: (Binary64.exponentText exponent ++ rest) := by
      rw [Binary64.scientific, List.length_singleton, Int.natCast_one, Int.add_sub_cancel,
        signed_append, List.append_assoc, List.cons_append]
    rw [hshape, scalar_signed negative hd (hends exponent),
      numberFrom_exponent negative _ exponent hrest]
  | cons d' ds =>
    have hshape : signed negative (Binary64.scientific (d :: d' :: ds) exponent) ++ rest =
        signed negative [d] ++ '.' :: (d' :: ds ++ 'e' ::
          (Binary64.exponentText (exponent + (d' :: ds).length) ++ rest)) := by
      have hleading : exponent + ((d :: d' :: ds).length : Int) - 1 =
          exponent + (d' :: ds).length := by
        simp only [List.length_cons]
        omega
      rw [Binary64.scientific, hleading, ← signed_append, ← signed_append]
      · simp
      · exact List.cons_ne_nil d' ds
    have hplaces : ∀ c ∈ d' :: ds, c.isDigit = true := fun c hc =>
      hdigits.isDigit c (List.mem_cons_of_mem d hc)
    rw [hshape, scalar_signed negative hd (by simp),
      numberFrom_fraction_exponent negative _ _ (by simp) hplaces hrest, Int.add_sub_cancel]
    rfl

/-- The digits that are chosen for a magnitude, with the zeros at their end given to the exponent,
begin with another digit and read back. -/
lemma isLeading_and_ofDecimal {rank : Fin Binary64.rankCount} (hpos : 0 < rank.val)
    (negative : Bool) {value : Nat} {unit : Int}
    (hshortest : Binary64.shortest rank = (value, unit)) {digits : Text} {exponent : Int}
    (htrimmed : Binary64.trimZeros (Text.ofNat value) unit = (digits, exponent)) :
    IsLeading digits ∧
      Binary64.ofDecimal negative (Text.toNat digits) exponent = .finite negative rank := by
  have hread : Binary64.ofDecimal negative value unit = .finite negative rank := by
    have := Binary64.ofDecimal_shortest hpos negative
    rwa [hshortest] at this
  have hvalue : 0 < value := by
    refine Nat.pos_of_ne_zero fun h0 => ?_
    rw [h0, Binary64.ofDecimal_zero] at hread
    injection hread with _ hrank
    exact absurd (congrArg Fin.val hrank) (Nat.ne_of_lt hpos)
  obtain ⟨k, hdigits, hexponent⟩ := trimZeros_spec (Text.ofNat value) unit
  rw [htrimmed] at hdigits hexponent
  dsimp only at hdigits hexponent
  have hnat : value = Text.toNat digits * 10 ^ k := by
    rw [← Text.toNat_append_zeros, ← hdigits, Text.toNat_ofNat]
  have hne : digits ≠ [] := by
    rintro rfl
    rw [show Text.toNat [] = 0 from rfl, Nat.zero_mul] at hnat
    omega
  have hleading : IsLeading digits := by
    refine ⟨hne, fun c hc => ?_, fun hzero => ?_⟩
    · exact Text.isDigit_of_mem_ofNat (hdigits ▸ List.mem_append_left _ hc)
    · refine Text.head?_ofNat_ne hvalue ?_
      rw [hdigits, List.head?_append, hzero, Option.some_or]
  refine ⟨hleading, ?_⟩
  rw [← hread, hnat, hexponent, ← Binary64.ofDecimal_mul_pow_ten negative _ k (unit + k),
    Int.add_sub_cancel]

/-- A double-precision number reads back from its text. -/
lemma scalar_toText (x : Binary64) {rest : Text} (hrest : EndsNumber rest) :
    scalar (x.toText numberWords ++ rest) = .ok (.float x, rest) := by
  cases x with
  | nan => rfl
  | infinite negative => cases negative <;> rfl
  | finite negative rank =>
    have hsigned : Binary64.toText numberWords (.finite negative rank) =
        signed negative (Binary64.magnitudeText rank) := rfl
    rw [hsigned, Binary64.magnitudeText]
    by_cases hzero : rank.val = 0
    · have hshape : signed negative ['0', '.', '0'] ++ rest =
          signed negative ['0'] ++ '.' :: (['0'] ++ rest) := by
        cases negative <;> rfl
      have hwhole : IsWhole ['0'] := ⟨by simp, by simp, fun _ => rfl⟩
      rw [if_pos hzero, hshape, scalar_signed negative hwhole (by simp),
        numberFrom_fraction negative _ (by simp) (by simp) hrest]
      refine congrArg (fun y => Except.ok (Json.float y, rest)) ?_
      rw [show Text.toNat (['0'] ++ ['0']) = 0 from rfl, Binary64.ofDecimal_zero]
      exact congrArg _ (Fin.ext hzero.symm)
    · obtain ⟨⟨value, unit⟩, hshortest⟩ : ∃ decimal, Binary64.shortest rank = decimal := ⟨_, rfl⟩
      obtain ⟨⟨digits, exponent⟩, htrimmed⟩ : ∃ trimmed,
          Binary64.trimZeros (Text.ofNat value) unit = trimmed := ⟨_, rfl⟩
      obtain ⟨hdigits, hread⟩ :=
        isLeading_and_ofDecimal (Nat.pos_of_ne_zero hzero) negative hshortest htrimmed
      rw [if_neg hzero, hshortest]
      dsimp only
      rw [htrimmed]
      dsimp only
      split
      · rcases Int.lt_or_le exponent 0 with he | he
        · rw [scalar_positional_of_neg negative hdigits he hrest, hread]
        · rw [scalar_positional_of_nonneg negative hdigits he hrest, hread]
      · rw [scalar_scientific negative hdigits exponent hrest, hread]

end Json

end EventPipeline
