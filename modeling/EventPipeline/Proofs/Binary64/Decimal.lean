import EventPipeline.Binary64.Shortest
import EventPipeline.Proofs.Binary64.Rounding

/-!
# Decimals that read back

Reading a decimal depends on its value only: zeros at the end of the digits may be traded for the
exponent (`ofDecimal_mul_pow_ten`), and the sign is carried along (`ofDecimal_of_positive`). The
digits that are chosen for a finite number read back as that number (`ofDecimal_shortest`): a
candidate is taken only when it does, and the exact expansion, which stands in when there is none,
does as well.
-/

namespace EventPipeline.Binary64

/-! ## Decimals of one value -/

/-- A numeral has one digit more when it is taken ten times. -/
lemma length_toDigits_mul_ten {n : Nat} (h : 0 < n) :
    (Nat.toDigits 10 (n * 10)).length = (Nat.toDigits 10 n).length + 1 := by
  have := Nat.toDigits_append_toDigits (b := 10) (d := 0) (by decide) h (by decide)
  rw [Nat.add_zero, Nat.mul_comm] at this
  rw [← this, List.length_append]
  rfl

/-- A quotient is rounded to the same number with a common factor. -/
lemma ofRatio_mul_right (negative : Bool) (num den : Nat) {k : Nat} (hk : 0 < k) :
    ofRatio negative (num * k) (den * k) = ofRatio negative num den := by
  rw [ofRatio, ofRatio, rankNearest_mul_right num den hk]

/-- A decimal within the range of the format is the quotient that it denotes; of the two powers of
ten one has no exponent. -/
lemma ofDecimal_eq (negative : Bool) (n : Nat) (e : Int) :
    ofDecimal negative n e =
      if n = 0 ∨ (Nat.toDigits 10 n).length + e < -330 then ofRank negative 0
      else if 310 < (Nat.toDigits 10 n).length + e then infinite negative
      else ofRatio negative (n * 10 ^ e.toNat) (10 ^ (-e).toNat) := by
  unfold ofDecimal
  dsimp only
  by_cases he : 0 ≤ e
  · have hexp : (-e).toNat = 0 := by omega
    rw [if_pos he, hexp, Nat.pow_zero]
    rfl
  · have hexp : e.toNat = 0 := by omega
    rw [if_neg he, hexp, Nat.pow_zero, Nat.mul_one]
    rfl

/-- A zero at the end of the digits may be traded for one of the exponent. -/
lemma ofDecimal_mul_ten (negative : Bool) (n : Nat) (e : Int) :
    ofDecimal negative (n * 10) (e - 1) = ofDecimal negative n e := by
  by_cases h0 : n = 0
  · rw [ofDecimal_eq, ofDecimal_eq, if_pos (by omega), if_pos (Or.inl h0)]
  have hleading : ((Nat.toDigits 10 (n * 10)).length : Int) + (e - 1) =
      (Nat.toDigits 10 n).length + e := by
    rw [length_toDigits_mul_ten (Nat.pos_of_ne_zero h0)]
    omega
  have hzero : n * 10 = 0 ↔ n = 0 := by omega
  have hratio : ofRatio negative (n * 10 * 10 ^ (e - 1).toNat) (10 ^ (-(e - 1)).toNat) =
      ofRatio negative (n * 10 ^ e.toNat) (10 ^ (-e).toNat) := by
    rcases Int.lt_or_le 0 e with hpos | hneg
    · have hexp : e.toNat = (e - 1).toNat + 1 := by omega
      have hden : (-(e - 1)).toNat = (-e).toNat := by omega
      rw [hexp, hden, Nat.pow_succ, Nat.mul_comm (10 ^ _) 10, Nat.mul_assoc]
    · have hexp : (-(e - 1)).toNat = (-e).toNat + 1 := by omega
      have hnum : (e - 1).toNat = 0 := by omega
      have hnum' : e.toNat = 0 := by omega
      rw [hexp, hnum, hnum', Nat.pow_zero, Nat.mul_one, Nat.mul_one, Nat.pow_succ,
        ofRatio_mul_right negative n _ (by decide)]
  rw [ofDecimal_eq, ofDecimal_eq, hleading, hratio]
  simp only [hzero]

/-- Zeros at the end of the digits may be traded for the exponent. -/
lemma ofDecimal_mul_pow_ten (negative : Bool) (n k : Nat) (e : Int) :
    ofDecimal negative (n * 10 ^ k) (e - k) = ofDecimal negative n e := by
  induction k with
  | zero => simp
  | succ k ih =>
    have hexp : e - ((k + 1 : Nat) : Int) = e - k - 1 := by omega
    rw [Nat.pow_succ, ← Nat.mul_assoc, hexp, ofDecimal_mul_ten, ih]

/-- Zero is zero whatever its exponent. -/
lemma ofDecimal_zero (negative : Bool) (e : Int) :
    ofDecimal negative 0 e = .finite negative ⟨0, by decide⟩ := by
  rw [ofDecimal_eq, if_pos (Or.inl rfl), ofRank_of_lt]

/-- A rank that is finite with one sign is so with either. -/
lemma ofRank_of_positive {r : Nat} {rank : Fin rankCount} (h : ofRank false r = finite false rank)
    (negative : Bool) : ofRank negative r = finite negative rank := by
  by_cases hlt : r < rankCount
  · rw [ofRank_of_lt hlt] at h ⊢
    injection h with _ h
    rw [h]
  · rw [ofRank, dif_neg hlt] at h
    contradiction

/-- A decimal that reads as a finite number reads as it with either sign. -/
lemma ofDecimal_of_positive {n : Nat} {e : Int} {rank : Fin rankCount}
    (h : ofDecimal false n e = finite false rank) (negative : Bool) :
    ofDecimal negative n e = finite negative rank := by
  rw [ofDecimal_eq] at h ⊢
  split at h
  · rename_i hc
    rw [if_pos hc]
    exact ofRank_of_positive h negative
  · rename_i hc
    rw [if_neg hc]
    split at h
    · contradiction
    · rename_i hl
      rw [if_neg hl]
      exact ofRank_of_positive h negative

/-! ## The exact expansion -/

/-- The magnitudes have at most so many binary digits. -/
lemma unitsOfRank_lt {rank e : Nat} (h : rank < rankCount) (he : e = 2098) :
    unitsOfRank rank < 2 ^ e := by
  have hsig : significandOfRank rank < 2 ^ 53 := by
    have hbinade : 2 * binade = 2 ^ 53 := by decide
    rcases rank_cases rank with ⟨hs, -, hlt⟩ | ⟨-, hlt, -⟩ <;> omega
  have hscale : scaleOfRank rank ≤ 2045 := by
    have : rank / binade < 2047 := Nat.div_lt_of_lt_mul (by rwa [Nat.mul_comm])
    unfold scaleOfRank
    omega
  calc unitsOfRank rank < 2 ^ 53 * 2 ^ scaleOfRank rank :=
        Nat.mul_lt_mul_of_pos_right hsig (Nat.two_pow_pos _)
    _ = 2 ^ (53 + scaleOfRank rank) := (Nat.pow_add 2 53 _).symm
    _ ≤ 2 ^ e := Nat.pow_le_pow_right Nat.two_pos (by omega)

/-- Only zero has no units. -/
lemma unitsOfRank_pos {rank : Nat} (h : 0 < rank) : 0 < unitsOfRank rank := by
  have hsig : 0 < significandOfRank rank := by
    have hbinade : 0 < binade := by decide
    rcases rank_cases rank with ⟨hs, -, -⟩ | ⟨hs, -, -⟩ <;> omega
  exact Nat.mul_pos hsig (Nat.two_pow_pos _)

/-- The exact expansion, with its large exponent kept symbolic. -/
lemma exactDecimal_eq (rank : Nat) :
    ∃ e : Nat, e = 1074 ∧ unitsOfOne = 2 ^ e ∧
      exactDecimal rank = (unitsOfRank rank * 5 ^ e, -(e : Int)) := by
  have hexp : (-1074 : Int) = -((1074 : Nat) : Int) := rfl
  unfold exactDecimal unitsOfOne
  rw [hexp]
  generalize (1074 : Nat) = e
  exact ⟨e, rfl, rfl, rfl⟩

/-- A number has more digits than a power of ten below it has zeros. -/
lemma lt_length_toDigits {n k : Nat} (hk : 0 < k) (h : 10 ^ k ≤ n) :
    k < (Nat.toDigits 10 n).length :=
  Nat.lt_of_not_le fun hle =>
    Nat.not_lt_of_ge h ((Nat.length_toDigits_le_iff (by decide) hk).1 hle)

/-- A number below a power of ten has at most as many digits as that has zeros. -/
lemma length_toDigits_le {n k : Nat} (hk : 0 < k) (h : n < 10 ^ k) :
    (Nat.toDigits 10 n).length ≤ k :=
  (Nat.length_toDigits_le_iff (by decide) hk).2 h

/-- The digits of the exact expansion are within the range of the format. -/
lemma length_exactDecimal {rank e : Nat} (hpos : 0 < rank) (h : rank < rankCount) (he : e = 1074) :
    744 < (Nat.toDigits 10 (unitsOfRank rank * 5 ^ e)).length ∧
      (Nat.toDigits 10 (unitsOfRank rank * 5 ^ e)).length ≤ 1384 := by
  have hlow : 10 ^ 744 ≤ 5 ^ e := by
    rw [he]
    decide +kernel
  have hhigh : 2 ^ 2098 * 5 ^ e ≤ 10 ^ 1384 := by
    rw [he]
    decide +kernel
  have hunits := unitsOfRank_lt h rfl
  generalize 2 ^ 2098 = bound at hhigh hunits
  constructor
  · exact lt_length_toDigits (by decide)
      (Nat.le_trans hlow (Nat.le_mul_of_pos_left (5 ^ e) (unitsOfRank_pos hpos)))
  · have hdigits : unitsOfRank rank * 5 ^ e < bound * 5 ^ e :=
      Nat.mul_lt_mul_of_pos_right hunits (Nat.pow_pos (by decide))
    exact length_toDigits_le (by decide) (Nat.lt_of_lt_of_le hdigits hhigh)

/-- The exact expansion reads back. -/
lemma ofDecimal_exactDecimal {rank : Nat} (hpos : 0 < rank) (h : rank < rankCount) :
    ofDecimal false (exactDecimal rank).1 (exactDecimal rank).2 = ofRank false rank := by
  obtain ⟨e, he, hone, hexact⟩ := exactDecimal_eq rank
  obtain ⟨hlow, hhigh⟩ := length_exactDecimal hpos h he
  have hzero : unitsOfRank rank * 5 ^ e ≠ 0 :=
    (Nat.mul_pos (unitsOfRank_pos hpos) (Nat.pow_pos (by decide))).ne'
  have hden : (10 : Nat) ^ e = unitsOfOne * 5 ^ e := by
    rw [hone, ← Nat.mul_pow]
  rw [hexact, ofDecimal_eq]
  dsimp only
  rw [if_neg (by omega), if_neg (by omega), Int.neg_neg, Int.toNat_natCast, Int.toNat_neg_natCast,
    Nat.pow_zero, Nat.mul_one, hden, ofRatio_mul_right _ _ _ (Nat.pow_pos (by decide)), ofRatio,
    rankNearest_unitsOfRank]

/-! ## The shortest decimal -/

/-- A candidate is only taken when it reads back. -/
lemma readsBack_of_candidate? {rank digits : Nat} {exponent : Int}
    (h : candidate? rank exponent = some digits) : readsBack rank digits exponent = true := by
  unfold candidate? at h
  dsimp only at h
  generalize (scaleDown (unitsOfRank rank) unitsOfOne exponent).1 = num at h
  generalize (scaleDown (unitsOfRank rank) unitsOfOne exponent).2 = den at h
  split at h
  · rename_i hbelow habove
    have hneighbour : digits = num / den ∨ digits = num / den + 1 := by
      injection h with h
      split at h
      · exact Or.inl h.symm
      · split at h <;> omega
    rcases hneighbour with rfl | rfl
    · exact hbelow
    · exact habove
  · rename_i hbelow _
    exact (Option.some.inj h) ▸ hbelow
  · rename_i _ habove
    exact (Option.some.inj h) ▸ habove
  · contradiction

/-- The first candidate reads back, if there is one. -/
lemma readsBack_of_firstCandidate? {rank count : Nat} {exponent : Int} {decimal : Nat × Int}
    (h : firstCandidate? rank count exponent = some decimal) :
    readsBack rank decimal.1 decimal.2 = true := by
  induction count generalizing exponent with
  | zero => contradiction
  | succ count ih =>
    rw [firstCandidate?] at h
    split at h
    · rename_i digits hc
      exact (Option.some.inj h) ▸ readsBack_of_candidate? hc
    · exact ih h

/-- The digits that are chosen for a magnitude read back as the number, whatever its sign. -/
lemma ofDecimal_shortest {rank : Fin rankCount} (hpos : 0 < rank.val) (negative : Bool) :
    ofDecimal negative (shortest rank).1 (shortest rank).2 = finite negative rank := by
  refine ofDecimal_of_positive ?_ negative
  rw [← ofRank_of_lt rank.isLt, shortest]
  cases hfirst : firstCandidate? rank 17 (leadingExponent (unitsOfRank rank) unitsOfOne) with
  | none => exact ofDecimal_exactDecimal hpos rank.isLt
  | some decimal => exact of_decide_eq_true (readsBack_of_firstCandidate? hfirst)

end EventPipeline.Binary64
