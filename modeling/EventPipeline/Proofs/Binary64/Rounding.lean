import EventPipeline.Binary64
import Mathlib.Tactic.Common
import Mathlib.Tactic.Ring

/-!
# Rounding to double precision

Rounding depends on the quotient only and not on how it is written (`rankNearest_mul_right`), gives
every magnitude back that the format has (`rankNearest_unitsOfRank`), and stays within the finite
magnitudes for quotients below `2 ^ 1023` (`rankNearest_lt_rankCount`). Powers with large exponents
are kept symbolic throughout: no step here evaluates one.
-/

namespace EventPipeline.Binary64

/-- One is a power of two in units of the smallest positive number. -/
lemma unitsOfOne_eq : ∃ e, e = 1074 ∧ unitsOfOne = 2 ^ e := by
  unfold unitsOfOne
  generalize 1074 = e
  exact ⟨e, rfl, rfl⟩

/-- One is a positive multiple of the smallest positive number. -/
lemma unitsOfOne_pos : 0 < unitsOfOne := by
  obtain ⟨e, -, he⟩ := unitsOfOne_eq
  exact he ▸ Nat.two_pow_pos e

/-! ## Quotients -/

/-- Rounding a quotient does not depend on a common factor. -/
lemma divNearest_mul_right (num den : Nat) {k : Nat} (hk : 0 < k) :
    divNearest (num * k) (den * k) = divNearest num den := by
  have hlow : 2 * (num % den * k) < den * k ↔ 2 * (num % den) < den := by
    rw [← Nat.mul_assoc, Nat.mul_lt_mul_right hk]
  have hhigh : den * k < 2 * (num % den * k) ↔ den < 2 * (num % den) := by
    rw [← Nat.mul_assoc, Nat.mul_lt_mul_right hk]
  simp only [divNearest, Nat.mul_div_mul_right _ _ hk, Nat.mul_mod_mul_right, hlow, hhigh]

/-- A whole quotient is its own rounding. -/
lemma divNearest_mul_self (q : Nat) {den : Nat} (h : 0 < den) : divNearest (q * den) den = q := by
  rw [divNearest, Nat.mul_div_cancel _ h, Nat.mul_mod_left]
  simp [h]

/-- Rounding adds at most one to the whole part. -/
lemma divNearest_le (num den : Nat) : divNearest num den ≤ num / den + 1 := by
  unfold divNearest
  dsimp only
  split
  · omega
  · split
    · omega
    · have := Nat.mod_lt (num / den) Nat.two_pos
      omega

/-! ## Ranks -/

/-- The nearest rank does not depend on a common factor. -/
lemma rankNearest_mul_right (num den : Nat) {k : Nat} (hk : 0 < k) :
    rankNearest (num * k) (den * k) = rankNearest num den := by
  have hunits : num * k * unitsOfOne = num * unitsOfOne * k := Nat.mul_right_comm _ _ _
  simp only [rankNearest, hunits, Nat.mul_div_mul_right _ _ hk]
  rw [Nat.mul_right_comm den k, divNearest_mul_right _ _ hk]

/-- A number between two powers of two, times a power of two. -/
lemma log2_mul_two_pow {n k : Nat} (scale : Nat) (hlow : 2 ^ k ≤ n) (hhigh : n < 2 ^ (k + 1)) :
    (n * 2 ^ scale).log2 = k + scale := by
  have hpos : 0 < 2 ^ scale := Nat.two_pow_pos scale
  have hn : 0 < n := Nat.lt_of_lt_of_le (Nat.two_pow_pos k) hlow
  refine (Nat.log2_eq_iff (Nat.mul_pos hn hpos).ne').2 ⟨?_, ?_⟩
  · rw [Nat.pow_add]
    exact Nat.mul_le_mul_right _ hlow
  · rw [Nat.add_right_comm, Nat.pow_add]
    exact Nat.mul_lt_mul_of_pos_right hhigh hpos

/-- A rank below the first full binade is a significand without a scale; any other one adds its
binade to the significand. -/
lemma rank_cases (rank : Nat) :
    (significandOfRank rank = rank ∧ scaleOfRank rank = 0 ∧ rank < binade) ∨
      (binade ≤ significandOfRank rank ∧ significandOfRank rank < 2 * binade ∧
        scaleOfRank rank * binade + significandOfRank rank = rank) := by
  have hpos : 0 < binade := by decide
  unfold significandOfRank scaleOfRank
  generalize binade = b at *
  have hdiv := Nat.div_add_mod rank b
  have hmod := Nat.mod_lt rank hpos
  by_cases h : rank / b = 0
  · rw [if_pos h, h]
    rw [h] at hdiv
    exact Or.inl ⟨rfl, rfl, by omega⟩
  · rw [if_neg h]
    obtain ⟨scale, hs⟩ := Nat.exists_eq_add_one_of_ne_zero h
    rw [hs, Nat.mul_add_one, Nat.mul_comm] at hdiv
    rw [hs, Nat.add_sub_cancel]
    exact Or.inr ⟨Nat.le_add_right _ _, by omega, by omega⟩

/-- The scale of a magnitude is read off its number of binary digits. -/
lemma log2_unitsOfRank (rank : Nat) : (unitsOfRank rank).log2 - 52 = scaleOfRank rank := by
  change (significandOfRank rank * 2 ^ scaleOfRank rank).log2 - 52 = scaleOfRank rank
  have hbinade : binade = 2 ^ 52 := by decide
  rcases rank_cases rank with ⟨hsig, hscale, hlt⟩ | ⟨hlow, hhigh, -⟩
  · rw [hbinade] at hlt
    rw [hsig, hscale, Nat.pow_zero, Nat.mul_one]
    by_cases h0 : rank = 0
    · simp [h0]
    · have := (Nat.log2_lt h0).2 hlt
      omega
  · rw [hbinade] at hlow hhigh
    rw [log2_mul_two_pow _ hlow hhigh, Nat.add_sub_cancel_left]

/-- The scale and the significand of a rank make up the rank. -/
lemma scaleOfRank_mul_add_significandOfRank (rank : Nat) :
    scaleOfRank rank * binade + significandOfRank rank = rank := by
  rcases rank_cases rank with ⟨hsig, hscale, -⟩ | ⟨-, -, hsum⟩
  · rw [hsig, hscale, Nat.zero_mul, Nat.zero_add]
  · exact hsum

/-- The rank nearest to a magnitude of the format is its own. -/
lemma rankNearest_unitsOfRank (rank : Nat) : rankNearest (unitsOfRank rank) unitsOfOne = rank := by
  have hfactor : unitsOfRank rank * unitsOfOne =
      significandOfRank rank * (unitsOfOne * Nat.pow 2 (scaleOfRank rank)) := by
    rw [unitsOfRank]
    ring
  have hpos : 0 < unitsOfOne * Nat.pow 2 (scaleOfRank rank) :=
    Nat.mul_pos unitsOfOne_pos (Nat.two_pow_pos _)
  simp only [rankNearest, Nat.mul_div_cancel _ unitsOfOne_pos, log2_unitsOfRank]
  rw [hfactor, divNearest_mul_self _ hpos, scaleOfRank_mul_add_significandOfRank]

/-- A quotient below `2 ^ 1023` is rounded to a finite magnitude. -/
lemma rankNearest_lt_rankCount {num den k : Nat} (hk : k ≤ 1023) (h : num < 2 ^ k * den) :
    rankNearest num den < rankCount := by
  have hden : 0 < den := Nat.pos_of_ne_zero fun h0 => by simp [h0] at h
  obtain ⟨e, he, hone⟩ := unitsOfOne_eq
  have hunits : num * unitsOfOne / den < 2 ^ (k + e) := by
    rw [Nat.div_lt_iff_lt_mul hden, hone, Nat.pow_add]
    calc num * 2 ^ e < 2 ^ k * den * 2 ^ e := Nat.mul_lt_mul_of_pos_right h (Nat.two_pow_pos e)
      _ = 2 ^ k * 2 ^ e * den := Nat.mul_right_comm _ _ _
  have hlog : (num * unitsOfOne / den).log2 < 2097 := by
    by_cases h0 : num * unitsOfOne / den = 0
    · rw [h0]
      decide
    · have := (Nat.log2_lt h0).2 hunits
      omega
  obtain ⟨scale, hscale⟩ : ∃ scale, (num * unitsOfOne / den).log2 - 52 = scale := ⟨_, rfl⟩
  have hwhole : num * unitsOfOne / (den * 2 ^ scale) < 2 ^ 53 := by
    rw [← Nat.div_div_eq_div_mul, Nat.div_lt_iff_lt_mul (Nat.two_pow_pos scale)]
    calc num * unitsOfOne / den < 2 ^ ((num * unitsOfOne / den).log2 + 1) := Nat.lt_log2_self
      _ ≤ 2 ^ (53 + scale) := Nat.pow_le_pow_right Nat.two_pos (by omega)
      _ = 2 ^ 53 * 2 ^ scale := Nat.pow_add 2 53 scale
  have hround : divNearest (num * unitsOfOne) (den * 2 ^ scale) ≤ 2 ^ 53 :=
    Nat.le_trans (divNearest_le _ _) hwhole
  have hle : scale * binade ≤ 2044 * binade := Nat.mul_le_mul_right _ (by omega)
  simp only [rankNearest, hscale]
  exact Nat.lt_of_le_of_lt (Nat.add_le_add hle hround) (by decide)

/-! ## Finite numbers -/

/-- The number of a rank within the finite magnitudes is finite. -/
lemma ofRank_of_lt {negative : Bool} {rank : Nat} (h : rank < rankCount) :
    ofRank negative rank = finite negative ⟨rank, h⟩ :=
  dif_pos h

/-- An integer below `2 ^ 1023` has a finite number. -/
lemma isFinite_ofInt {n : Int} {k : Nat} (hk : k ≤ 1023) (h : n.natAbs < 2 ^ k) :
    (ofInt n).isFinite = true := by
  rw [ofInt, ofRatio, ofRank_of_lt (rankNearest_lt_rankCount hk (by rwa [Nat.mul_one]))]
  rfl

end EventPipeline.Binary64
