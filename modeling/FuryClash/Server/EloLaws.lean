import FuryClash.Server.Elo
import Mathlib.Analysis.SpecialFunctions.Pow.Real

namespace FuryClash.Server

/-! The laws of `calculateElo`, with the expected score in exact real
arithmetic. -/

noncomputable def expectedScore (ra rb : Int) : ℝ :=
  1 / (1 + (10 : ℝ) ^ (((rb - ra : Int) : ℝ) / 400))

/-- What a game changes for a player who has scored `score` in it. -/
noncomputable def eloDelta (own other : Int) (games : Nat) (score : ℝ) : Int :=
  mathRound (eloK games * (score - expectedScore own other))

def Winner.exchange : Winner → Winner
  | .p1 => .p2
  | .p2 => .p1
  | .draw => .draw

def EloChange.exchange (change : EloChange) : EloChange :=
  ⟨change.p2Delta, change.p1Delta, change.p2NewElo, change.p1NewElo⟩

theorem ten_rpow_pos (d : ℝ) : (0 : ℝ) < 10 ^ d :=
  Real.rpow_pos_of_pos (by norm_num) d

theorem expectedScore_pos (ra rb : Int) : 0 < expectedScore ra rb :=
  one_div_pos.mpr (add_pos one_pos (ten_rpow_pos _))

theorem expectedScore_exchange (ra rb : Int) :
    expectedScore rb ra = 1 - expectedScore ra rb := by
  have inverse : (10 : ℝ) ^ (((ra - rb : Int) : ℝ) / 400) =
      ((10 : ℝ) ^ (((rb - ra : Int) : ℝ) / 400))⁻¹ := by
    rw [← Real.rpow_neg (by norm_num)]
    congr 1
    push_cast
    ring
  rw [expectedScore, expectedScore, inverse]
  have pos := ten_rpow_pos (((rb - ra : Int) : ℝ) / 400)
  generalize (10 : ℝ) ^ (((rb - ra : Int) : ℝ) / 400) = t at pos ⊢
  have sum : 1 + t ≠ 0 := by linarith
  field_simp
  ring

theorem expectedScore_lt_one (ra rb : Int) : expectedScore ra rb < 1 := by
  have pos := expectedScore_pos rb ra
  rw [expectedScore_exchange] at pos
  linarith

theorem expectedScore_mono {ra rb ra' rb' : Int}
    (closer : ra - rb ≤ ra' - rb') :
    expectedScore ra rb ≤ expectedScore ra' rb' := by
  refine one_div_le_one_div_of_le (add_pos one_pos (ten_rpow_pos _)) ?_
  have exponent : ((rb' - ra' : Int) : ℝ) ≤ ((rb - ra : Int) : ℝ) := by
    exact_mod_cast (by omega : rb' - ra' ≤ rb - ra)
  have power := Real.rpow_le_rpow_of_exponent_le (x := (10 : ℝ))
    (by norm_num) (div_le_div_of_nonneg_right exponent
      (by norm_num : (0 : ℝ) ≤ 400))
  linarith

theorem expectedScore_self (rating : Int) :
    expectedScore rating rating = 1 / 2 := by
  rw [expectedScore, sub_self, Int.cast_zero, zero_div, Real.rpow_zero]
  norm_num

/-- A power of ten that is the quotient of two odd numbers is one. -/
theorem odd_ratio {p m : Int} (p_odd : Odd p) (m_odd : Odd m) {d : Int}
    (ratio : m * (10 : ℝ) ^ ((d : ℝ) / 400) = p) : d = 0 := by
  have power : ((10 : ℝ) ^ ((d : ℝ) / 400)) ^ 400 = (10 : ℝ) ^ d := by
    rw [← Real.rpow_mul_natCast (by norm_num), Nat.cast_ofNat,
      div_mul_cancel₀ _ (by norm_num), Real.rpow_intCast]
  have powers : (m : ℝ) ^ 400 * (10 : ℝ) ^ d = (p : ℝ) ^ 400 := by
    rw [← power, ← mul_pow, ratio]
  have odd_of (n : Nat) (n_pos : n ≠ 0) (q r : Int) (r_odd : Odd r) :
      q ^ 400 * 10 ^ n ≠ r ^ 400 := by
    intro equal
    have ten : Even ((10 : Int) ^ n) :=
      (by decide : Even (10 : Int)).pow_of_ne_zero n_pos
    have even : Even (r ^ 400) := equal ▸ ten.mul_left _
    exact (Int.not_even_iff_odd.mpr r_odd.pow) even
  obtain ⟨n, rfl | rfl⟩ := d.eq_nat_or_neg
  · by_contra nonzero
    refine odd_of n (by omega) m p p_odd ?_
    rw [zpow_natCast] at powers
    exact_mod_cast powers
  · by_contra nonzero
    refine odd_of n (by omega) p m m_odd ?_
    rw [zpow_neg, zpow_natCast, ← div_eq_mul_inv, div_eq_iff (by positivity)]
      at powers
    exact_mod_cast powers.symm

theorem expectedScore_noHalf {k : Int} (even : Even k) (ra rb m : Int)
    (odd : Odd m) : 2 * (k * expectedScore ra rb) ≠ m := by
  intro half
  have ratio : (m : ℝ) * (10 : ℝ) ^ (((rb - ra : Int) : ℝ) / 400) =
      ((2 * k - m : Int) : ℝ) := by
    have cast : ((2 * k - m : Int) : ℝ) = 2 * k - m := by push_cast; rfl
    rw [cast, ← half, expectedScore]
    have pos := ten_rpow_pos (((rb - ra : Int) : ℝ) / 400)
    generalize (10 : ℝ) ^ (((rb - ra : Int) : ℝ) / 400) = t at pos ⊢
    have sum : 1 + t ≠ 0 := by linarith
    field_simp
    ring
  have level := odd_ratio ((even_two_mul k).sub_odd odd) odd ratio
  have equal : (k : ℝ) = m := by
    rw [← half, expectedScore, level]
    norm_num
    ring
  exact Int.not_even_iff_odd.mpr odd (Int.cast_injective equal ▸ even)

theorem eloK_even (games : Nat) : Even (eloK games : Int) := by
  rw [eloK]
  split
  · decide
  · decide

variable (own other : Int) (games : Nat)

theorem eloDelta_win : 0 ≤ eloDelta own other games 1 := by
  have expected := expectedScore_lt_one own other
  refine le_mathRound ?_
  rw [Int.cast_zero]
  exact mul_nonneg (Nat.cast_nonneg _) (by linarith)

theorem eloDelta_loss : eloDelta own other games 0 ≤ 0 := by
  have expected := expectedScore_pos own other
  refine mathRound_le ?_
  rw [Int.cast_zero]
  exact mul_nonpos_of_nonneg_of_nonpos (Nat.cast_nonneg _) (by linarith)

theorem eloDelta_draw {own other : Int} (lower : own ≤ other) :
    0 ≤ eloDelta own other games (1 / 2) := by
  have expected : expectedScore own other ≤ 1 / 2 := by
    rw [← expectedScore_self other]
    exact expectedScore_mono (by omega)
  refine le_mathRound ?_
  rw [Int.cast_zero]
  exact mul_nonneg (Nat.cast_nonneg _) (by linarith)

theorem eloDelta_bounded {score : ℝ} (low : 0 ≤ score) (high : score ≤ 1) :
    |eloDelta own other games score| ≤ eloK games := by
  have expected := expectedScore_pos own other
  have expected' := expectedScore_lt_one own other
  have surprise : |score - expectedScore own other| ≤ 1 :=
    abs_le.mpr ⟨by linarith, by linarith⟩
  refine abs_mathRound_le ?_
  rw [abs_mul, Nat.abs_cast, Int.cast_natCast]
  exact mul_le_of_le_one_right (Nat.cast_nonneg _) surprise

theorem eloDelta_antitone {own other own' other' : Int}
    (closer : own - other ≤ own' - other') (score : ℝ) :
    eloDelta own' other' games score ≤ eloDelta own other games score := by
  have expected := expectedScore_mono closer
  refine mathRound_mono (mul_le_mul_of_nonneg_left ?_ (Nat.cast_nonneg _))
  linarith

/-- The factor is even, so that half of it is an integer, too. -/
theorem eloK_score (winnerId : Winner) : ∃ c : Int,
    (eloK games : ℝ) * (Winner.scores winnerId).1 = c := by
  obtain ⟨c, half⟩ := eloK_even games
  have half' : (eloK games : ℝ) = c + c := by exact_mod_cast half
  cases winnerId with
  | p1 => exact ⟨eloK games, by simp [Winner.scores]⟩
  | p2 => exact ⟨0, by simp [Winner.scores]⟩
  | draw =>
      refine ⟨c, ?_⟩
      rw [half', Winner.scores]
      ring

theorem eloDelta_sum {games games' : Nat} (same : eloK games = eloK games')
    (winnerId : Winner) :
    eloDelta own other games (Winner.scores winnerId).1 +
      eloDelta other own games' (Winner.scores winnerId).2 = 0 := by
  have scores : (Winner.scores winnerId).2 =
      1 - (Winner.scores (R := ℝ) winnerId).1 := by
    cases winnerId <;> norm_num [Winner.scores]
  have turned : (eloK games' : ℝ) * ((Winner.scores winnerId).2 -
      expectedScore other own) =
      -(eloK games * ((Winner.scores winnerId).1 -
        expectedScore own other)) := by
    rw [scores, expectedScore_exchange own other, same]
    ring
  rw [eloDelta, eloDelta, turned, mathRound_neg, add_neg_cancel]
  intro n half
  obtain ⟨c, score⟩ := eloK_score games winnerId
  refine expectedScore_noHalf (eloK_even games) own other
    (2 * (c - n) + 1) ⟨c - n, rfl⟩ ?_
  push_cast
  rw [← score, ← half]
  ring

structure EloLaws
    (calculate : Int → Int → Nat → Nat → Winner → EloChange) : Prop where
  p1Wins : ∀ p1Elo p2Elo p1TotalGames p2TotalGames,
    0 ≤ (calculate p1Elo p2Elo p1TotalGames p2TotalGames .p1).p1Delta ∧
      (calculate p1Elo p2Elo p1TotalGames p2TotalGames .p1).p2Delta ≤ 0
  p2Wins : ∀ p1Elo p2Elo p1TotalGames p2TotalGames,
    (calculate p1Elo p2Elo p1TotalGames p2TotalGames .p2).p1Delta ≤ 0 ∧
      0 ≤ (calculate p1Elo p2Elo p1TotalGames p2TotalGames .p2).p2Delta
  bounded : ∀ p1Elo p2Elo p1TotalGames p2TotalGames winnerId,
    |(calculate p1Elo p2Elo p1TotalGames p2TotalGames winnerId).p1Delta| ≤
        eloK p1TotalGames ∧
      |(calculate p1Elo p2Elo p1TotalGames p2TotalGames winnerId).p2Delta| ≤
        eloK p2TotalGames
  draw : ∀ p1Elo p2Elo p1TotalGames p2TotalGames,
    (p1Elo < p2Elo →
      0 ≤ (calculate p1Elo p2Elo p1TotalGames p2TotalGames .draw).p1Delta) ∧
    (p2Elo < p1Elo →
      0 ≤ (calculate p1Elo p2Elo p1TotalGames p2TotalGames .draw).p2Delta)
  antitone : ∀ p1Elo p2Elo p1Elo' p2Elo' p1TotalGames p2TotalGames winnerId,
    p1Elo - p2Elo ≤ p1Elo' - p2Elo' →
      (calculate p1Elo' p2Elo' p1TotalGames p2TotalGames winnerId).p1Delta ≤
        (calculate p1Elo p2Elo p1TotalGames p2TotalGames winnerId).p1Delta
  exchange : ∀ p1Elo p2Elo p1TotalGames p2TotalGames winnerId,
    calculate p2Elo p1Elo p2TotalGames p1TotalGames winnerId.exchange =
      (calculate p1Elo p2Elo p1TotalGames p2TotalGames winnerId).exchange
  zeroSum : ∀ p1Elo p2Elo p1TotalGames p2TotalGames winnerId,
    eloK p1TotalGames = eloK p2TotalGames →
      (calculate p1Elo p2Elo p1TotalGames p2TotalGames winnerId).p1Delta +
        (calculate p1Elo p2Elo p1TotalGames p2TotalGames winnerId).p2Delta = 0

theorem calculateElo_eq (p1Elo p2Elo : Int)
    (p1TotalGames p2TotalGames : Nat) (winnerId : Winner) :
    calculateElo expectedScore p1Elo p2Elo p1TotalGames p2TotalGames
        winnerId =
      let p1Delta :=
        eloDelta p1Elo p2Elo p1TotalGames (Winner.scores winnerId).1
      let p2Delta :=
        eloDelta p2Elo p1Elo p2TotalGames (Winner.scores winnerId).2
      ⟨p1Delta, p2Delta, max 100 (p1Elo + p1Delta),
        max 100 (p2Elo + p2Delta)⟩ := by
  rw [calculateElo]
  dsimp only [eloDelta]
  rw [expectedScore_exchange p1Elo p2Elo]

theorem Winner.scores_bounded (winnerId : Winner) :
    (0 ≤ (scores (R := ℝ) winnerId).1 ∧ (scores (R := ℝ) winnerId).1 ≤ 1) ∧
      0 ≤ (scores (R := ℝ) winnerId).2 ∧
        (scores (R := ℝ) winnerId).2 ≤ 1 := by
  cases winnerId <;> norm_num [scores]

theorem calculateElo_laws : EloLaws (calculateElo expectedScore) where
  p1Wins p1Elo p2Elo p1TotalGames p2TotalGames := by
    rw [calculateElo_eq]
    exact ⟨eloDelta_win .., eloDelta_loss ..⟩
  p2Wins p1Elo p2Elo p1TotalGames p2TotalGames := by
    rw [calculateElo_eq]
    exact ⟨eloDelta_loss .., eloDelta_win ..⟩
  bounded p1Elo p2Elo p1TotalGames p2TotalGames winnerId := by
    obtain ⟨first, second⟩ := winnerId.scores_bounded
    rw [calculateElo_eq]
    exact ⟨eloDelta_bounded _ _ _ first.1 first.2,
      eloDelta_bounded _ _ _ second.1 second.2⟩
  draw p1Elo p2Elo p1TotalGames p2TotalGames := by
    rw [calculateElo_eq]
    exact ⟨fun lower => eloDelta_draw _ lower.le,
      fun lower => eloDelta_draw _ lower.le⟩
  antitone p1Elo p2Elo p1Elo' p2Elo' p1TotalGames p2TotalGames winnerId
      closer := by
    rw [calculateElo_eq, calculateElo_eq]
    exact eloDelta_antitone _ closer _
  exchange p1Elo p2Elo p1TotalGames p2TotalGames winnerId := by
    rw [calculateElo_eq, calculateElo_eq]
    cases winnerId <;> rfl
  zeroSum p1Elo p2Elo p1TotalGames p2TotalGames winnerId same := by
    rw [calculateElo_eq]
    exact eloDelta_sum p1Elo p2Elo same winnerId

end FuryClash.Server
