import Mathlib.Algebra.Order.Floor.Ring
import Mathlib.Tactic.Linarith

namespace FuryClash.Server

/-! `elo.ts`. The expected score, the only place where a number is not exact, is
a parameter: `1 / (1 + Math.pow(10, (rb - ra) / 400))`. -/

def eloDefault : Int := 1000

def eloKNewPlayer : Nat := 32

def eloKEstablished : Nat := 16

def eloNewPlayerThreshold : Nat := 30

inductive Winner where
  | p1
  | p2
  | draw
  deriving DecidableEq

structure EloChange where
  p1Delta : Int
  p2Delta : Int
  p1NewElo : Int
  p2NewElo : Int
  deriving DecidableEq

section

variable {R : Type} [Field R] [LinearOrder R] [FloorRing R]

/-- `Math.round`, which rounds a half up. -/
def mathRound (x : R) : Int := ⌊x + 1 / 2⌋

def eloK (totalGames : Nat) : Nat :=
  if totalGames < eloNewPlayerThreshold then eloKNewPlayer else eloKEstablished

def Winner.scores : Winner → R × R
  | .p1 => (1, 0)
  | .p2 => (0, 1)
  | .draw => (1 / 2, 1 / 2)

def calculateElo (expectedScore : Int → Int → R) (p1Elo p2Elo : Int)
    (p1TotalGames p2TotalGames : Nat) (winnerId : Winner) : EloChange :=
  let e1 := expectedScore p1Elo p2Elo
  let e2 := 1 - e1
  let (s1, s2) : R × R := winnerId.scores
  let p1Delta := mathRound (eloK p1TotalGames * (s1 - e1))
  let p2Delta := mathRound (eloK p2TotalGames * (s2 - e2))
  ⟨p1Delta, p2Delta, max 100 (p1Elo + p1Delta), max 100 (p2Elo + p2Delta)⟩

variable [IsStrictOrderedRing R] {x y : R} {n : Int}

theorem mathRound_intCast_add (n : Int) (x : R) :
    mathRound (n + x) = n + mathRound x := by
  rw [mathRound, mathRound, add_assoc, Int.floor_intCast_add]

theorem le_mathRound_iff : n ≤ mathRound x ↔ n - 1 / 2 ≤ x := by
  rw [mathRound, Int.le_floor, sub_le_iff_le_add]

theorem mathRound_mono (le : x ≤ y) : mathRound x ≤ mathRound y :=
  Int.floor_le_floor (by linarith)

theorem le_mathRound (le : (n : R) ≤ x) : n ≤ mathRound x :=
  le_mathRound_iff.mpr (by linarith)

theorem mathRound_le (le : x ≤ n) : mathRound x ≤ n :=
  Int.floor_le_iff.mpr (by linarith)

theorem abs_mathRound_le (le : |x| ≤ n) : |mathRound x| ≤ n := by
  obtain ⟨low, high⟩ := abs_le.mp le
  refine abs_le.mpr ⟨le_mathRound ?_, mathRound_le high⟩
  rwa [Int.cast_neg]

/-- Only at a half does the direction of the rounding show. -/
theorem mathRound_neg (noHalf : ∀ n : Int, x + 1 / 2 ≠ n) :
    mathRound (-x) = -mathRound x := by
  have low : (mathRound x : R) < x + 1 / 2 :=
    lt_of_le_of_ne (Int.floor_le _) (noHalf _).symm
  have high : x + 1 / 2 < mathRound x + 1 := Int.lt_floor_add_one _
  rw [mathRound, Int.floor_eq_iff, Int.cast_neg]
  constructor
  · linarith
  · linarith

end

end FuryClash.Server
