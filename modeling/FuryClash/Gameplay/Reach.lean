import FuryClash.Gameplay.Fighter
import Mathlib.Tactic.Linarith
import Mathlib.Tactic.Ring

namespace FuryClash.Gameplay

/-! Where a hit lands, and where it pushes: the two players of a match, who
face each other, are not treated alike by either. -/

namespace Fighter

def reflect (c : ℚ) (f : Fighter) : Fighter :=
  { f with x := c - f.x, facing := -f.facing }

def SameReach (attacker defender : Fighter) : Prop :=
  ∀ c, (attacker.reflect c).hitboxCheck (defender.reflect c) =
    attacker.hitboxCheck defender

def liveBoxes (f : Fighter) : List Rect :=
  f.hitboxes.toList.take f.hitboxCount.toNat

/-- The edge of a box that is turned around with the attacker, measured from
the middle of the defender. -/
def edge (attacker defender : Fighter) (hb : Rect) : ℚ :=
  attacker.x + hb.x * attacker.facing - defender.x

def Level (attacker defender : Fighter) (hb : Rect) : Prop :=
  attacker.y + hb.y < defender.y + defender.hurtbox.y + defender.hurtbox.h ∧
    attacker.y + hb.y + hb.h > defender.y + defender.hurtbox.y

/-- Laid out to the right of its edge, the box reaches the hurtbox. -/
def ReachesRight (attacker defender : Fighter) (hb : Rect) : Prop :=
  Level attacker defender hb ∧
    edge attacker defender hb < defender.hurtbox.w / 2 ∧
    -(defender.hurtbox.w / 2) < edge attacker defender hb + hb.w

def ReachesLeft (attacker defender : Fighter) (hb : Rect) : Prop :=
  Level attacker defender hb ∧
    edge attacker defender hb - hb.w < defender.hurtbox.w / 2 ∧
    -(defender.hurtbox.w / 2) < edge attacker defender hb

variable {attacker defender : Fighter} {hb : Rect}

theorem hitboxCheck_iff : attacker.hitboxCheck defender = true ↔
    ∃ hb ∈ attacker.liveBoxes,
      attacker.x + hb.x * attacker.facing <
          defender.x + defender.hurtbox.x + defender.hurtbox.w ∧
        attacker.x + hb.x * attacker.facing + hb.w >
          defender.x + defender.hurtbox.x ∧
        Level attacker defender hb := by
  rw [hitboxCheck, List.any_eq_true]
  simp only [rectsOverlap, decide_eq_true_eq]
  rfl

theorem overlaps_iff_reachesRight
    (symmetric : defender.hurtbox.w = -2 * defender.hurtbox.x) :
    attacker.x + hb.x * attacker.facing <
          defender.x + defender.hurtbox.x + defender.hurtbox.w ∧
        attacker.x + hb.x * attacker.facing + hb.w >
          defender.x + defender.hurtbox.x ∧
        Level attacker defender hb ↔
      ReachesRight attacker defender hb := by
  rw [ReachesRight, edge]
  constructor
  · rintro ⟨left, right, level⟩
    exact ⟨level, by linarith, by linarith⟩
  · rintro ⟨level, left, right⟩
    exact ⟨by linarith, by linarith, level⟩

/-- The reflected box begins where the reflected edge is, and so lies on the
wrong side of it. -/
theorem reachesRight_reflect (c : ℚ) :
    ReachesRight (attacker.reflect c) (defender.reflect c) hb ↔
      ReachesLeft attacker defender hb := by
  have turned : edge (attacker.reflect c) (defender.reflect c) hb =
      -edge attacker defender hb := by
    simp only [edge, reflect, Int.cast_neg]
    ring
  rw [ReachesRight, turned, ReachesLeft]
  change Level attacker defender hb ∧
    -edge attacker defender hb < defender.hurtbox.w / 2 ∧
      -(defender.hurtbox.w / 2) < -edge attacker defender hb + hb.w ↔ _
  constructor
  · rintro ⟨level, left, right⟩
    exact ⟨level, by linarith, by linarith⟩
  · rintro ⟨level, left, right⟩
    exact ⟨level, by linarith, by linarith⟩

theorem hitboxCheck_iff_reachesRight
    (symmetric : defender.hurtbox.w = -2 * defender.hurtbox.x) :
    attacker.hitboxCheck defender = true ↔
      ∃ hb ∈ attacker.liveBoxes, ReachesRight attacker defender hb := by
  rw [hitboxCheck_iff]
  simp only [overlaps_iff_reachesRight symmetric]

/-- A reflection does not change the reach exactly when the live boxes reach
the hurtbox from either side of their edges, or from neither. -/
theorem sameReach_iff (attacker defender : Fighter)
    (symmetric : defender.hurtbox.w = -2 * defender.hurtbox.x) :
    attacker.SameReach defender ↔
      ((∃ hb ∈ attacker.liveBoxes, ReachesRight attacker defender hb) ↔
        ∃ hb ∈ attacker.liveBoxes, ReachesLeft attacker defender hb) := by
  have reflected (c : ℚ) :
      (attacker.reflect c).hitboxCheck (defender.reflect c) = true ↔
        ∃ hb ∈ attacker.liveBoxes, ReachesLeft attacker defender hb := by
    have turned : (defender.reflect c).hurtbox.w =
        -2 * (defender.reflect c).hurtbox.x := symmetric
    rw [hitboxCheck_iff_reachesRight turned]
    simp only [reachesRight_reflect]
    rfl
  rw [← hitboxCheck_iff_reachesRight symmetric, ← reflected 0,
    ← Bool.eq_iff_iff, SameReach]
  refine ⟨fun same => (same 0).symm, fun same c => ?_⟩
  rw [same, Bool.eq_iff_iff, reflected, reflected]

/-- With one live box: its edge is inside of the hurtbox, or so far away that
the box does not reach it on either side. -/
theorem sameReach_iff_of_one (one : attacker.liveBoxes = [hb])
    (symmetric : defender.hurtbox.w = -2 * defender.hurtbox.x)
    (wide : 0 ≤ hb.w) (body : 0 < defender.hurtbox.w) :
    attacker.SameReach defender ↔ (Level attacker defender hb →
      |edge attacker defender hb| < defender.hurtbox.w / 2 ∨
      defender.hurtbox.w / 2 + hb.w ≤ |edge attacker defender hb|) := by
  rw [sameReach_iff _ _ symmetric, one]
  simp only [List.mem_singleton, exists_eq_left, ReachesRight, ReachesLeft]
  rw [and_congr_right_iff]
  refine imp_congr_right fun _ => ?_
  rw [abs_lt, le_abs]
  generalize edge attacker defender hb = u
  constructor
  · intro same
    by_cases left : -(defender.hurtbox.w / 2) < u
    · by_cases right : u < defender.hurtbox.w / 2
      · exact .inl ⟨left, right⟩
      · refine .inr (.inl (not_lt.mp fun near => right ?_))
        exact (same.mpr ⟨by linarith, left⟩).1
    · refine .inr (.inr (not_lt.mp fun near => left ?_))
      exact (same.mp ⟨by linarith, by linarith⟩).2
  · rintro (⟨left, right⟩ | right | left)
    · exact iff_of_true ⟨right, by linarith⟩ ⟨by linarith, left⟩
    · exact iff_of_false (fun near => by linarith [near.1])
        fun near => by linarith [near.1]
    · exact iff_of_false (fun near => by linarith [near.2])
        fun near => by linarith [near.2]

/-- Close to the ground, in the active window of an air attack. -/
def punching (playerSlot : Slot) (x : ℚ) : Fighter :=
  activateHitbox jumpLP
    { fighterInit 0 playerSlot with
      x := x
      y := 500
      state := .attack
      moveId := jumpMoveFirst
      stateFrame := jumpLP.startup
      damagePct := 100 }

theorem sameReach_iff_touching :
    (punching .p1 980).SameReach (fighterInit 0 .p2) ↔
      ((∃ hb ∈ (punching .p1 980).liveBoxes,
          ReachesRight (punching .p1 980) (fighterInit 0 .p2) hb) ↔
        ∃ hb ∈ (punching .p1 980).liveBoxes,
          ReachesLeft (punching .p1 980) (fighterInit 0 .p2) hb) :=
  sameReach_iff _ _ (by decide +kernel)

/-- From 80 away the first player hits the second one. In the image he does
not. -/
theorem not_sameReach_eighty :
    ¬ (punching .p1 900).SameReach (fighterInit 0 .p2) := by
  intro same
  exact absurd (same 0) (by decide +kernel)

def KnockedAway (attacker defender : Fighter) : Prop :=
  0 ≤ (attacker.hitboxResolve defender).2.vx * (defender.x - attacker.x)

theorem fighterApplyHit_vx (f : Fighter) (hp : HitProperties)
    (blocked : Bool) : (f.fighterApplyHit hp blocked).vx =
      -hp.knockbackX * if blocked then 3 / 10 else 1 := by
  rw [fighterApplyHit]
  split_ifs
  all_goals simp only [mul_one]

/-- A hit sends the defender to the left, wherever it comes from. -/
theorem knockedAway_iff (attacker defender : Fighter)
    (pushes : 0 ≤ attacker.hitProps.knockbackX) :
    attacker.KnockedAway defender ↔
      attacker.hitProps.knockbackX = 0 ∨ defender.x ≤ attacker.x := by
  rw [KnockedAway, hitboxResolve, fighterApplyHit_vx]
  have speed : (0 : ℚ) < if decide (defender.state = .block ∨
      defender.state = .crouch) = true then 3 / 10 else 1 := by
    split <;> norm_num
  generalize (if decide (defender.state = .block ∨ defender.state = .crouch) =
    true then (3 / 10 : ℚ) else 1) = s at speed ⊢
  dsimp only
  constructor
  · intro away
    rcases pushes.eq_or_lt with still | pushes
    · exact .inl still.symm
    · refine .inr (not_lt.mp fun ahead => ?_)
      have toward := mul_pos (mul_pos pushes speed) (sub_pos.mpr ahead)
      linarith
  · rintro (still | behind)
    · rw [still, neg_zero, zero_mul, zero_mul]
    · have away := mul_nonneg (mul_nonneg pushes speed.le)
        (sub_nonneg.mpr behind)
      linarith

theorem knockedAway_iff_behind :
    (punching .p2 980).KnockedAway (fighterInit 0 .p1) ↔
      (punching .p2 980).hitProps.knockbackX = 0 ∨
        (fighterInit 0 .p1).x ≤ (punching .p2 980).x :=
  knockedAway_iff _ _ (by decide +kernel)

/-- The second player is pulled towards the first. -/
theorem not_knockedAway_eighty :
    ¬ (punching .p1 900).KnockedAway (fighterInit 0 .p2) := by
  rw [KnockedAway]
  decide +kernel

end Fighter

end FuryClash.Gameplay
