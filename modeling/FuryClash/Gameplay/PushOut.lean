import FuryClash.Gameplay.Bounds
import Mathlib.Tactic.Ring

namespace FuryClash.Gameplay

/-! What `physics_push_apart` makes of two fighters: each is pushed by one half
of what is missing, and no further than to the wall. -/

namespace Fighter

structure InStage (f : Fighter) : Prop where
  left : fcStageLeft ≤ f.x
  right : f.x ≤ fcStageRight

def distance (p1 p2 : Fighter) : ℚ := |p2.x - p1.x|

/-- Neither fighter loses anything by being pushed. -/
structure PushedApart (p1 p2 : Fighter) (pushed : Fighter × Fighter) :
    Prop where
  inside : pushed.1.InStage ∧ pushed.2.InStage
  ordered : p1.x < p2.x → pushed.1.x < pushed.2.x
  ordered' : p2.x < p1.x → pushed.2.x < pushed.1.x
  notCloser : distance p1 p2 ≤ distance pushed.1 pushed.2

/-- There is room for one half of a body on either side of their middle, and
they are not on top of each other. -/
structure HasRoom (p1 p2 : Fighter) : Prop where
  apart : 1 / 10 < distance p1 p2
  left : fcStageLeft + 30 ≤ (p1.x + p2.x) / 2
  right : (p1.x + p2.x) / 2 ≤ fcStageRight - 30

variable {p1 p2 : Fighter}

theorem distance_comm (p1 p2 : Fighter) : distance p1 p2 = distance p2 p1 :=
  abs_sub_comm ..

theorem distance_of_lt (order : p1.x < p2.x) :
    distance p1 p2 = p2.x - p1.x :=
  abs_of_pos (sub_pos.mpr order)

theorem physicsPushApart_swap (distinct : p1.x ≠ p2.x) :
    p2.physicsPushApart p1 = (p1.physicsPushApart p2).swap := by
  have same : |p1.x - p2.x| = |p2.x - p1.x| := abs_sub_comm ..
  rw [physicsPushApart, physicsPushApart]
  dsimp only
  rw [same]
  split
  next =>
    rcases lt_or_gt_of_ne distinct with left | right
    · rw [if_neg (by linarith), if_pos (by linarith)]
      simp only [mul_neg, mul_one, sub_neg_eq_add, ← sub_eq_add_neg]
      rfl
    · rw [if_pos (by linarith), if_neg (by linarith)]
      simp only [mul_neg, mul_one, sub_neg_eq_add, ← sub_eq_add_neg]
      rfl
  next => rfl

theorem PushedApart.swap {pushed : Fighter × Fighter}
    (apart : PushedApart p1 p2 pushed) : PushedApart p2 p1 pushed.swap where
  inside := apart.inside.symm
  ordered := apart.ordered'
  ordered' := apart.ordered
  notCloser := by
    rw [distance_comm p2 p1, distance_comm pushed.swap.1]
    exact apart.notCloser

theorem HasRoom.swap (room : HasRoom p1 p2) : HasRoom p2 p1 where
  apart := distance_comm p1 p2 ▸ room.apart
  left := add_comm p1.x p2.x ▸ room.left
  right := add_comm p1.x p2.x ▸ room.right

/-- Where the two are left, the first being on the left. -/
theorem physicsPushApart_x (inside : p1.InStage) (inside' : p2.InStage)
    (order : p1.x < p2.x) (apart : 1 / 10 < p2.x - p1.x)
    (near : p2.x - p1.x < 60) :
    (p1.physicsPushApart p2).1.x =
        max fcStageLeft ((p1.x + p2.x) / 2 - 30) ∧
      (p1.physicsPushApart p2).2.x =
        min ((p1.x + p2.x) / 2 + 30) fcStageRight := by
  have left := inside'.left
  have right := inside.right
  have positive : p2.x - p1.x > 0 := sub_pos.mpr order
  rw [physicsPushApart]
  dsimp only
  rw [abs_of_pos positive, if_pos ⟨near, apart⟩, if_pos positive,
    physicsClampToStage_eq, physicsClampToStage_eq]
  dsimp only
  constructor
  · rw [min_eq_left (by linarith)]
    congr 1
    ring
  · rw [max_eq_right (le_min (by linarith) (by norm_num [fcStageLeft,
      fcStageRight]))]
    congr 1
    ring

theorem physicsPushApart_of_far
    (far : ¬ (distance p1 p2 < 60 ∧ 1 / 10 < distance p1 p2)) :
    p1.physicsPushApart p2 = (p1, p2) :=
  if_neg far

theorem PushedApart.refl (inside : p1.InStage) (inside' : p2.InStage) :
    PushedApart p1 p2 (p1, p2) :=
  ⟨⟨inside, inside'⟩, id, id, le_rfl⟩

/-- Neither is pushed towards the other one, or beyond a wall. -/
theorem physicsPushApart_bounds (inside : p1.InStage) (inside' : p2.InStage)
    (order : p1.x < p2.x) (apart : 1 / 10 < p2.x - p1.x)
    (near : p2.x - p1.x < 60) :
    (fcStageLeft ≤ (p1.physicsPushApart p2).1.x ∧
        (p1.physicsPushApart p2).1.x ≤ p1.x) ∧
      p2.x ≤ (p1.physicsPushApart p2).2.x ∧
        (p1.physicsPushApart p2).2.x ≤ fcStageRight := by
  obtain ⟨first, second⟩ :=
    physicsPushApart_x inside inside' order apart near
  rw [first, second]
  exact ⟨⟨le_max_left .., max_le inside.left (by linarith)⟩,
    le_min (by linarith) inside'.right, min_le_right ..⟩

theorem PushedApart.of_bounds {pushed : Fighter × Fighter}
    (order : p1.x < p2.x)
    (first : fcStageLeft ≤ pushed.1.x ∧ pushed.1.x ≤ p1.x)
    (second : p2.x ≤ pushed.2.x ∧ pushed.2.x ≤ fcStageRight) :
    PushedApart p1 p2 pushed := by
  obtain ⟨left, low⟩ := first
  obtain ⟨high, right⟩ := second
  have order' : pushed.1.x < pushed.2.x := by linarith
  refine ⟨⟨⟨left, by linarith⟩, ⟨by linarith, right⟩⟩, fun _ => order',
    fun order'' => absurd order order''.not_gt, ?_⟩
  rw [distance_of_lt order, distance_of_lt order']
  linarith

/-- A wall takes back what goes beyond it. -/
theorem physicsPushApart_enough_iff (inside : p1.InStage)
    (inside' : p2.InStage) (order : p1.x < p2.x)
    (apart : 1 / 10 < p2.x - p1.x) (near : p2.x - p1.x < 60) :
    60 ≤ distance (p1.physicsPushApart p2).1 (p1.physicsPushApart p2).2 ↔
      HasRoom p1 p2 := by
  obtain ⟨low, high⟩ :=
    physicsPushApart_bounds inside inside' order apart near
  have order' : (p1.physicsPushApart p2).1.x <
      (p1.physicsPushApart p2).2.x := by
    linarith
  obtain ⟨first, second⟩ :=
    physicsPushApart_x inside inside' order apart near
  rw [distance_of_lt order', first, second]
  constructor
  · intro enough
    refine ⟨distance_of_lt order ▸ apart, ?_, ?_⟩
    · have cut := le_max_left fcStageLeft ((p1.x + p2.x) / 2 - 30)
      have free := min_le_left ((p1.x + p2.x) / 2 + 30) fcStageRight
      linarith
    · have cut := min_le_right ((p1.x + p2.x) / 2 + 30) fcStageRight
      have free := le_max_right fcStageLeft ((p1.x + p2.x) / 2 - 30)
      linarith
  · intro room
    have left := room.left
    have right := room.right
    rw [max_eq_right (by linarith), min_eq_left (by linarith)]
    linarith

theorem physicsPushApart_of_lt (inside : p1.InStage) (inside' : p2.InStage)
    (order : p1.x < p2.x) :
    PushedApart p1 p2 (p1.physicsPushApart p2) ∧
      (60 ≤ distance (p1.physicsPushApart p2).1 (p1.physicsPushApart p2).2 ↔
        60 ≤ distance p1 p2 ∨ HasRoom p1 p2) := by
  by_cases near : distance p1 p2 < 60 ∧ 1 / 10 < distance p1 p2
  · obtain ⟨close, apart⟩ := id near
    rw [distance_of_lt order] at close apart
    obtain ⟨first, second⟩ :=
      physicsPushApart_bounds inside inside' order apart close
    refine ⟨.of_bounds order first second, ?_⟩
    rw [or_iff_right near.1.not_ge]
    exact physicsPushApart_enough_iff inside inside' order apart close
  · rw [physicsPushApart_of_far near]
    refine ⟨.refl inside inside', ?_⟩
    constructor
    · exact .inl
    · rintro (far | room)
      · exact far
      · exact not_lt.mp fun close => near ⟨close, room.apart⟩

theorem physicsPushApart_of_ne (inside : p1.InStage) (inside' : p2.InStage)
    (distinct : p1.x ≠ p2.x) :
    PushedApart p1 p2 (p1.physicsPushApart p2) ∧
      (60 ≤ distance (p1.physicsPushApart p2).1 (p1.physicsPushApart p2).2 ↔
        60 ≤ distance p1 p2 ∨ HasRoom p1 p2) := by
  rcases lt_or_gt_of_ne distinct with left | right
  · exact physicsPushApart_of_lt inside inside' left
  · obtain ⟨apart, separated⟩ := physicsPushApart_of_lt inside' inside right
    rw [physicsPushApart_swap distinct] at apart separated
    refine ⟨apart.swap, ?_⟩
    rw [distance_comm]
    refine separated.trans ?_
    rw [distance_comm]
    exact or_congr_right ⟨HasRoom.swap, HasRoom.swap⟩

theorem physicsPushApart_separates (p1 p2 : Fighter) (inside : p1.InStage)
    (inside' : p2.InStage) (distinct : p1.x ≠ p2.x) :
    PushedApart p1 p2 (p1.physicsPushApart p2) ∧
      (distance p1 p2 ≤ 1 / 10 → p1.physicsPushApart p2 = (p1, p2)) ∧
      (60 ≤ distance p1 p2 ∨ HasRoom p1 p2 →
        60 ≤ distance (p1.physicsPushApart p2).1
          (p1.physicsPushApart p2).2) := by
  obtain ⟨apart, separated⟩ :=
    physicsPushApart_of_ne inside inside' distinct
  exact ⟨apart,
    fun close => physicsPushApart_of_far fun near => near.2.not_ge close,
    separated.mpr⟩

def standingAt (x : ℚ) : Fighter := { fighterInit 0 .p1 with x := x }

theorem physicsPushApart_separates_middle :
    60 ≤ distance ((standingAt 600).physicsPushApart (standingAt 610)).1
      ((standingAt 600).physicsPushApart (standingAt 610)).2 :=
  (physicsPushApart_separates (standingAt 600) (standingAt 610)
    ⟨by decide +kernel, by decide +kernel⟩
    ⟨by decide +kernel, by decide +kernel⟩ (by decide +kernel)).2.2
    (.inr ⟨by decide +kernel, by decide +kernel, by decide +kernel⟩)

/-- The push leaves them at least one body apart. -/
def Separates (p1 p2 : Fighter) : Prop :=
  p1.InStage → p2.InStage → p1.x ≠ p2.x →
    PushedApart p1 p2 (p1.physicsPushApart p2) ∧
      60 ≤ distance (p1.physicsPushApart p2).1 (p1.physicsPushApart p2).2

/-- A tenth apart they stay where they are, and in a corner one of them does. -/
theorem not_separates :
    ¬ Separates (standingAt 600) (standingAt (6001 / 10)) ∧
      ¬ Separates (standingAt 50) (standingAt 60) := by
  constructor
  · intro separates
    have apart := (separates ⟨by decide +kernel, by decide +kernel⟩
      ⟨by decide +kernel, by decide +kernel⟩ (by decide +kernel)).2
    exact absurd apart (by decide +kernel)
  · intro separates
    have apart := (separates ⟨by decide +kernel, by decide +kernel⟩
      ⟨by decide +kernel, by decide +kernel⟩ (by decide +kernel)).2
    exact absurd apart (by decide +kernel)

end Fighter

end FuryClash.Gameplay
