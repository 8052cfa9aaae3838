import FuryClash.Gameplay.PushOut
import FuryClash.Gameplay.Reach
import FuryClash.Gameplay.Wounds

namespace FuryClash.Gameplay

open FuryClash.Data

/-! The two players never change sides, and so only the first one of them ever
hits: the box of a fighter who faces left lies behind the fist. -/

namespace Fighter

variable (f : Fighter)

theorem physics_x (opponent : Fighter) :
    (physics (faceOpponent opponent f)).x =
      max fcStageLeft (min (f.x + f.vx * fcTickDt) fcStageRight) := by
  obtain ⟨facing, _, faced⟩ := faceOpponent_eq f opponent
  have fell (g : Fighter) : (physicsApplyGravity g).x = g.x ∧
      (physicsApplyGravity g).vx = g.vx := by
    rw [physicsApplyGravity]
    split <;> exact ⟨rfl, rfl⟩
  have moved (g : Fighter) : (physicsMove g).x = g.x + g.vx * fcTickDt := by
    rw [physicsMove]
    dsimp only
    split_ifs <;> rfl
  rw [physics, physicsClampToStage_eq]
  dsimp only
  rw [moved, (fell _).1, (fell _).2, faced]

theorem fighterTick_x (input : UInt16) (opponent : Fighter) :
    (f.fighterTick input opponent).x = f.x ∨
      (f.fighterTick input opponent).x =
        max fcStageLeft (min (f.x + f.vx * fcTickDt) fcStageRight) := by
  rw [fighterTick]
  split
  next => exact .inl rfl
  next =>
    split
    next => exact .inl rfl
    next =>
      right
      rw [← physics_x f opponent]
      generalize physics (faceOpponent opponent f) = g
      dsimp only
      have landed := (land_steady g g.isAirborne).x
      split
      next => exact (attackTick_steady ..).x.trans landed
      next =>
        exact (jumpPunch_steady ..).x.trans
          ((groundMove_steady ..).x.trans landed)

/-- A tick is a sixtieth of a second. -/
theorem fighterTick_near {f : Fighter} (placed : f.Placed) (slow : f.Slow)
    (input : UInt16) (opponent : Fighter) :
    f.x - 10 / 3 ≤ (f.fighterTick input opponent).x ∧
      (f.fighterTick input opponent).x ≤ f.x + 10 / 3 := by
  obtain ⟨backward, forward⟩ := abs_le.mp slow.vx
  have left := placed.left
  have right := placed.right
  have dt : fcTickDt = 1 / 60 := rfl
  rcases fighterTick_x f input opponent with still | moved
  · rw [still]
    constructor <;> linarith
  · rw [moved, dt]
    constructor
    · exact le_max_of_le_right (le_min (by linarith) (by linarith))
    · refine max_le (by linarith) ((min_le_left _ _).trans (by linarith))

theorem exchanged_x (f opponent : Fighter) :
    (f.exchanged opponent).x = f.x := by
  rw [exchanged, hitboxResolve, fighterApplyHit]
  split_ifs <;> rfl

/-- The hitbox of a punch begins at most ten pixels in front of the fighter,
on the side that it faces, and ends to the right of there. -/
theorem airMoves_near : ∀ mv ∈ airMoves, mv.hitbox.x ≤ 10 := by
  decide +kernel

/-- Facing left, a fighter reaches nobody who is forty pixels away. -/
theorem hitboxCheck_of_facing_left {f opponent : Fighter}
    (airborn : f.Airborn) (few : f.hitboxCount ≤ 1) (facing : f.facing = -1)
    (hurtbox : opponent.hurtbox = ⟨-30, -160, 60, 160⟩)
    (far : opponent.x + 40 ≤ f.x) : f.hitboxCheck opponent = false := by
  apply Bool.eq_false_iff.mpr
  intro check
  have live := hitboxCheck_live check
  obtain ⟨mv, air, _, first⟩ := airborn.hit live
  have one : f.hitboxCount.toNat = 1 := by omega
  have boxes : f.liveBoxes = [mv.hitbox] := by
    rw [liveBoxes, one, List.take_add_one, ← first]
    simp
  obtain ⟨hb, mem, left, _⟩ := hitboxCheck_iff.mp check
  rw [boxes] at mem
  cases List.mem_singleton.mp mem
  have near := airMoves_near mv air
  rw [facing, hurtbox] at left
  push_cast at left
  linarith

/-- Whoever the wall holds back, the other one goes his own half of the way. -/
theorem physicsPushApart_apart {p1 p2 : Fighter} (inside : p1.InStage)
    (inside' : p2.InStage) (apart : p1.x + 140 / 3 ≤ p2.x) :
    (p1.physicsPushApart p2).1.x + 160 / 3 ≤
      (p1.physicsPushApart p2).2.x := by
  by_cases near : p2.x - p1.x < 60
  · obtain ⟨first, second⟩ := physicsPushApart_x inside inside'
      (by linarith) (by linarith) near
    have left := inside.left
    have right := inside'.right
    have width : fcStageRight = fcStageLeft + 1180 := by
      norm_num [fcStageRight, fcStageLeft]
    rw [first, second]
    rcases max_choice fcStageLeft ((p1.x + p2.x) / 2 - 30) with wall | free
    all_goals
      rcases min_choice ((p1.x + p2.x) / 2 + 30) fcStageRight with
        free' | wall'
    · rw [wall, free']
      linarith
    · rw [wall, wall']
      linarith
    · rw [free, free']
      linarith
    · rw [free, wall']
      linarith
  · rw [physicsPushApart_of_far]
    · dsimp only
      linarith
    · rintro ⟨close, _⟩
      rw [distance_of_lt (by linarith)] at close
      exact near close

theorem physicsPushApart_congr {p1 p2 p1' p2' : Fighter}
    (first : p1'.x = p1.x) (second : p2'.x = p2.x) :
    (p1'.physicsPushApart p2').1.x = (p1.physicsPushApart p2).1.x ∧
      (p1'.physicsPushApart p2').2.x = (p1.physicsPushApart p2).2.x := by
  rw [physicsPushApart, physicsPushApart]
  dsimp only
  rw [first, second]
  split
  next =>
    simp only [physicsClampToStage_eq]
    exact ⟨trivial, trivial⟩
  next => exact ⟨first, second⟩

end Fighter

namespace SimState

open Fighter

variable {s : SimState} {inputs : UInt16 × UInt16}

theorem step_x (goesOn : s.round.matchOver = false)
    (inputs : UInt16 × UInt16) :
    (step s inputs).p1.x =
        ((s.moved inputs .p1).physicsPushApart (s.moved inputs .p2)).1.x ∧
      (step s inputs).p2.x =
        ((s.moved inputs .p1).physicsPushApart (s.moved inputs .p2)).2.x := by
  have same := physicsPushApart_congr
    (exchanged_x (s.moved inputs .p1) (s.moved inputs .p2))
    (exchanged_x (s.moved inputs .p2) (s.moved inputs .p1))
  have fighters : fightersTick inputs.1 inputs.2 s.p1 s.p2 =
      ((s.moved inputs .p1).exchanged (s.moved inputs .p2)).physicsPushApart
        ((s.moved inputs .p2).exchanged (s.moved inputs .p1)) := by
    rw [fightersTick, resolveHits_eq]
    rfl
  rw [step, simulationTick, goesOn]
  simp only [Bool.false_eq_true, if_false, fighters]
  exact same

/-- The first player is on the left and the second on the right, and they face
each other. -/
structure Sides (s : SimState) : Prop where
  apart : s.p1.x + 160 / 3 ≤ s.p2.x
  right : s.p1.facing = 1
  left : s.p2.facing = -1

structure Sided (s : SimState) : Prop where
  plain : s.Plain
  airborn : ∀ slot, (s.fighter slot).Airborn
  slow : ∀ slot, (s.fighter slot).Slow
  hurtbox : ∀ slot, (s.fighter slot).hurtbox = ⟨-30, -160, 60, 160⟩
  sides : s.Sides

theorem Plain.bounded_fighter (plain : s.Plain) (slot : Slot) :
    (s.fighter slot).Bounded := by
  cases slot
  · exact plain.bounded.p1
  · exact plain.bounded.p2

theorem Plain.moved_bounded (plain : s.Plain) (slot : Slot) :
    (s.moved inputs slot).Bounded := by
  obtain ⟨opponent, moved⟩ := s.moved_eq inputs slot
  rw [moved]
  exact fighterTick_bounded (plain.bounded_fighter slot) _ opponent

theorem Sided.near (sided : s.Sided) (slot : Slot) :
    (s.fighter slot).x - 10 / 3 ≤ (s.moved inputs slot).x ∧
      (s.moved inputs slot).x ≤ (s.fighter slot).x + 10 / 3 := by
  obtain ⟨opponent, moved⟩ := s.moved_eq inputs slot
  rw [moved]
  exact fighterTick_near (sided.plain.bounded_fighter slot).toPlaced
    (sided.slow slot) _ opponent

theorem Sided.moved_apart (sided : s.Sided) :
    (s.moved inputs .p1).x + 140 / 3 ≤ (s.moved inputs .p2).x := by
  have apart := sided.sides.apart
  have first : (s.moved inputs .p1).x ≤ s.p1.x + 10 / 3 :=
    (sided.near .p1).2
  have second : s.p2.x - 10 / 3 ≤ (s.moved inputs .p2).x :=
    (sided.near .p2).1
  linarith

/-- Neither turns around: each sees the other one on the same side. -/
theorem Sided.moved_facing (sided : s.Sided) :
    (s.moved inputs .p1).facing = 1 ∧ (s.moved inputs .p2).facing = -1 := by
  have apart := sided.sides.apart
  have first : (s.moved inputs .p1).x ≤ s.p1.x + 10 / 3 :=
    (sided.near .p1).2
  constructor
  · obtain ⟨facing, turned, keeps⟩ := fighterTick_keeps s.p1 inputs.1 s.p2
    refine keeps.facing.trans ?_
    rcases turned with same | seen
    · exact same.trans sided.sides.right
    · exact seen.trans (if_pos (by linarith))
  · obtain ⟨facing, turned, keeps⟩ :=
      fighterTick_keeps s.p2 inputs.2 (s.moved inputs .p1)
    refine keeps.facing.trans ?_
    rcases turned with same | seen
    · exact same.trans sided.sides.left
    · exact seen.trans (if_neg (by linarith))

structure Sided.Moved (s : SimState) (inputs : UInt16 × UInt16)
    (slot : Slot) : Prop where
  airborn : (s.moved inputs slot).Airborn
  slow : (s.moved inputs slot).Slow
  hurtbox : (s.moved inputs slot).hurtbox = ⟨-30, -160, 60, 160⟩

theorem Sided.moved (sided : s.Sided) (slot : Slot) :
    Sided.Moved s inputs slot := by
  obtain ⟨facing, opponent, turned, keeps⟩ := @moved_keeps s inputs slot
  refine ⟨keeps.airborn { sided.airborn slot with }, keeps.slow ⟨?_, ?_⟩,
    keeps.hurtbox.trans (sided.hurtbox slot)⟩
  · rcases turned with same | seen
    · exact same ▸ (sided.slow slot).facing
    · dsimp only
      rw [seen, faces]
      split
      next => exact .inl rfl
      next => exact .inr rfl
  · exact (sided.slow slot).vx

/-- The second player never hits. -/
theorem Sided.not_lands (sided : s.Sided) (inputs : UInt16 × UInt16) :
    s.lands inputs .p2 = false := by
  have apart := @Sided.moved_apart s inputs sided
  rw [lands_eq sided.plain.goesOn.goesOn]
  exact hitboxCheck_of_facing_left (sided.moved .p2).airborn
    (sided.plain.moved_bounded .p2).hitboxes.2 sided.moved_facing.2
    (sided.moved .p1).hurtbox (by dsimp only [Slot.other]; linarith)

theorem Sided.step (sided : s.Sided) : (SimState.step s inputs).Sided where
  plain := step_plain sided.plain
  airborn slot :=
    (sided.plain.wounded slot).airborn (sided.moved slot).airborn
  slow slot :=
    (sided.plain.wounded slot).slow (sided.moved slot).slow
      (sided.moved slot.other).airborn
  hurtbox slot :=
    (sided.plain.wounded slot).hurtbox.trans (sided.moved slot).hurtbox
  sides := by
    obtain ⟨first, second⟩ := step_x sided.plain.goesOn.goesOn inputs
    have placed := (@Plain.moved_bounded s inputs sided.plain .p1).toPlaced
    have placed' := (@Plain.moved_bounded s inputs sided.plain .p2).toPlaced
    refine ⟨?_, ?_, ?_⟩
    · rw [first, second]
      exact physicsPushApart_apart ⟨placed.left, placed.right⟩
        ⟨placed'.left, placed'.right⟩ sided.moved_apart
    · exact (sided.plain.wounded .p1).facing.trans sided.moved_facing.1
    · exact (sided.plain.wounded .p2).facing.trans sided.moved_facing.2

theorem simulationInit_sided (p1FighterId p2FighterId : Int)
    (p1Loadout p2Loadout : LoadoutType) :
    (simulationInit p1FighterId p2FighterId p1Loadout p2Loadout).Sided := by
  have untouched := simulationInit_untouched p1FighterId p2FighterId p1Loadout
    p2Loadout
  have first := untouched .p1
  have second := untouched .p2
  refine ⟨simulationInit_plain .., fun slot => ?_, fun slot => ⟨?_, ?_⟩,
    fun slot => (untouched slot).hurtbox, ?_, first.facing, second.facing⟩
  · refine .unarmed (fun attacks => ?_) (untouched slot).count
    cases (untouched slot).state.symm.trans attacks
  · rw [(untouched slot).facing]
    split
    next => exact .inl rfl
    next => exact .inr rfl
  · rw [(untouched slot).vx, abs_zero]
    norm_num
  · have left : (simulationInit p1FighterId p2FighterId p1Loadout
        p2Loadout).p1.x = 300 := first.x
    have right : (simulationInit p1FighterId p2FighterId p1Loadout
        p2Loadout).p2.x = 980 := second.x
    rw [left, right]
    norm_num

theorem always_sides (p1FighterId p2FighterId : Int)
    (p1Loadout p2Loadout : LoadoutType) (inputs : List (UInt16 × UInt16)) :
    step.Always Sides
      (simulationInit p1FighterId p2FighterId p1Loadout p2Loadout) inputs :=
  Machine.always_of_invariant Sided (fun _ _ sided => sided.step)
    (fun _ sided => sided.sides) (simulationInit_sided ..) inputs

/-- What the first player has at the start it keeps. -/
structure Unharmed (first s : SimState) : Prop where
  health : s.p1.health = first.p1.health
  state : s.p1.state ≠ .hit

theorem Sided.step_unharmed (sided : s.Sided) {first : SimState}
    (unharmed : Unharmed first s) :
    Unharmed first (SimState.step s inputs) := by
  have missed : (s.moved inputs (Slot.other .p1)).hitboxCheck
      (s.moved inputs .p1) = false :=
    (lands_eq sided.plain.goesOn.goesOn inputs .p2).symm.trans
      (sided.not_lands inputs)
  have wounded := @Plain.wounded s inputs sided.plain .p1
  refine ⟨?_, ?_⟩
  · refine wounded.health.trans ?_
    rw [if_neg (Bool.eq_false_iff.mp missed)]
    exact (fighterTick_health _ _ _).trans unharmed.health
  · intro hit
    have hit := wounded.state.symm.trans hit
    rw [if_neg (Bool.eq_false_iff.mp missed)] at hit
    exact unharmed.state (moved_hit.mp hit)

/-- In every match, whoever plays it: the second player lands no hit, and the
first one loses no health. -/
theorem onlyFirstHits (p1FighterId p2FighterId : Int)
    (p1Loadout p2Loadout : LoadoutType) (inputs : List (UInt16 × UInt16)) :
    step.Along (fun s inputs => s.lands inputs .p2 = false)
        (simulationInit p1FighterId p2FighterId p1Loadout p2Loadout) inputs ∧
      step.Always (Unharmed
          (simulationInit p1FighterId p2FighterId p1Loadout p2Loadout))
        (simulationInit p1FighterId p2FighterId p1Loadout p2Loadout)
        inputs := by
  have sided := simulationInit_sided p1FighterId p2FighterId p1Loadout
    p2Loadout
  have idle : (simulationInit p1FighterId p2FighterId p1Loadout
      p2Loadout).p1.state = .idle :=
    (simulationInit_untouched _ _ _ _ .p1).state
  constructor
  · exact Machine.along_of_invariant Sided (fun _ _ sided => sided.step)
      (fun _ inputs sided => sided.not_lands inputs) sided inputs
  · refine Machine.always_of_invariant
      (fun s : SimState => s.Sided ∧ Unharmed _ s)
      (fun _ _ inv => ⟨inv.1.step, inv.1.step_unharmed inv.2⟩)
      (fun _ inv => inv.2) ⟨sided, rfl, ?_⟩ inputs
    rw [idle]
    decide

end SimState

end FuryClash.Gameplay
