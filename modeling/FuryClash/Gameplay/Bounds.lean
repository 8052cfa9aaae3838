import FuryClash.Gameplay.SimState
import Mathlib.Tactic.Linarith

namespace FuryClash.Gameplay

open FuryClash.Data

structure HitProperties.Nonneg (hp : HitProperties) : Prop where
  damage : 0 ≤ hp.damage
  chipDamage : 0 ≤ hp.chipDamage
  hitstun : 0 ≤ hp.hitstun
  blockstun : 0 ≤ hp.blockstun

theorem ryuMoves_nonneg (i : Fin 5) : ryuMoves[i].hit.Nonneg := by
  have all : ∀ i : Fin 5, 0 ≤ ryuMoves[i].hit.damage ∧
      0 ≤ ryuMoves[i].hit.chipDamage ∧ 0 ≤ ryuMoves[i].hit.hitstun ∧
      0 ≤ ryuMoves[i].hit.blockstun := by
    decide +kernel
  obtain ⟨damage, chipDamage, hitstun, blockstun⟩ := all i
  exact ⟨damage, chipDamage, hitstun, blockstun⟩

theorem fighterDataGet_nonneg {fighterId : Int} {fd : FighterData}
    (found : fighterDataGet fighterId = some fd) {i : Nat}
    (known : i < fd.moveCount) : fd.moves[i].hit.Nonneg := by
  rw [fighterDataGet] at found
  split at found
  next =>
    cases found
    exact ryuMoves_nonneg ⟨i, known⟩
  next =>
    split at found
    next =>
      cases found
      exact ryuMoves_nonneg ⟨i, known⟩
    next => cases found

namespace Fighter

structure Placed (f : Fighter) : Prop where
  left : fcStageLeft ≤ f.x
  right : f.x ≤ fcStageRight
  ground : f.y ≤ fcGroundY

structure Fit (f : Fighter) : Prop where
  alive : 0 ≤ f.health
  health : f.health ≤ f.maxHealth
  hitstun : 0 ≤ f.hitstun
  blockstun : 0 ≤ f.blockstun
  facing : f.facing = 1 ∨ f.facing = -1
  hitboxes : 0 ≤ f.hitboxCount ∧ f.hitboxCount ≤ 1
  move : f.state = .attack → ∃ fd ∈ fighterDataGet f.fighterId,
    f.moveId < fd.moveCount
  hitProps : f.hitProps.Nonneg
  damagePct : 0 ≤ f.damagePct

structure Steady (f f' : Fighter) : Prop where
  health : f'.health = f.health
  x : f'.x = f.x
  y : f'.y = f.y
  fit : f.Fit → f'.Fit

theorem Steady.refl (f : Fighter) : Steady f f := ⟨rfl, rfl, rfl, id⟩

theorem Steady.trans {f f' f'' : Fighter} (first : Steady f f')
    (second : Steady f' f'') : Steady f f'' where
  health := second.health.trans first.health
  x := second.x.trans first.x
  y := second.y.trans first.y
  fit fit := second.fit (first.fit fit)

variable (f : Fighter)

theorem faceOpponent_steady (opponent : Fighter) :
    Steady f (faceOpponent opponent f) := by
  rw [faceOpponent]
  split
  next =>
    refine ⟨rfl, rfl, rfl, fun fit => { fit with facing := ?_ }⟩
    dsimp only
    split
    next => exact .inl rfl
    next => exact .inr rfl
  next => exact .refl f

theorem land_steady (airborne : Bool) : Steady f (land airborne f) := by
  rw [land]
  split
  next =>
    exact ⟨rfl, rfl, rfl, fun fit => { fit with
      hitboxes := ⟨Int.le_refl 0, Int.zero_le_ofNat 1⟩
      move := fun attacks => by cases attacks }⟩
  next => exact .refl f

theorem activateHitbox_steady {mv : MoveData} (nonneg : mv.hit.Nonneg) :
    Steady f (activateHitbox mv f) := by
  rw [activateHitbox]
  split
  next =>
    exact ⟨rfl, rfl, rfl, fun fit => { fit with
      hitboxes := ⟨Int.zero_le_ofNat 1, Int.le_refl 1⟩
      hitProps := nonneg }⟩
  next =>
    exact ⟨rfl, rfl, rfl, fun fit => { fit with
      hitboxes := ⟨Int.le_refl 0, Int.zero_le_ofNat 1⟩ }⟩

theorem endMove_steady (mv : MoveData) (airborne : Bool) :
    Steady f (endMove mv airborne f) := by
  rw [endMove]
  split
  next =>
    refine ⟨rfl, rfl, rfl, fun fit => { fit with
      hitboxes := ⟨Int.le_refl 0, Int.zero_le_ofNat 1⟩
      move := fun attacks => ?_ }⟩
    cases airborne <;> cases attacks
  next => exact .refl f

theorem attackTick_steady (airborne : Bool) :
    Steady f (attackTick airborne f) := by
  rw [attackTick]
  split
  next => exact .refl f
  next fd found =>
    split
    next known =>
      have nonneg := fighterDataGet_nonneg found known
      exact (activateHitbox_steady f nonneg).trans (endMove_steady ..)
    next => exact .refl f

theorem groundMove_cases (input : UInt16) : groundMove input f = f ∨
    f.onGround ∧
      ((groundMove input f).onGround ∨ (groundMove input f).inJump) ∧
      groundMove input f = { f with
        vx := (groundMove input f).vx, vy := (groundMove input f).vy
        state := (groundMove input f).state
        stateFrame := (groundMove input f).stateFrame } := by
  rw [groundMove]
  split
  next ground =>
    refine .inr ⟨ground, ?_⟩
    dsimp only
    split_ifs
    all_goals exact ⟨by simp [onGround, inJump], rfl⟩
  next => exact .inl rfl

theorem jumpPunch_cases (airborne : Bool) (justPressed : UInt16) :
    jumpPunch airborne justPressed f = f ∨ f.inJump ∧
      ∃ fd ∈ fighterDataGet f.fighterId, ∃ mid < fd.moveCount,
        jumpPunch airborne justPressed f = { f with
          state := .attack, moveId := mid, stateFrame := 0
          hitboxCount := 0 } := by
  rw [jumpPunch]
  split
  next jumping =>
    dsimp only
    split
    next =>
      split
      next => exact .inl rfl
      next fd found =>
        generalize (if pressed justPressed 5 = true then 4 else 3) = mid
        split
        next known => exact .inr ⟨jumping.2, fd, found, mid, known, rfl⟩
        next => exact .inl rfl
    next => exact .inl rfl
  next => exact .inl rfl

theorem groundMove_steady (input : UInt16) :
    Steady f (groundMove input f) := by
  rcases groundMove_cases f input with same | ⟨_, stance, moved⟩
  · rw [same]
    exact .refl f
  · have peace : (groundMove input f).state ≠ .attack := by
      intro attacks
      simp [onGround, inJump, attacks] at stance
    rw [moved]
    exact ⟨rfl, rfl, rfl, fun fit => { fit with
      move := fun attacks => absurd attacks peace }⟩

theorem jumpPunch_steady (airborne : Bool) (justPressed : UInt16) :
    Steady f (jumpPunch airborne justPressed f) := by
  rcases jumpPunch_cases f airborne justPressed with
    same | ⟨_, fd, found, mid, known, punches⟩
  · rw [same]
    exact .refl f
  · rw [punches]
    exact ⟨rfl, rfl, rfl, fun fit => { fit with
      hitboxes := ⟨Int.le_refl 0, Int.zero_le_ofNat 1⟩
      move := fun _ => ⟨fd, found, known⟩ }⟩

theorem physicsApplyGravity_steady : Steady f (physicsApplyGravity f) := by
  rw [physicsApplyGravity]
  split
  next => exact ⟨rfl, rfl, rfl, fun fit => { fit with }⟩
  next => exact .refl f

theorem physicsMove_health : (physicsMove f).health = f.health := by
  rw [physicsMove]
  dsimp only
  split_ifs <;> rfl

theorem physicsMove_ground : (physicsMove f).y ≤ fcGroundY := by
  rw [physicsMove]
  dsimp only
  split_ifs with landed jumping
  · exact le_rfl
  · exact le_rfl
  · exact (not_le.mp landed).le

theorem physicsMove_fit {f : Fighter} (fit : f.Fit) :
    (physicsMove f).Fit := by
  rw [physicsMove]
  dsimp only
  split_ifs
  · exact { fit with move := fun attacks => by cases attacks }
  · exact { fit with }
  · exact { fit with }

theorem physicsClampToStage_eq : physicsClampToStage f =
    { f with x := max fcStageLeft (min f.x fcStageRight) } := by
  have room : fcStageLeft ≤ fcStageRight := by
    norm_num [fcStageLeft, fcStageRight]
  rw [physicsClampToStage]
  split_ifs with outLeft outRight outRight
  · exact absurd outRight (not_lt.mpr room)
  · rw [min_eq_left (outLeft.le.trans room), max_eq_left outLeft.le]
  · rw [min_eq_right outRight.le, max_eq_right room]
  · rw [min_eq_left (not_lt.mp outRight), max_eq_right (not_lt.mp outLeft)]

theorem physicsClampToStage_placed {f : Fighter} (low : f.y ≤ fcGroundY) :
    (physicsClampToStage f).Placed := by
  rw [physicsClampToStage_eq]
  refine ⟨le_max_left .., max_le ?_ (min_le_right ..), low⟩
  norm_num [fcStageLeft, fcStageRight]

theorem physicsClampToStage_fit {f : Fighter} (fit : f.Fit) :
    (physicsClampToStage f).Fit := by
  rw [physicsClampToStage_eq]
  exact { fit with }

theorem physics_placed : (physics f).Placed :=
  physicsClampToStage_placed (physicsMove_ground _)

theorem physics_health : (physics f).health = f.health := by
  rw [physics, physicsClampToStage_eq]
  exact (physicsMove_health _).trans (physicsApplyGravity_steady f).health

theorem physics_fit {f : Fighter} (fit : f.Fit) : (physics f).Fit :=
  physicsClampToStage_fit
    (physicsMove_fit ((physicsApplyGravity_steady f).fit fit))

structure Bounded (f : Fighter) : Prop extends Placed f, Fit f

theorem Placed.steady {f f' : Fighter} (placed : f.Placed)
    (steady : Steady f f') : f'.Placed where
  left := steady.x ▸ placed.left
  right := steady.x ▸ placed.right
  ground := steady.y ▸ placed.ground

/-- Outside of a stun: the physics places the fighter, and nothing behind it
moves the fighter again. -/
theorem fighterTick_free (input : UInt16) (opponent : Fighter)
    (free : ¬ f.hitstun > 0 ∧ ¬ f.blockstun > 0) :
    (f.fighterTick input opponent).health = f.health ∧
      (f.fighterTick input opponent).Placed ∧
      (f.Fit → (f.fighterTick input opponent).Fit) := by
  have turned := faceOpponent_steady f opponent
  rw [fighterTick, if_neg free.1, if_neg free.2]
  generalize moved : physics (faceOpponent opponent f) = g
  have healthy : g.health = f.health := by
    rw [← moved, physics_health, turned.health]
  have placed : g.Placed := moved ▸ physics_placed _
  have fits (fit : f.Fit) : g.Fit := moved ▸ physics_fit (turned.fit fit)
  dsimp only
  have landed := land_steady g g.isAirborne
  have acted : Steady g
      (if (land g.isAirborne g).state = .attack then
        attackTick g.isAirborne (land g.isAirborne g)
      else jumpPunch g.isAirborne
        (input &&& ~~~(land g.isAirborne g).prevInput)
        (groundMove input (land g.isAirborne g))) := by
    split
    next => exact landed.trans (attackTick_steady ..)
    next =>
      exact (landed.trans (groundMove_steady ..)).trans
        (jumpPunch_steady ..)
  have counted (f' : Fighter) : Steady f' { f' with
      stateFrame := f'.stateFrame + 1, prevInput := input } :=
    ⟨rfl, rfl, rfl, fun fit => { fit with }⟩
  have all := acted.trans (counted _)
  exact ⟨all.health.trans healthy, placed.steady all,
    fun fit => all.fit (fits fit)⟩

theorem fighterTick_health (input : UInt16) (opponent : Fighter) :
    (f.fighterTick input opponent).health = f.health := by
  by_cases free : ¬ f.hitstun > 0 ∧ ¬ f.blockstun > 0
  · exact (fighterTick_free f input opponent free).1
  · rw [fighterTick]
    split
    next => rfl
    next noHit =>
      split
      next => rfl
      next noBlock => exact absurd ⟨noHit, noBlock⟩ free

theorem fighterTick_bounded {f : Fighter} (bounded : f.Bounded)
    (input : UInt16) (opponent : Fighter) :
    (f.fighterTick input opponent).Bounded := by
  by_cases free : ¬ f.hitstun > 0 ∧ ¬ f.blockstun > 0
  · obtain ⟨_, placed, fit⟩ := fighterTick_free f input opponent free
    exact { placed, fit bounded.toFit with }
  · rw [fighterTick]
    split
    next stunned => exact { bounded with hitstun := Int.le_sub_one_of_lt stunned }
    next noHit =>
      split
      next stunned =>
        exact { bounded with blockstun := Int.le_sub_one_of_lt stunned }
      next noBlock => exact absurd ⟨noHit, noBlock⟩ free

theorem fighterApplyHit_health (hp : HitProperties) (blocked : Bool)
    (nonneg : hp.Nonneg) {f : Fighter} (alive : 0 ≤ f.health) :
    (f.fighterApplyHit hp blocked).health ≤ f.health := by
  have damage := nonneg.damage
  have chipDamage := nonneg.chipDamage
  rw [fighterApplyHit]
  split_ifs
  all_goals dsimp only
  all_goals omega

theorem fighterApplyHit_bounded {hp : HitProperties} {blocked : Bool}
    (nonneg : hp.Nonneg) {f : Fighter} (bounded : f.Bounded) :
    (f.fighterApplyHit hp blocked).Bounded := by
  have damage := nonneg.damage
  have chipDamage := nonneg.chipDamage
  have alive := bounded.alive
  have health := bounded.health
  rw [fighterApplyHit]
  split_ifs with isBlocked dead dead
  · exact { bounded with
      alive := Int.le_refl 0
      health := alive.trans health
      blockstun := nonneg.blockstun }
  · dsimp only at dead
    exact { bounded with
      alive := not_lt.mp dead
      health := by dsimp only; omega
      blockstun := nonneg.blockstun }
  · exact { bounded with
      alive := Int.le_refl 0
      health := alive.trans health
      hitstun := nonneg.hitstun
      move := fun attacks => by cases attacks }
  · dsimp only at dead
    exact { bounded with
      alive := not_lt.mp dead
      health := by dsimp only; omega
      hitstun := nonneg.hitstun
      move := fun attacks => by cases attacks }

theorem Fit.scaled {attacker : Fighter} (fit : attacker.Fit) :
    HitProperties.Nonneg { attacker.hitProps with
      damage := (attacker.hitProps.damage * attacker.damagePct).tdiv 100
      chipDamage :=
        (attacker.hitProps.chipDamage * attacker.damagePct).tdiv 100 } where
  damage := Int.tdiv_nonneg
    (Int.mul_nonneg fit.hitProps.damage fit.damagePct) (by decide)
  chipDamage := Int.tdiv_nonneg
    (Int.mul_nonneg fit.hitProps.chipDamage fit.damagePct) (by decide)
  hitstun := fit.hitProps.hitstun
  blockstun := fit.hitProps.blockstun

structure Fights (p1 p2 p1' p2' : Fighter) : Prop where
  first : p1'.health ≤ p1.health
  second : p2'.health ≤ p2.health
  bounded : p1'.Bounded ∧ p2'.Bounded

variable {p1 p2 : Fighter}

theorem hitboxResolve_fights (bounded : p1.Bounded) (bounded' : p2.Bounded) :
    Fights p1 p2 (p1.hitboxResolve p2).1 (p1.hitboxResolve p2).2 where
  first := le_rfl
  second := fighterApplyHit_health _ _ bounded.scaled bounded'.alive
  bounded := ⟨{ bounded with
      hitboxes := ⟨Int.le_refl 0, Int.zero_le_ofNat 1⟩ },
    fighterApplyHit_bounded bounded.scaled bounded'⟩

theorem pushed_bounded {f : Fighter} (bounded : f.Bounded) (x : ℚ) :
    (physicsClampToStage { f with x := x }).Bounded where
  toPlaced := physicsClampToStage_placed bounded.ground
  toFit := physicsClampToStage_fit { bounded with }

theorem pushed_health (x : ℚ) :
    (physicsClampToStage { f with x := x }).health = f.health := by
  rw [physicsClampToStage_eq]

theorem physicsPushApart_fights (bounded : p1.Bounded)
    (bounded' : p2.Bounded) :
    Fights p1 p2 (p1.physicsPushApart p2).1 (p1.physicsPushApart p2).2 := by
  rw [physicsPushApart]
  split
  next =>
    exact ⟨(pushed_health ..).le, (pushed_health ..).le,
      pushed_bounded bounded _, pushed_bounded bounded' _⟩
  next => exact ⟨le_rfl, le_rfl, bounded, bounded'⟩

theorem Fights.trans {p1' p2' p1'' p2'' : Fighter}
    (first : Fights p1 p2 p1' p2') (second : Fights p1' p2' p1'' p2'') :
    Fights p1 p2 p1'' p2'' where
  first := second.first.trans first.first
  second := second.second.trans first.second
  bounded := second.bounded

theorem fighterInit_bounded (fighterId : Int) (playerSlot : Slot) :
    (fighterInit fighterId playerSlot).Bounded where
  left := by
    cases playerSlot
    · exact (by norm_num : (50 : ℚ) ≤ 300)
    · exact (by norm_num : (50 : ℚ) ≤ 980)
  right := by
    cases playerSlot
    · exact (by norm_num : (300 : ℚ) ≤ 1230)
    · exact (by norm_num : (980 : ℚ) ≤ 1230)
  ground := le_rfl
  alive := (by decide : (0 : Int) ≤ 1000)
  health := le_rfl
  hitstun := le_rfl
  blockstun := le_rfl
  facing := by
    cases playerSlot
    · exact .inl rfl
    · exact .inr rfl
  hitboxes := ⟨Int.le_refl 0, Int.zero_le_ofNat 1⟩
  move attacks := by cases attacks
  hitProps := ⟨le_rfl, le_rfl, le_rfl, le_rfl⟩
  damagePct := le_rfl

theorem applyLoadout_bounded {f : Fighter} (bounded : f.Bounded)
    (lt : LoadoutType) : (SimState.applyLoadout lt f).Bounded := by
  have alive := bounded.alive
  have health := bounded.health
  rw [SimState.applyLoadout]
  split_ifs
  · exact { bounded with damagePct := (by decide : (0 : Int) ≤ 120) }
  · exact { bounded with
      alive := by dsimp only; omega
      health := by dsimp only; omega
      damagePct := (by decide : (0 : Int) ≤ 100) }
  · exact { bounded with damagePct := (by decide : (0 : Int) ≤ 100) }

end Fighter

namespace RoundState

structure Timed (rs : RoundState) : Prop where
  low : 0 ≤ rs.frameTimer
  high : rs.frameTimer ≤ fcRoundTimeSec * fcTickRate
  /-- The timer of a round that goes on has not run out. -/
  running : rs.roundOver = false → 0 < rs.frameTimer

variable {rs : RoundState}

theorem roundInit_timed : roundInit.Timed :=
  ⟨by decide, by decide, fun _ => by decide⟩

theorem roundTick_timed (timed : rs.Timed) (p1Hp p2Hp : Int) :
    (rs.roundTick p1Hp p2Hp).Timed := by
  have high := timed.high
  rw [roundTick]
  split
  next => exact timed
  next goesOn =>
    have running := timed.running (Bool.eq_false_iff.mpr goesOn)
    have ended (rs' : RoundState) (timer : rs'.frameTimer = rs.frameTimer - 1)
        (isOver : rs'.roundOver = true) : rs'.Timed := by
      refine ⟨by omega, by omega, fun still => ?_⟩
      cases isOver.symm.trans still
    dsimp only
    split
    next =>
      split_ifs
      all_goals exact ended _ rfl rfl
    next noEnd =>
      have left : ¬ rs.frameTimer - 1 ≤ 0 := fun out => noEnd (.inr (.inr out))
      exact ⟨by dsimp only; omega, by dsimp only; omega,
        fun _ => by dsimp only; omega⟩

end RoundState

namespace SimState

open Fighter

structure Bounded (s : SimState) : Prop where
  p1 : s.p1.Bounded
  p2 : s.p2.Bounded
  round : s.round.Timed

/-- As long as the round lasts. -/
def HealthFalls (s : SimState) (inputs : UInt16 × UInt16) : Prop :=
  (step s inputs).round.roundNumber = s.round.roundNumber →
    (step s inputs).p1.health ≤ s.p1.health ∧
      (step s inputs).p2.health ≤ s.p2.health

theorem simulationInit_bounded (p1FighterId p2FighterId : Int)
    (p1Loadout p2Loadout : LoadoutType) :
    (simulationInit p1FighterId p2FighterId p1Loadout p2Loadout).Bounded where
  p1 := applyLoadout_bounded (fighterInit_bounded ..) _
  p2 := applyLoadout_bounded (fighterInit_bounded ..) _
  round := RoundState.roundInit_timed

theorem resolveHits_fights {p1 p2 : Fighter} (bounded : p1.Bounded)
    (bounded' : p2.Bounded) :
    Fights p1 p2 (resolveHits p1 p2).1 (resolveHits p1 p2).2 := by
  have first : Fights p1 p2
      (if p1.hitboxCheck p2 then p1.hitboxResolve p2 else (p1, p2)).1
      (if p1.hitboxCheck p2 then p1.hitboxResolve p2 else (p1, p2)).2 := by
    split
    next => exact hitboxResolve_fights bounded bounded'
    next => exact ⟨le_rfl, le_rfl, bounded, bounded'⟩
  rw [resolveHits]
  generalize (if p1.hitboxCheck p2 then p1.hitboxResolve p2
    else (p1, p2)) = hit at first
  obtain ⟨p1', p2'⟩ := hit
  dsimp only at first ⊢
  split
  next =>
    have back := hitboxResolve_fights first.bounded.2 first.bounded.1
    exact first.trans ⟨back.second, back.first, back.bounded.symm⟩
  next => exact first

theorem fightersTick_fights {p1 p2 : Fighter} (bounded : p1.Bounded)
    (bounded' : p2.Bounded) (p1Input p2Input : UInt16) :
    Fights p1 p2 (fightersTick p1Input p2Input p1 p2).1
      (fightersTick p1Input p2Input p1 p2).2 := by
  have ticks : Fights p1 p2 (p1.fighterTick p1Input p2)
      (p2.fighterTick p2Input (p1.fighterTick p1Input p2)) :=
    ⟨(fighterTick_health ..).le, (fighterTick_health ..).le,
      fighterTick_bounded bounded .., fighterTick_bounded bounded' ..⟩
  have hits := ticks.trans
    (resolveHits_fights ticks.bounded.1 ticks.bounded.2)
  exact hits.trans (physicsPushApart_fights hits.bounded.1 hits.bounded.2)

theorem simulationTick_fights {s : SimState} (bounded : s.Bounded)
    (p1Input p2Input : UInt16) :
    (simulationTick p1Input p2Input s).Bounded ∧
      (simulationTick p1Input p2Input s).p1.health ≤ s.p1.health ∧
      (simulationTick p1Input p2Input s).p2.health ≤ s.p2.health := by
  rw [simulationTick]
  split
  next => exact ⟨bounded, le_rfl, le_rfl⟩
  next =>
    have fights := fightersTick_fights bounded.p1 bounded.p2 p1Input p2Input
    exact ⟨⟨fights.bounded.1, fights.bounded.2,
        RoundState.roundTick_timed bounded.round ..⟩,
      fights.first, fights.second⟩

theorem simulation_bounded (p1FighterId p2FighterId : Int)
    (p1Loadout p2Loadout : LoadoutType) (inputs : List (UInt16 × UInt16)) :
    step.Always Bounded
        (simulationInit p1FighterId p2FighterId p1Loadout p2Loadout) inputs ∧
      step.Along HealthFalls
        (simulationInit p1FighterId p2FighterId p1Loadout p2Loadout)
        inputs := by
  have start := simulationInit_bounded p1FighterId p2FighterId p1Loadout
    p2Loadout
  generalize simulationInit p1FighterId p2FighterId p1Loadout p2Loadout = s
    at start
  induction inputs generalizing s with
  | nil => exact ⟨start, trivial⟩
  | cons input rest ih =>
      have fights := simulationTick_fights start input.1 input.2
      obtain ⟨always, along⟩ := ih _ fights.1
      exact ⟨⟨start, always⟩, fun _ => fights.2, along⟩

end SimState

end FuryClash.Gameplay
