import FuryClash.Gameplay.Hitboxes
import FuryClash.Gameplay.Recovery

namespace FuryClash.Gameplay

open FuryClash.Data

namespace Fighter

/-- The moves that a fighter can get into: nothing on the ground starts an
attack. -/
def airMoves : List MoveData := [jumpLP, jumpHP]

/-- `hitbox_resolve` scales the damage of the move. -/
def damageOf (damagePct : Int) (hp : HitProperties) : Int :=
  (hp.damage * damagePct).tdiv 100

/-- A live hitbox is that of a move in the air, also when a hit has cut the
move short. -/
structure Airborn (f : Fighter) : Prop where
  move : f.state = .attack → f.moveId = 3 ∨ f.moveId = 4
  hit : f.hitboxCount > 0 → ∃ mv ∈ airMoves,
    f.hitProps = mv.hit ∧ f.hitboxes[0] = mv.hitbox

structure Slow (f : Fighter) : Prop where
  facing : f.facing = 1 ∨ f.facing = -1
  vx : |f.vx| ≤ 200

/-- No part of `fighter_tick` gives or takes hits, and none is fast. -/
structure Keeps (f f' : Fighter) : Prop where
  health : f'.health = f.health
  damagePct : f'.damagePct = f.damagePct
  comboCounter : f'.comboCounter = f.comboCounter
  hurtbox : f'.hurtbox = f.hurtbox
  facing : f'.facing = f.facing
  airborn : f.Airborn → f'.Airborn
  slow : f.Slow → f'.Slow

theorem Keeps.refl (f : Fighter) : Keeps f f :=
  ⟨rfl, rfl, rfl, rfl, rfl, id, id⟩

theorem Keeps.trans {f f' f'' : Fighter} (first : Keeps f f')
    (second : Keeps f' f'') : Keeps f f'' where
  health := second.health.trans first.health
  damagePct := second.damagePct.trans first.damagePct
  comboCounter := second.comboCounter.trans first.comboCounter
  hurtbox := second.hurtbox.trans first.hurtbox
  facing := second.facing.trans first.facing
  airborn airborn := second.airborn (first.airborn airborn)
  slow slow := second.slow (first.slow slow)

variable (f : Fighter)

theorem Airborn.unarmed {f : Fighter} (peace : f.state ≠ .attack)
    (off : f.hitboxCount = 0) : f.Airborn :=
  ⟨fun attacks => absurd attacks peace,
    fun live => absurd (off ▸ live) (lt_irrefl 0)⟩

theorem Airborn.of_same {f f' : Fighter} (airborn : f.Airborn)
    (count : f'.hitboxCount = f.hitboxCount)
    (hitProps : f'.hitProps = f.hitProps)
    (hitboxes : f'.hitboxes = f.hitboxes) (moveId : f'.moveId = f.moveId)
    (attack : f'.state = .attack → f.state = .attack) : f'.Airborn where
  move attacks := by
    rw [moveId]
    exact airborn.move (attack attacks)
  hit live := by
    rw [hitProps, hitboxes]
    exact airborn.hit (count ▸ live)

theorem Slow.of_stop {f f' : Fighter} (slow : f.Slow)
    (facing : f'.facing = f.facing) (stop : f'.vx = 0) : f'.Slow := by
  refine ⟨facing ▸ slow.facing, ?_⟩
  rw [stop, abs_zero]
  norm_num

theorem physicsApplyGravity_keeps : Keeps f (physicsApplyGravity f) := by
  rw [physicsApplyGravity]
  split
  next =>
    exact ⟨rfl, rfl, rfl, rfl, rfl,
      fun airborn => airborn.of_same rfl rfl rfl rfl id,
      fun slow => { slow with }⟩
  next => exact .refl f

theorem physicsMove_keeps : Keeps f (physicsMove f) := by
  rw [physicsMove]
  dsimp only
  split_ifs with landed jumps
  · exact ⟨rfl, rfl, rfl, rfl, rfl,
      fun airborn => airborn.of_same rfl rfl rfl rfl
        (fun attacks => by cases attacks),
      fun slow => slow.of_stop rfl rfl⟩
  · exact ⟨rfl, rfl, rfl, rfl, rfl,
      fun airborn => airborn.of_same rfl rfl rfl rfl id,
      fun slow => { slow with }⟩
  · exact ⟨rfl, rfl, rfl, rfl, rfl,
      fun airborn => airborn.of_same rfl rfl rfl rfl id,
      fun slow => { slow with }⟩

theorem physics_keeps : Keeps f (physics f) := by
  refine ((physicsApplyGravity_keeps f).trans (physicsMove_keeps _)).trans ?_
  rw [physics, physicsClampToStage_eq]
  exact ⟨rfl, rfl, rfl, rfl, rfl,
    fun airborn => airborn.of_same rfl rfl rfl rfl id,
    fun slow => { slow with }⟩

theorem land_keeps (airborne : Bool) : Keeps f (land airborne f) := by
  rw [land]
  split
  next =>
    exact ⟨rfl, rfl, rfl, rfl, rfl,
      fun _ => .unarmed (fun attacks => by cases attacks) rfl,
      fun slow => slow.of_stop rfl rfl⟩
  next => exact .refl f

theorem fighterDataGet_air {fighterId : Int} {fd : FighterData}
    (found : fighterDataGet fighterId = some fd) {i : Nat}
    (known : i < fd.moveCount) (air : i = 3 ∨ i = 4) :
    fd.moves[i] ∈ airMoves := by
  have table (i : Nat) (known : i < 5) (air : i = 3 ∨ i = 4) :
      ryuMoves[i] ∈ airMoves := by
    rcases air with rfl | rfl
    · exact List.mem_cons_self
    · exact List.mem_cons_of_mem _ List.mem_cons_self
  rw [fighterDataGet] at found
  split at found
  next =>
    cases found
    exact table i known air
  next =>
    split at found
    next =>
      cases found
      exact table i known air
    next => cases found

theorem activateHitbox_keeps {mv : MoveData}
    (air : f.Airborn → mv ∈ airMoves) : Keeps f (activateHitbox mv f) := by
  rw [activateHitbox]
  split
  next =>
    exact ⟨rfl, rfl, rfl, rfl, rfl,
      fun airborn => ⟨airborn.move, fun _ => ⟨mv, air airborn, rfl,
        Vector.getElem_set_self ..⟩⟩,
      fun slow => { slow with }⟩
  next =>
    exact ⟨rfl, rfl, rfl, rfl, rfl,
      fun airborn => ⟨airborn.move, fun live => absurd live (lt_irrefl 0)⟩,
      fun slow => { slow with }⟩

theorem endMove_keeps (mv : MoveData) (airborne : Bool) :
    Keeps f (endMove mv airborne f) := by
  rw [endMove]
  split
  next =>
    exact ⟨rfl, rfl, rfl, rfl, rfl,
      fun _ => .unarmed (fun attacks => by cases airborne <;> cases attacks)
        rfl,
      fun slow => { slow with }⟩
  next => exact .refl f

theorem attackTick_keeps (airborne : Bool) (attacks : f.state = .attack) :
    Keeps f (attackTick airborne f) := by
  rw [attackTick]
  split
  next => exact .refl f
  next fd found =>
    split
    next known =>
      have active := activateHitbox_keeps f fun airborn =>
        fighterDataGet_air found known (airborn.move attacks)
      exact active.trans (endMove_keeps ..)
    next => exact .refl f

theorem fighterDataGet_slow (fighterId : Int) :
    |((fighterDataGet fighterId).map (·.jumpVx)).getD 180| ≤ 200 := by
  rw [fighterDataGet]
  split_ifs <;> norm_num

theorem abs_mul_facing {facing : Int} (turned : facing = 1 ∨ facing = -1)
    {speed : ℚ} (slow : |speed| ≤ 200) : |speed * facing| ≤ 200 := by
  rcases turned with rfl | rfl
  · simpa using slow
  · simpa using slow

theorem groundMove_slow (input : UInt16) (slow : f.Slow) :
    (groundMove input f).Slow := by
  have jump := fighterDataGet_slow f.fighterId
  have turned := slow.facing
  rw [groundMove]
  dsimp only
  generalize ((fighterDataGet f.fighterId).map (·.jumpVx)).getD 180 = jvx at *
  split
  next =>
    split_ifs
    all_goals
      first
      | exact slow.of_stop rfl rfl
      | exact ⟨turned, abs_mul_facing turned jump⟩
      | exact ⟨turned, abs_mul_facing turned ((abs_neg jvx).trans_le jump)⟩
      | exact ⟨turned, abs_mul_facing turned (by norm_num)⟩
  next => exact slow

theorem groundMove_keeps (input : UInt16) : Keeps f (groundMove input f) := by
  have slow := groundMove_slow f input
  rcases groundMove_cases f input with same | ⟨_, stance, moved⟩
  · rw [same]
    exact .refl f
  · refine ⟨by rw [moved], by rw [moved], by rw [moved], by rw [moved],
      by rw [moved], fun airborn => ?_, slow⟩
    refine airborn.of_same (by rw [moved]) (by rw [moved]) (by rw [moved])
      (by rw [moved]) fun attacks => ?_
    simp [onGround, inJump, attacks] at stance

/-- The punches of `fighter_tick` are the moves 3 and 4. -/
theorem jumpPunch_keeps (airborne : Bool) (justPressed : UInt16) :
    Keeps f (jumpPunch airborne justPressed f) := by
  rw [jumpPunch]
  split
  next =>
    dsimp only
    split
    next =>
      split
      next => exact .refl f
      next =>
        have air : ∀ heavy : Bool, (if heavy = true then 4 else 3) = 3 ∨
            (if heavy = true then 4 else 3) = 4 := by
          decide
        have air := air (pressed justPressed 5)
        generalize (if pressed justPressed 5 = true then 4 else 3) = mid
          at air ⊢
        split
        next =>
          exact ⟨rfl, rfl, rfl, rfl, rfl,
            fun _ => ⟨fun _ => air, fun live => absurd live (lt_irrefl 0)⟩,
            fun slow => { slow with }⟩
        next => exact .refl f
    next => exact .refl f
  next => exact .refl f

theorem Keeps.of_timers {f f' : Fighter} (same : f' = { f with
    hitstun := f'.hitstun, blockstun := f'.blockstun
    stateFrame := f'.stateFrame, prevInput := f'.prevInput }) :
    Keeps f f' := by
  rw [same]
  exact ⟨rfl, rfl, rfl, rfl, rfl,
    fun airborn => airborn.of_same rfl rfl rfl rfl id,
    fun slow => { slow with }⟩

def faces (f opponent : Fighter) : Int :=
  if opponent.x - f.x ≥ 0 then 1 else -1

theorem faceOpponent_eq (opponent : Fighter) : ∃ facing,
    (facing = f.facing ∨ facing = f.faces opponent) ∧
      faceOpponent opponent f = { f with facing := facing } := by
  rw [faceOpponent]
  split
  next => exact ⟨_, .inr rfl, rfl⟩
  next => exact ⟨_, .inl rfl, rfl⟩

theorem fighterTick_keeps (input : UInt16) (opponent : Fighter) : ∃ facing,
    (facing = f.facing ∨ facing = f.faces opponent) ∧
      Keeps { f with facing := facing } (f.fighterTick input opponent) := by
  rw [fighterTick]
  split
  next => exact ⟨f.facing, .inl rfl, .of_timers rfl⟩
  next =>
    split
    next => exact ⟨f.facing, .inl rfl, .of_timers rfl⟩
    next =>
      obtain ⟨facing, turned, faced⟩ := faceOpponent_eq f opponent
      refine ⟨facing, turned, ?_⟩
      rw [faced]
      have moved := physics_keeps { f with facing := facing }
      generalize physics { f with facing := facing } = g at moved ⊢
      dsimp only
      have landed := moved.trans (land_keeps g g.isAirborne)
      generalize land g.isAirborne g = g' at landed ⊢
      have acted : Keeps g'
          (if g'.state = .attack then attackTick g.isAirborne g'
          else jumpPunch g.isAirborne (input &&& ~~~g'.prevInput)
            (groundMove input g')) := by
        split
        next attacks => exact attackTick_keeps g' _ attacks
        next => exact (groundMove_keeps g' input).trans (jumpPunch_keeps ..)
      exact (landed.trans acted).trans (.of_timers rfl)

theorem hitboxCheck_live {f opponent : Fighter}
    (check : f.hitboxCheck opponent = true) : f.hitboxCount > 0 := by
  by_contra off
  have none_there : f.hitboxCount.toNat = 0 := by omega
  rw [hitboxCheck, none_there] at check
  cases check

theorem Airborn.struck {f opponent : Fighter} (airborn : f.Airborn)
    (check : f.hitboxCheck opponent = true) :
    ∃ mv ∈ airMoves, f.hitProps = mv.hit := by
  obtain ⟨mv, air, hitProps, _⟩ := airborn.hit (hitboxCheck_live check)
  exact ⟨mv, air, hitProps⟩

/-- What the hits of a tick leave of a fighter who does not block. -/
structure Wounded (f opponent f' : Fighter) : Prop where
  health : f'.health =
    if opponent.hitboxCheck f then
      max 0 (f.health - damageOf opponent.damagePct opponent.hitProps)
    else f.health
  comboCounter : f'.comboCounter =
    f.comboCounter + if opponent.hitboxCheck f then 1 else 0
  state : f'.state = if opponent.hitboxCheck f then .hit else f.state
  damagePct : f'.damagePct = f.damagePct
  hurtbox : f'.hurtbox = f.hurtbox
  facing : f'.facing = f.facing
  airborn : f.Airborn → f'.Airborn
  slow : f.Slow → opponent.Airborn → f'.Slow

structure Hit (hp : HitProperties) (f f' : Fighter) : Prop where
  health : f'.health = max 0 (f.health - hp.damage)
  comboCounter : f'.comboCounter = f.comboCounter + 1
  state : f'.state = .hit
  damagePct : f'.damagePct = f.damagePct
  hurtbox : f'.hurtbox = f.hurtbox
  facing : f'.facing = f.facing
  hitProps : f'.hitProps = f.hitProps
  hitboxes : f'.hitboxes = f.hitboxes
  vx : f'.vx = -hp.knockbackX

theorem fighterApplyHit_hit (hp : HitProperties) :
    Hit hp f (f.fighterApplyHit hp false) := by
  rw [fighterApplyHit]
  simp only [Bool.false_eq_true, if_false]
  split
  next dead =>
    exact ⟨(max_eq_left dead.le).symm, rfl, rfl, rfl, rfl, rfl, rfl, rfl, rfl⟩
  next alive =>
    exact ⟨(max_eq_right (not_lt.mp alive)).symm, rfl, rfl, rfl, rfl, rfl, rfl,
      rfl, rfl⟩

theorem airMoves_slow : ∀ mv ∈ airMoves, |mv.hit.knockbackX| ≤ 200 := by
  decide +kernel

theorem exchanged_wounded {f : Fighter} (opponent : Fighter)
    (upright : ¬ (f.state = .block ∨ f.state = .crouch)) (x : ℚ) :
    Wounded f opponent { f.exchanged opponent with x := x } := by
  rw [exchanged]
  dsimp only
  cases struck : opponent.hitboxCheck f with
  | false =>
      refine ⟨?_, ?_, ?_, rfl, rfl, rfl, fun airborn => ⟨airborn.move, ?_⟩,
        fun slow _ => { slow with }⟩
      · rw [struck]
        rfl
      · rw [struck]
        exact (add_zero _).symm
      · rw [struck]
        rfl
      · dsimp only
        intro live
        split at live
        next => exact absurd live (lt_irrefl 0)
        next => exact airborn.hit live
  | true =>
      rw [if_pos rfl, hitboxResolve, decide_eq_false upright]
      have hit := fighterApplyHit_hit f { opponent.hitProps with
        damage := damageOf opponent.damagePct opponent.hitProps
        chipDamage :=
          (opponent.hitProps.chipDamage * opponent.damagePct).tdiv 100 }
      refine ⟨?_, ?_, ?_, hit.damagePct, hit.hurtbox, hit.facing,
        fun airborn => ⟨?_, ?_⟩, fun slow armed => ⟨?_, ?_⟩⟩
      · rw [struck]
        exact hit.health
      · rw [struck]
        exact hit.comboCounter
      · rw [struck]
        exact hit.state
      · intro attacks
        cases hit.state.symm.trans attacks
      · dsimp only
        intro live
        split at live
        next => exact absurd live (lt_irrefl 0)
        next =>
          obtain ⟨mv, air, hitProps, hitboxes⟩ := airborn.hit live
          refine ⟨mv, air, hit.hitProps.trans hitProps, ?_⟩
          rw [← hitboxes]
          exact congrArg (fun boxes => boxes[0]) hit.hitboxes
      · exact hit.facing ▸ slow.facing
      · obtain ⟨mv, air, hitProps⟩ := armed.struck struck
        refine (congrArg abs hit.vx).trans_le ?_
        rw [abs_neg]
        dsimp only
        rw [hitProps]
        exact airMoves_slow mv air

end Fighter

/-- With the damage of the hits that each fighter has taken. -/
structure Scorecard where
  sim : SimState
  taken : Slot → List Int

namespace Scorecard

open Fighter SimState

def start (sim : SimState) : Scorecard := ⟨sim, fun _ => []⟩

/-- The damage that `hitbox_resolve` passes to `fighter_apply_hit`. -/
def dealt (s : SimState) (inputs : UInt16 × UInt16) (attacker : Slot) :
    List Int :=
  if s.lands inputs attacker then
    [damageOf (s.moved inputs attacker).damagePct
      (s.moved inputs attacker).hitProps]
  else []

def step : Machine Scorecard (UInt16 × UInt16)
  | c, inputs =>
      { sim := SimState.step c.sim inputs
        taken := fun slot => c.taken slot ++ dealt c.sim inputs slot.other }

def airDamages (f : Fighter) : List Int :=
  airMoves.map fun mv => damageOf f.damagePct mv.hit

/-- The health is what the hits have left, and every hit is a punch of the
opponent's in the air. -/
structure AccountsFor (first : SimState) (c : Scorecard) (slot : Slot) :
    Prop where
  health : (c.sim.fighter slot).health =
    max 0 ((first.fighter slot).health - (c.taken slot).sum)
  comboCounter : (c.sim.fighter slot).comboCounter = (c.taken slot).length
  state : (c.sim.fighter slot).state = .hit ↔ c.taken slot ≠ []
  damage : ∀ damage ∈ c.taken slot,
    damage ∈ airDamages (first.fighter slot.other)

structure Booked (first : SimState) (c : Scorecard) : Prop where
  plain : c.sim.Plain
  accounts : ∀ slot, c.AccountsFor first slot
  airborn : ∀ slot, (c.sim.fighter slot).Airborn
  damagePct : ∀ slot, (c.sim.fighter slot).damagePct =
    (first.fighter slot).damagePct

end Scorecard

namespace SimState

open Fighter

variable {s : SimState} {inputs : UInt16 × UInt16}

theorem moved_keeps (slot : Slot) : ∃ facing opponent,
    (facing = (s.fighter slot).facing ∨
      facing = (s.fighter slot).faces opponent) ∧
    Keeps { s.fighter slot with facing := facing } (s.moved inputs slot) := by
  obtain ⟨opponent, moved⟩ := s.moved_eq inputs slot
  obtain ⟨facing, turned, keeps⟩ :=
    fighterTick_keeps (s.fighter slot) (inputOf inputs slot) opponent
  exact ⟨facing, opponent, turned, moved ▸ keeps⟩

theorem Plain.wounded (plain : s.Plain) (slot : Slot) :
    Wounded (s.moved inputs slot) (s.moved inputs slot.other)
      ((step s inputs).fighter slot) := by
  obtain ⟨x, stepped⟩ := step_fighter plain.goesOn.goesOn inputs slot
  rw [stepped]
  exact exchanged_wounded _ (plain.moved slot).upright x

end SimState

namespace Scorecard

open Fighter SimState

variable {first : SimState} {c : Scorecard} {inputs : UInt16 × UInt16}

theorem damageOf_nonneg {damagePct : Int} (scaled : 0 ≤ damagePct)
    {mv : MoveData} (air : mv ∈ airMoves) :
    0 ≤ damageOf damagePct mv.hit := by
  have damage : ∀ mv ∈ airMoves, 0 ≤ mv.hit.damage := by
    decide
  exact Int.tdiv_nonneg (Int.mul_nonneg (damage mv air) scaled) (by decide)

structure Ticks (c : Scorecard) (inputs : UInt16 × UInt16) (slot : Slot) :
    Prop where
  health : (c.sim.moved inputs slot).health = (c.sim.fighter slot).health
  comboCounter : (c.sim.moved inputs slot).comboCounter =
    (c.sim.fighter slot).comboCounter
  damagePct : (c.sim.moved inputs slot).damagePct =
    (c.sim.fighter slot).damagePct
  airborn : (c.sim.moved inputs slot).Airborn
  wounded : Wounded (c.sim.moved inputs slot) (c.sim.moved inputs slot.other)
    ((step c inputs).sim.fighter slot)
  lands : c.sim.lands inputs slot =
    (c.sim.moved inputs slot).hitboxCheck (c.sim.moved inputs slot.other)

theorem Booked.ticks (booked : c.Booked first) (slot : Slot) :
    c.Ticks inputs slot := by
  obtain ⟨facing, opponent, _, keeps⟩ :=
    @moved_keeps c.sim inputs slot
  exact ⟨keeps.health, keeps.comboCounter, keeps.damagePct,
    keeps.airborn { booked.airborn slot with }, booked.plain.wounded slot,
    lands_eq booked.plain.goesOn.goesOn inputs slot⟩

/-- What the opponent deals is a punch in the air. -/
theorem Booked.dealt (booked : c.Booked first) (slot : Slot) :
    ∀ damage ∈ dealt c.sim inputs slot, 0 ≤ damage ∧
      damage ∈ airDamages (first.fighter slot) := by
  have ticks : c.Ticks inputs slot := booked.ticks slot
  intro damage mem
  rw [Scorecard.dealt] at mem
  split at mem
  next lands =>
    cases List.mem_singleton.mp mem
    obtain ⟨mv, air, hitProps⟩ := ticks.airborn.struck (ticks.lands ▸ lands)
    have scaled := (booked.plain.fit slot).damagePct
    rw [ticks.damagePct, hitProps]
    refine ⟨damageOf_nonneg scaled air, ?_⟩
    rw [booked.damagePct]
    exact List.mem_map_of_mem air
  next => cases mem

/-- The hits that a tick books are those that leave a wound. -/
theorem Booked.dealt_other (booked : c.Booked first) (slot : Slot) :
    Scorecard.dealt c.sim inputs slot.other =
      if (c.sim.moved inputs slot.other).hitboxCheck
          (c.sim.moved inputs slot) then
        [damageOf (c.sim.moved inputs slot.other).damagePct
          (c.sim.moved inputs slot.other).hitProps]
      else [] := by
  rw [Scorecard.dealt, (booked.ticks slot.other).lands, Slot.other_other]

theorem Booked.step_accounts (booked : c.Booked first) (slot : Slot) :
    (step c inputs).AccountsFor first slot := by
  have ticks : c.Ticks inputs slot := booked.ticks slot
  have accounts := booked.accounts slot
  have wounded := ticks.wounded
  have damage := @Booked.dealt first c inputs booked slot.other
  have taken : (step c inputs).taken slot = c.taken slot ++ _ :=
    congrArg (c.taken slot ++ ·) (booked.dealt_other slot)
  have health := ticks.health.trans accounts.health
  have comboCounter := ticks.comboCounter.trans accounts.comboCounter
  have state := (@moved_hit c.sim inputs slot).trans accounts.state
  constructor
  case health =>
    rw [wounded.health, taken, List.sum_append, health]
    split
    next struck =>
      rw [booked.dealt_other, if_pos struck] at damage
      have nonneg := (damage _ List.mem_cons_self).1
      rw [List.sum_singleton]
      omega
    next => rw [List.sum_nil, add_zero]
  case comboCounter =>
    rw [wounded.comboCounter, taken, comboCounter, List.length_append]
    split <;> simp
  case state =>
    rw [wounded.state, taken]
    split
    next => simp
    next => simpa using state
  case damage =>
    intro amount mem
    rcases List.mem_append.mp mem with earlier | now
    · exact accounts.damage amount earlier
    · exact (damage amount now).2

theorem Booked.step (booked : c.Booked first) :
    (Scorecard.step c inputs).Booked first where
  plain := step_plain booked.plain
  accounts slot := booked.step_accounts slot
  airborn slot := by
    have ticks : c.Ticks inputs slot := booked.ticks slot
    exact ticks.wounded.airborn ticks.airborn
  damagePct slot := by
    have ticks : c.Ticks inputs slot := booked.ticks slot
    rw [ticks.wounded.damagePct, ticks.damagePct, booked.damagePct]

end Scorecard

namespace SimState

open Fighter

structure Untouched (slot : Slot) (f : Fighter) : Prop where
  comboCounter : f.comboCounter = 0
  state : f.state = .idle
  count : f.hitboxCount = 0
  hurtbox : f.hurtbox = ⟨-30, -160, 60, 160⟩
  facing : f.facing = if slot = .p1 then 1 else -1
  x : f.x = if slot = .p1 then 300 else 980
  vx : f.vx = 0

theorem applyLoadout_untouched (lt : LoadoutType) (fighterId : Int)
    (slot : Slot) :
    Untouched slot (applyLoadout lt (fighterInit fighterId slot)) := by
  rw [applyLoadout]
  split_ifs <;> exact ⟨rfl, rfl, rfl, rfl, rfl, rfl, rfl⟩

theorem simulationInit_untouched (p1FighterId p2FighterId : Int)
    (p1Loadout p2Loadout : LoadoutType) (slot : Slot) :
    Untouched slot ((simulationInit p1FighterId p2FighterId p1Loadout
      p2Loadout).fighter slot) := by
  cases slot
  · exact applyLoadout_untouched ..
  · exact applyLoadout_untouched ..

end SimState

namespace Scorecard

open Fighter SimState

theorem start_booked (p1FighterId p2FighterId : Int)
    (p1Loadout p2Loadout : LoadoutType) :
    (start (simulationInit p1FighterId p2FighterId p1Loadout
      p2Loadout)).Booked
        (simulationInit p1FighterId p2FighterId p1Loadout p2Loadout) := by
  have plain := simulationInit_plain p1FighterId p2FighterId p1Loadout
    p2Loadout
  have untouched := simulationInit_untouched p1FighterId p2FighterId p1Loadout
    p2Loadout
  refine ⟨plain, fun slot => ⟨?_, (untouched slot).comboCounter, ?_,
    fun _ mem => by cases mem⟩, fun slot => ?_, fun _ => rfl⟩
  · rw [start, List.sum_nil, sub_zero]
    exact (max_eq_right (plain.fit slot).alive).symm
  · rw [start, (untouched slot).state]
    simp
  · refine .unarmed (fun attacks => ?_) (untouched slot).count
    cases (untouched slot).state.symm.trans attacks

/-- In every state of every match the health of a fighter is what the hits
have left of it, each of them a punch in the air at the strength of the
opponent's loadout. -/
theorem always_accountsFor (p1FighterId p2FighterId : Int)
    (p1Loadout p2Loadout : LoadoutType) (inputs : List (UInt16 × UInt16)) :
    step.Always
      (fun c => ∀ slot, c.AccountsFor
        (simulationInit p1FighterId p2FighterId p1Loadout p2Loadout) slot)
      (start (simulationInit p1FighterId p2FighterId p1Loadout p2Loadout))
      inputs :=
  Machine.always_of_invariant
    (Booked (simulationInit p1FighterId p2FighterId p1Loadout p2Loadout))
    (fun _ _ booked => booked.step) (fun _ booked => booked.accounts)
    (start_booked p1FighterId p2FighterId p1Loadout p2Loadout) inputs

end Scorecard

end FuryClash.Gameplay
