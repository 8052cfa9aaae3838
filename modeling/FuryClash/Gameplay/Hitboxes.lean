import FuryClash.Gameplay.Exchange

namespace FuryClash.Gameplay

open FuryClash.Data

/-! The hitbox of an attack: in which frames it is live, and how often it
hits. -/

namespace Fighter

def currentMove (f : Fighter) : Option MoveData :=
  (fighterDataGet f.fighterId).bind fun fd => fd.moves[f.moveId]?

/-- `state_frame` has been incremented at the end of `fighter_tick`. -/
def Active (mv : MoveData) (f : Fighter) : Prop :=
  mv.startup < f.stateFrame ∧ f.stateFrame ≤ mv.startup + mv.active

instance (mv : MoveData) (f : Fighter) : Decidable (Active mv f) :=
  inferInstanceAs (Decidable (_ ∧ _))

def HitboxLive (f : Fighter) : Prop :=
  f.hitboxCount > 0 → f.state = .attack ∧ ∃ mv ∈ f.currentMove, f.Active mv

/-- Nobody ever blocks, and a stun is that of a hit. -/
structure Plain (f : Fighter) : Prop where
  stunned : f.hitstun > 0 → f.state = .hit
  unblocked : f.blockstun = 0
  upright : ¬ (f.state = .block ∨ f.state = .crouch)

structure Follows (mv : MoveData) (f : Fighter) : Prop where
  attacks : f.state = .attack
  move : f.currentMove = some mv
  live : f.Active mv → f.hitboxCount = 1 ∧ f.hitboxes[0] = mv.hitbox
  off : ¬ f.Active mv → f.hitboxCount = 0

variable {f : Fighter}

theorem Fit.currentMove (fit : f.Fit) (attacks : f.state = .attack) :
    ∃ mv, f.currentMove = some mv := by
  obtain ⟨fd, found, known⟩ := fit.move attacks
  rw [Fighter.currentMove, found, Option.bind_some]
  exact ⟨_, Vector.getElem?_eq_getElem known⟩

theorem attackTick_of_move {mv : MoveData} (move : f.currentMove = some mv)
    (airborne : Bool) :
    attackTick airborne f = endMove mv airborne (activateHitbox mv f) := by
  rw [currentMove, Option.bind_eq_some_iff] at move
  obtain ⟨fd, found, indexed⟩ := move
  obtain ⟨known, rfl⟩ := Vector.getElem?_eq_some_iff.mp indexed
  rw [attackTick, found]
  exact dif_pos known

theorem attackTick_follows {mv : MoveData} (move : f.currentMove = some mv)
    (attacks : f.state = .attack) (airborne : Bool) (input : UInt16)
    {f' : Fighter} (ticked : f' = { attackTick airborne f with
      stateFrame := (attackTick airborne f).stateFrame + 1
      prevInput := input }) :
    f'.hitboxCount = 0 ∧ f'.state ≠ .attack ∨ Follows mv f' := by
  rw [attackTick_of_move move, endMove] at ticked
  split at ticked
  next =>
    refine .inl ⟨by rw [ticked], ?_⟩
    rw [ticked]
    intro attacks
    cases airborne <;> cases attacks
  next =>
    right
    rw [activateHitbox] at ticked
    split at ticked
    next window =>
      have active : f'.Active mv := by
        rw [ticked, Active]
        dsimp only
        omega
      refine ⟨by rw [ticked]; exact attacks, by rw [ticked]; exact move,
        fun _ => ?_, fun off => absurd active off⟩
      rw [ticked]
      exact ⟨rfl, Vector.getElem_set_self ..⟩
    next noWindow =>
      have off : ¬ f'.Active mv := by
        rw [ticked, Active]
        dsimp only
        omega
      exact ⟨by rw [ticked]; exact attacks, by rw [ticked]; exact move,
        fun active => absurd active off, fun _ => by rw [ticked]⟩

/-- The physics ends a jump, and nothing else. -/
theorem physics_attack_iff (opponent : Fighter) :
    (physics (faceOpponent opponent f)).state = .attack ↔
      f.state = .attack := by
  have faced : (faceOpponent opponent f).state = f.state := by
    rw [faceOpponent]
    split <;> rfl
  have fell (f : Fighter) : (physicsApplyGravity f).state = f.state := by
    rw [physicsApplyGravity]
    split <;> rfl
  have same := (fell (faceOpponent opponent f)).trans faced
  rw [physics, physicsClampToStage_eq]
  dsimp only
  rw [physicsMove]
  dsimp only
  split_ifs with landed jumps
  · refine iff_of_false (by intro attacks; cases attacks) ?_
    intro attacks
    rw [inJump] at jumps
    simp [same, attacks] at jumps
  · rw [same]
  · rw [same]

theorem groundMove_unarmed (input : UInt16)
    (notAttack : f.state ≠ .attack) :
    (groundMove input f).hitboxCount = f.hitboxCount ∧
      (groundMove input f).state ≠ .attack := by
  rcases groundMove_cases f input with same | ⟨_, stance, moved⟩
  · rw [same]
    exact ⟨rfl, notAttack⟩
  · refine ⟨by rw [moved], fun attacks => ?_⟩
    simp [onGround, inJump, attacks] at stance

theorem jumpPunch_unarmed (airborne : Bool) (justPressed : UInt16)
    (unarmed : ¬ f.hitboxCount > 0) :
    ¬ (jumpPunch airborne justPressed f).hitboxCount > 0 := by
  rcases jumpPunch_cases f airborne justPressed with
    same | ⟨_, _, _, _, _, punches⟩
  · rwa [same]
  · rw [punches]
    exact lt_irrefl (0 : Int)

theorem Plain.free (plain : f.Plain) (unhit : ¬ f.hitstun > 0) :
    ¬ f.hitstun > 0 ∧ ¬ f.blockstun > 0 := by
  refine ⟨unhit, ?_⟩
  rw [plain.unblocked]
  exact lt_irrefl 0

/-- The ways through `fighter_tick`: the fighter is not in an attack, before
or behind it, and has no live hitbox, or it goes on with a move. -/
theorem fighterTick_cases (fit : f.Fit) (plain : f.Plain) (armed : f.Armed)
    (input : UInt16) (opponent : Fighter) :
    ¬ (f.fighterTick input opponent).hitboxCount > 0 ∧
        (f.state ≠ .attack ∨
          (f.fighterTick input opponent).state ≠ .attack) ∨
      ∃ mv, Follows mv (f.fighterTick input opponent) := by
  by_cases hit : f.hitstun > 0
  · have peace : f.state ≠ .attack := by
      intro attacks
      cases (plain.stunned hit).symm.trans attacks
    rw [fighterTick, if_pos hit]
    exact .inl ⟨fun live => peace (armed live), .inl peace⟩
  · rw [fighterTick, if_neg hit, if_neg (plain.free hit).2]
    dsimp only
    have attacking := (physics_attack_iff (f := f) opponent).mpr
    have turned := physics_turn f opponent
    have fit' : (physics (faceOpponent opponent f)).Fit :=
      physics_fit ((faceOpponent_steady f opponent).fit fit)
    generalize physics (faceOpponent opponent f) = g at *
    have landed := land_turn g.isAirborne g
    have fit'' := (land_steady g g.isAirborne).fit fit'
    have armed' := landed.armed (turned.armed armed)
    by_cases attacks : (land g.isAirborne g).state = .attack
    · obtain ⟨mv, move⟩ := fit''.currentMove attacks
      rw [if_pos attacks]
      rcases attackTick_follows move attacks g.isAirborne input rfl with
        ⟨off, ended⟩ | follows
      · exact .inl ⟨off.le.not_gt, .inr ended⟩
      · exact .inr ⟨mv, follows⟩
    · rw [if_neg attacks]
      obtain ⟨same, peace⟩ := groundMove_unarmed input attacks
      have unarmed : ¬ (groundMove input
          (land g.isAirborne g)).hitboxCount > 0 :=
        fun live => attacks (armed' (same ▸ live))
      refine .inl ⟨jumpPunch_unarmed _ _ unarmed, ?_⟩
      -- an attack that is over behind the physics has ended on the ground
      by_cases attacked : f.state = .attack
      · right
        have onGround : ¬ g.isAirborne = true := by
          intro airborne
          rw [land, if_neg fun lands => lands.1 airborne] at attacks
          exact attacks (attacking attacked)
        rw [jumpPunch, if_neg fun jumping => onGround jumping.1]
        exact peace
      · exact .inl attacked

theorem fighterTick_plain (plain : f.Plain) (input : UInt16)
    (opponent : Fighter) : (f.fighterTick input opponent).Plain := by
  by_cases hit : f.hitstun > 0
  · rw [fighterTick, if_pos hit]
    exact ⟨fun _ => plain.stunned hit, plain.unblocked, plain.upright⟩
  · have turn := fighterTick_turn input opponent (plain.free hit)
    refine ⟨fun still => absurd (turn.hitstun ▸ still) hit,
      turn.blockstun.trans plain.unblocked, ?_⟩
    rcases turn.state with same | ⟨_, acts⟩
    · rw [same]
      exact plain.upright
    · rintro (blocks | crouches)
      · rw [blocks] at acts
        exact acts
      · rw [crouches] at acts
        exact acts

theorem exchanged_plain {opponent : Fighter} (plain : f.Plain) :
    (f.exchanged opponent).Plain := by
  have unblocked : decide (f.state = .block ∨ f.state = .crouch) = false :=
    decide_eq_false plain.upright
  rw [exchanged]
  split
  next =>
    rw [hitboxResolve, unblocked]
    obtain ⟨_, blockstun, state⟩ := fighterApplyHit_fields (f := f) _ false
    exact ⟨fun _ => state, blockstun.trans plain.unblocked,
      by rw [state]; simp⟩
  next => exact { plain with }

theorem exchanged_live_iff {opponent : Fighter} (plain : f.Plain)
    (live : f.HitboxLive) :
    (f.exchanged opponent).HitboxLive ↔ (opponent.hitboxCheck f = true →
      f.hitboxCheck opponent = true ∨ ¬ f.hitboxCount > 0) := by
  have count : (f.exchanged opponent).hitboxCount =
      if f.hitboxCheck opponent then 0 else f.hitboxCount := rfl
  by_cases struck : opponent.hitboxCheck f = true
  · have state : (f.exchanged opponent).state = .hit := by
      rw [exchanged_state, if_pos ⟨struck, plain.upright⟩]
    rw [HitboxLive, state, count]
    split
    next hitsBack =>
      exact iff_of_true (fun armed => absurd armed (lt_irrefl 0))
        fun _ => .inl hitsBack
    next missed =>
      constructor
      · intro live' _
        refine .inr fun armed => ?_
        cases (live' armed).1
      · intro disarmed armed
        rcases disarmed struck with hitsBack | off
        · exact absurd hitsBack missed
        · exact absurd armed off
  · refine iff_of_true (fun armed => ?_) fun hit => absurd hit struck
    rw [count] at armed
    rw [exchanged, if_neg struck]
    split at armed
    next => exact absurd armed (lt_irrefl 0)
    next => exact live armed

end Fighter

namespace SimState

open Fighter

structure Plain (s : SimState) : Prop where
  bounded : s.Bounded
  goesOn : s.round.Undecided
  plain : ∀ slot, (s.fighter slot).Plain

variable {s : SimState} {inputs : UInt16 × UInt16}

theorem Plain.fit (plain : s.Plain) (slot : Slot) : (s.fighter slot).Fit := by
  cases slot
  · exact plain.bounded.p1.toFit
  · exact plain.bounded.p2.toFit

theorem simulationInit_plain (p1FighterId p2FighterId : Int)
    (p1Loadout p2Loadout : LoadoutType) :
    (simulationInit p1FighterId p2FighterId p1Loadout p2Loadout).Plain where
  bounded := simulationInit_bounded ..
  goesOn := RoundState.roundInit_undecided
  plain := by
    have loaded (lt : LoadoutType) (fighterId : Int) (slot : Slot) :
        (applyLoadout lt (fighterInit fighterId slot)).Plain := by
      rw [applyLoadout]
      split_ifs
      all_goals exact ⟨fun stunned => absurd stunned (lt_irrefl 0), rfl,
        fun guards => by rcases guards with state | state <;> cases state⟩
    rintro (_ | _)
    · exact loaded ..
    · exact loaded ..

theorem applyLoadout_count (lt : LoadoutType) (fighterId : Int)
    (slot : Slot) :
    (applyLoadout lt (fighterInit fighterId slot)).hitboxCount = 0 := by
  rw [applyLoadout]
  split_ifs <;> rfl

theorem Plain.moved (plain : s.Plain) (slot : Slot) :
    (s.moved inputs slot).Plain := by
  obtain ⟨opponent, moved⟩ := s.moved_eq inputs slot
  rw [moved]
  exact fighterTick_plain (plain.plain slot) _ opponent

theorem step_plain (plain : s.Plain) : (step s inputs).Plain where
  bounded := (simulationTick_fights plain.bounded ..).1
  goesOn := simulationTick_undecided plain.goesOn ..
  plain slot := by
    obtain ⟨x, stepped⟩ := step_fighter plain.goesOn.goesOn inputs slot
    rw [stepped]
    exact { exchanged_plain (plain.moved slot) with }

def HitboxesLive (s : SimState) : Prop :=
  ∀ slot, (s.fighter slot).HitboxLive

/-- Who is hit in the tick hits back in the same tick, or has no live hitbox
to keep. -/
def HitsDisarmed (s : SimState) (inputs : UInt16 × UInt16) : Prop :=
  ∀ slot, s.lands inputs slot.other = true →
    s.lands inputs slot = true ∨ ¬ (s.moved inputs slot).hitboxCount > 0

theorem moved_live (plain : s.Plain) (live : s.HitboxesLive) (slot : Slot) :
    (s.moved inputs slot).HitboxLive := by
  obtain ⟨opponent, moved⟩ := s.moved_eq inputs slot
  rw [moved]
  rcases fighterTick_cases (plain.fit slot) (plain.plain slot)
      (fun armed => (live slot armed).1) (inputOf inputs slot) opponent with
    ⟨off, _⟩ | ⟨mv, follows⟩
  · exact fun armed => absurd armed off
  · refine fun armed => ⟨follows.attacks, mv, follows.move, ?_⟩
    by_contra noWindow
    rw [follows.off noWindow] at armed
    exact lt_irrefl (0 : Int) armed

theorem step_live_iff (plain : s.Plain) (live : s.HitboxesLive) :
    (step s inputs).HitboxesLive ↔ s.HitsDisarmed inputs := by
  refine forall_congr' fun slot => ?_
  obtain ⟨x, stepped⟩ := step_fighter plain.goesOn.goesOn inputs slot
  rw [stepped, lands_eq plain.goesOn.goesOn, lands_eq plain.goesOn.goesOn,
    Slot.other_other]
  exact exchanged_live_iff (plain.moved slot) (moved_live plain live slot)

theorem always_hitboxesLive_iff (p1FighterId p2FighterId : Int)
    (p1Loadout p2Loadout : LoadoutType) (inputs : List (UInt16 × UInt16)) :
    step.Always HitboxesLive
        (simulationInit p1FighterId p2FighterId p1Loadout p2Loadout) inputs ↔
      step.Along HitsDisarmed
        (simulationInit p1FighterId p2FighterId p1Loadout p2Loadout)
        inputs := by
  refine Machine.always_iff_along
    (fun s : SimState => s.Plain ∧ s.HitboxesLive)
    (fun s inputs inv disarmed =>
      ⟨step_plain inv.1, (step_live_iff inv.1 inv.2).mpr disarmed⟩)
    (fun _ inv => inv.2)
    (fun s inputs inv armed live =>
      armed ((step_live_iff inv.1 inv.2).mp live))
    ⟨simulationInit_plain .., fun slot armed => ?_⟩
  have off : ((simulationInit p1FighterId p2FighterId p1Loadout
      p2Loadout).fighter slot).hitboxCount = 0 := by
    cases slot
    · exact applyLoadout_count ..
    · exact applyLoadout_count ..
  rw [off] at armed
  exact absurd armed (lt_irrefl 0)

def closeIn : List (UInt16 × UInt16) :=
  List.replicate 89 (8, 4) ++ [(1, 1)] ++ List.replicate 30 (0, 0) ++
    [(16, 16)]

/-- The second player is hit first and keeps a hitbox in `FS_HIT`. -/
theorem not_always_hitboxesLive_closeIn :
    ¬ step.Always HitboxesLive (simulationInit 0 0 loadoutNone loadoutNone)
      (closeIn ++ List.replicate 6 (0, 0)) := by
  intro always
  have live := always.last .p2
  have armed : ((step.run (simulationInit 0 0 loadoutNone loadoutNone)
      (closeIn ++ List.replicate 6 (0, 0))).fighter .p2).hitboxCount > 0 ∧
      ((step.run (simulationInit 0 0 loadoutNone loadoutNone)
        (closeIn ++ List.replicate 6 (0, 0))).fighter .p2).state = .hit := by
    decide +kernel
  cases armed.2.symm.trans (live armed.1).1

/-- `hitbox_resolve` is executed with an attacker who is in an attack. -/
def strikes (s : SimState) (inputs : UInt16 × UInt16) (slot : Slot) : Bool :=
  s.lands inputs slot &&
    decide ((s.atCheck inputs slot).1.state = .attack)

def attackGoesOn (s : SimState) (inputs : UInt16 × UInt16) (slot : Slot) :
    Bool :=
  decide ((s.fighter slot).state = .attack ∧
    (s.moved inputs slot).state = .attack)

end SimState

/-- With the hits of the attack that each of the two is in. -/
structure Watched where
  sim : SimState
  hits : Slot → Nat

namespace Watched

open Fighter SimState

def start (sim : SimState) : Watched := ⟨sim, fun _ => 0⟩

def step : Machine Watched (UInt16 × UInt16)
  | w, inputs =>
      if w.sim.round.matchOver then w
      else
        { sim := SimState.step w.sim inputs
          hits := fun slot =>
            (if w.sim.attackGoesOn inputs slot then w.hits slot else 0) +
              if w.sim.strikes inputs slot then 1 else 0 }

variable {w : Watched} {inputs : UInt16 × UInt16}

theorem step_sim (w : Watched) (inputs : UInt16 × UInt16) :
    (step w inputs).sim = SimState.step w.sim inputs := by
  rw [step]
  split
  next ended => rw [step_of_over ended]
  next => rfl

/-- The count does not touch the match. -/
theorem run_sim (s : SimState) (inputs : List (UInt16 × UInt16)) :
    (step.run (start s) inputs).sim = SimState.step.run s inputs :=
  Machine.run_map (f := sim) step_sim

end Watched

end FuryClash.Gameplay
