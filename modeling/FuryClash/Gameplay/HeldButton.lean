import FuryClash.Gameplay.Hitboxes
import FuryClash.Gameplay.Recovery

namespace FuryClash.Gameplay

open FuryClash.Data

/-! A held button attacks once. `fighter_tick` does not store the input of a
stun, but who has been stunned is in `FS_HIT` and attacks no more. -/

namespace Fighter

def punches : List UInt16 := [4, 5]

theorem and_one_eq_one (bits : BitVec 16) :
    bits &&& 1#16 = 1#16 ↔ bits.getLsbD 0 = true := by
  constructor
  · intro one
    have lowest := congrArg (·.getLsbD 0) one
    simpa using lowest
  · intro lowest
    ext i within
    cases i with
    | zero => simpa using lowest
    | succ i => simp

theorem pressed_eq (input n : UInt16) :
    pressed input n = input.toBitVec.getLsbD (n.toNat % 16) := by
  rw [Bool.eq_iff_iff, pressed, decide_eq_true_iff, ← UInt16.toBitVec_inj]
  simp [and_one_eq_one]

theorem pressed_justPressed (input prevInput n : UInt16) :
    pressed (input &&& ~~~prevInput) n =
      (pressed input n && !pressed prevInput n) := by
  have within : n.toNat % 16 < 16 := Nat.mod_lt _ (by decide)
  simp [pressed_eq, within]

variable {f : Fighter}

theorem physics_prevInput (opponent : Fighter) :
    (physics (faceOpponent opponent f)).prevInput = f.prevInput := by
  have faced : (faceOpponent opponent f).prevInput = f.prevInput := by
    rw [faceOpponent]
    split <;> rfl
  have fell (f : Fighter) :
      (physicsApplyGravity f).prevInput = f.prevInput := by
    rw [physicsApplyGravity]
    split <;> rfl
  have moved (f : Fighter) : (physicsMove f).prevInput = f.prevInput := by
    rw [physicsMove]
    dsimp only
    split_ifs <;> rfl
  rw [physics, physicsClampToStage_eq]
  exact ((moved _).trans (fell _)).trans faced

theorem land_prevInput (airborne : Bool) :
    (land airborne f).prevInput = f.prevInput := by
  rw [land]
  split <;> rfl

theorem fighterTick_prevInput (input : UInt16) (opponent : Fighter)
    (free : ¬ f.hitstun > 0 ∧ ¬ f.blockstun > 0) :
    (f.fighterTick input opponent).prevInput = input := by
  rw [fighterTick, if_neg free.1, if_neg free.2]

theorem exchanged_prevInput (opponent : Fighter) :
    (f.exchanged opponent).prevInput = f.prevInput := by
  rw [exchanged]
  dsimp only
  split
  next =>
    rw [hitboxResolve, fighterApplyHit]
    split_ifs <;> rfl
  next => rfl

theorem land_peace (airborne : Bool) (peace : f.state ≠ .attack) :
    (land airborne f).state ≠ .attack := by
  rw [land, if_neg fun landed => peace landed.2.1]
  exact peace

theorem jumpPunch_enters {airborne : Bool} {justPressed : UInt16}
    (peace : f.state ≠ .attack)
    (attacks : (jumpPunch airborne justPressed f).state = .attack) :
    ∃ button ∈ punches, pressed justPressed button = true := by
  rw [jumpPunch] at attacks
  split at attacks
  next =>
    dsimp only at attacks
    split at attacks
    next pushed =>
      rcases pushed with light | heavy
      · exact ⟨4, by decide, light⟩
      · exact ⟨5, by decide, heavy⟩
    next => exact absurd attacks peace
  next => exact absurd attacks peace

theorem fighterTick_enters {input : UInt16} {opponent : Fighter}
    (peace : f.state ≠ .attack)
    (attacks : (f.fighterTick input opponent).state = .attack) :
    f.state ≠ .hit ∧ ∃ button ∈ punches,
      pressed input button = true ∧ pressed f.prevInput button = false := by
  have unstunned : f.state ≠ .hit := by
    intro hit
    rcases fighterTick_state (f := f) input opponent with same | ⟨acts, _⟩
    · exact peace (same.symm.trans attacks)
    · rw [hit] at acts
      exact acts
  refine ⟨unstunned, ?_⟩
  rw [fighterTick] at attacks
  split at attacks
  next => exact absurd attacks peace
  next =>
    split at attacks
    next => exact absurd attacks peace
    next =>
      have landed := land_peace
        (physics (faceOpponent opponent f)).isAirborne
        (peace ∘ (physics_attack_iff opponent).mp)
      dsimp only at attacks
      rw [if_neg landed] at attacks
      obtain ⟨button, punch, fresh⟩ :=
        jumpPunch_enters (groundMove_unarmed input landed).2 attacks
      rw [land_prevInput, physics_prevInput, pressed_justPressed,
        Bool.and_eq_true, Bool.not_eq_true'] at fresh
      exact ⟨button, punch, fresh⟩

end Fighter

namespace SimState

open Fighter

/-- The fighter attacks behind the tick, or behind its `fighter_tick` when a
hit ends the attack at once. -/
def EntersAttack (s : SimState) (inputs : UInt16 × UInt16) (slot : Slot) :
    Prop :=
  (s.fighter slot).state ≠ .attack ∧
    ((s.moved inputs slot).state = .attack ∨
      ((step s inputs).fighter slot).state = .attack)

instance (s : SimState) (inputs : UInt16 × UInt16) (slot : Slot) :
    Decidable (s.EntersAttack inputs slot) :=
  inferInstanceAs (Decidable (_ ∧ _))

variable {s : SimState} {inputs : UInt16 × UInt16} {slot : Slot}

theorem EntersAttack.moved (enters : s.EntersAttack inputs slot) :
    (s.moved inputs slot).state = .attack := by
  obtain ⟨peace, moved | stepped⟩ := enters
  · exact moved
  · by_cases ended : s.round.matchOver = true
    · rw [step_of_over ended] at stepped
      exact absurd stepped peace
    · rw [step_state (Bool.eq_false_iff.mpr ended)] at stepped
      split at stepped
      next => cases stepped
      next => exact stepped

/-- Behind every tick a fighter has its input of the tick in `prev_input`,
unless it is in `FS_HIT`. -/
theorem step_prevInput (plain : s.Plain)
    (unhit : ((step s inputs).fighter slot).state ≠ .hit) :
    ((step s inputs).fighter slot).prevInput = inputOf inputs slot := by
  have unstunned : ¬ (s.fighter slot).hitstun > 0 := fun stunned =>
    unhit (step_stays_hit ((plain.plain slot).stunned stunned))
  obtain ⟨x, stepped⟩ := step_fighter plain.goesOn.goesOn inputs slot
  obtain ⟨opponent, moved⟩ := s.moved_eq inputs slot
  rw [stepped]
  dsimp only
  rw [exchanged_prevInput, moved]
  exact fighterTick_prevInput _ opponent
    ((plain.plain slot).free unstunned)

theorem run_plain (p1FighterId p2FighterId : Int)
    (p1Loadout p2Loadout : LoadoutType)
    (history : List (UInt16 × UInt16)) :
    (step.run (simulationInit p1FighterId p2FighterId p1Loadout p2Loadout)
      history).Plain :=
  Machine.run_invariant Plain (fun _ _ plain => step_plain plain)
    (simulationInit_plain ..) history

def lastInputs (history : List (UInt16 × UInt16)) : UInt16 × UInt16 :=
  history.getLast?.getD (0, 0)

theorem run_prevInput (p1FighterId p2FighterId : Int)
    (p1Loadout p2Loadout : LoadoutType)
    (history : List (UInt16 × UInt16))
    (unhit : ((step.run (simulationInit p1FighterId p2FighterId p1Loadout
      p2Loadout) history).fighter slot).state ≠ .hit) :
    ((step.run (simulationInit p1FighterId p2FighterId p1Loadout
      p2Loadout) history).fighter slot).prevInput =
        inputOf (lastInputs history) slot := by
  rcases List.eq_nil_or_concat' history with rfl | ⟨before, last, rfl⟩
  · have loaded (lt : LoadoutType) (fighterId : Int) (slot : Slot) :
        (applyLoadout lt (fighterInit fighterId slot)).prevInput = 0 := by
      rw [applyLoadout]
      split_ifs <;> rfl
    cases slot
    · exact loaded ..
    · exact loaded ..
  · rw [lastInputs, List.getLast?_concat, Option.getD_some]
    rw [Machine.run_append] at unhit ⊢
    exact step_prevInput (run_plain ..) unhit

theorem entersAttack_punch (p1FighterId p2FighterId : Int)
    (p1Loadout p2Loadout : LoadoutType)
    (history : List (UInt16 × UInt16)) (inputs : UInt16 × UInt16)
    (slot : Slot)
    (enters : (step.run (simulationInit p1FighterId p2FighterId p1Loadout
      p2Loadout) history).EntersAttack inputs slot) :
    ∃ button ∈ punches, pressed (inputOf inputs slot) button = true ∧
      pressed (inputOf (lastInputs history) slot) button = false := by
  obtain ⟨opponent, moved⟩ := moved_eq _ inputs slot
  have attacks := enters.moved
  rw [moved] at attacks
  obtain ⟨unhit, button, punch, now, before⟩ :=
    fighterTick_enters enters.1 attacks
  rw [run_prevInput _ _ _ _ history unhit] at before
  exact ⟨button, punch, now, before⟩

/-- A jump and a punch. -/
theorem entersAttack_punch_jump :
    ∃ button ∈ punches, pressed 17 button = true ∧
      pressed 1 button = false :=
  entersAttack_punch 0 0 loadoutNone loadoutNone [(1, 0)] (17, 0) .p1
    (by decide +kernel)

end SimState

end FuryClash.Gameplay
