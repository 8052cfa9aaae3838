import FuryClash.Gameplay.SimState

namespace FuryClash.Gameplay

open FuryClash.Data

/-! How far a match gets. A round that is over is never followed by another
one, so nobody wins a second round. -/

namespace RoundState

structure Undecided (rs : RoundState) : Prop where
  goesOn : rs.matchOver = false
  first : rs.roundNumber = 1
  fresh : rs.roundOver = false → rs.p1RoundsWon = 0 ∧ rs.p2RoundsWon = 0
  won : rs.p1RoundsWon ≤ 1 ∧ rs.p2RoundsWon ≤ 1

theorem roundInit_undecided : roundInit.Undecided where
  goesOn := rfl
  first := rfl
  fresh _ := ⟨rfl, rfl⟩
  won := ⟨by decide, by decide⟩

theorem roundTick_undecided {rs : RoundState} (undecided : rs.Undecided)
    (p1Hp p2Hp : Int) : (rs.roundTick p1Hp p2Hp).Undecided := by
  rw [roundTick]
  split
  next => exact undecided
  next goesOn =>
    obtain ⟨first, second⟩ := undecided.fresh (Bool.eq_false_iff.mpr goesOn)
    have notEnough (p1Won p2Won : Int) (few : p1Won ≤ 1 ∧ p2Won ≤ 1) :
        ¬ (p1Won ≥ fcRoundsToWin ∨ p2Won ≥ fcRoundsToWin) := by
      rw [fcRoundsToWin]
      omega
    have ended (winner : Option Slot) (p1Won p2Won : Int)
        (few : p1Won ≤ 1 ∧ p2Won ≤ 1) :
        ({ rs with
          frameTimer := rs.frameTimer - 1, roundOver := true
          winnerSlot := winner, p1RoundsWon := p1Won
          p2RoundsWon := p2Won } : RoundState).Undecided :=
      { undecided with fresh := fun still => (by cases still), won := few }
    dsimp only
    split
    next =>
      split
      next =>
        rw [if_neg (notEnough _ _ (by dsimp only; omega))]
        exact ended none _ _ (by omega)
      next =>
        split
        next =>
          rw [if_neg (notEnough _ _ (by dsimp only; omega))]
          exact ended (some .p1) _ _ (by omega)
        next =>
          rw [if_neg (notEnough _ _ (by dsimp only; omega))]
          exact ended (some .p2) _ _ (by omega)
    next => exact { undecided with }

end RoundState

namespace SimState

theorem simulationTick_undecided {s : SimState}
    (undecided : s.round.Undecided) (p1Input p2Input : UInt16) :
    (simulationTick p1Input p2Input s).round.Undecided := by
  have goesOn : ¬ s.round.matchOver = true := by
    rw [undecided.goesOn]
    exact Bool.false_ne_true
  rw [simulationTick, if_neg goesOn]
  exact RoundState.roundTick_undecided undecided ..

theorem always_undecided (p1FighterId p2FighterId : Int)
    (p1Loadout p2Loadout : LoadoutType) (inputs : List (UInt16 × UInt16)) :
    step.Always (fun s => s.round.Undecided)
      (simulationInit p1FighterId p2FighterId p1Loadout p2Loadout) inputs := by
  exact Machine.always_of_invariant
    (fun s : SimState => s.round.Undecided)
    (fun s inputs undecided => simulationTick_undecided undecided ..)
    (fun _ undecided => undecided) RoundState.roundInit_undecided inputs

def Ends (p1FighterId p2FighterId : Int) (p1Loadout p2Loadout : LoadoutType)
    (inputs : List (UInt16 × UInt16)) : Prop :=
  (step.run
    (simulationInit p1FighterId p2FighterId p1Loadout p2Loadout)
    inputs).round.matchOver = true

theorem not_ends (p1FighterId p2FighterId : Int)
    (p1Loadout p2Loadout : LoadoutType) (inputs : List (UInt16 × UInt16)) :
    ¬ Ends p1FighterId p2FighterId p1Loadout p2Loadout inputs := by
  intro ends
  have undecided := (always_undecided p1FighterId p2FighterId p1Loadout
    p2Loadout inputs).last
  exact Bool.false_ne_true (undecided.goesOn.symm.trans ends)

def idle : List (UInt16 × UInt16) :=
  List.replicate (3 * fcRoundTimeSec * fcTickRate).toNat (0, 0)

theorem idle_not_ends :
    3 * fcRoundTimeSec * fcTickRate ≤ (idle.length : Int) ∧
      ¬ Ends 0 1 loadoutNone loadoutNone idle := by
  constructor
  · rw [idle, List.length_replicate]
    decide
  · intro ends
    have undecided :=
      (always_undecided 0 1 loadoutNone loadoutNone idle).last
    exact Bool.false_ne_true (undecided.goesOn.symm.trans ends)

end SimState

end FuryClash.Gameplay
