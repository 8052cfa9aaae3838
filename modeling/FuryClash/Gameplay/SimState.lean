import FuryClash.Data.Run
import FuryClash.Gameplay.Fighter

namespace FuryClash.Gameplay

open FuryClash.Data

/-! `round.c` and `simulation.c`. -/

def fcTickRate : Int := 60
def fcRoundsToWin : Int := 2
def fcRoundTimeSec : Int := 99

/-- `winner_slot` is `-1` for a draw, which is `none`. -/
structure RoundState where
  p1RoundsWon : Int
  p2RoundsWon : Int
  frameTimer : Int
  roundNumber : Int
  roundOver : Bool
  matchOver : Bool
  winnerSlot : Option Slot
  deriving DecidableEq

namespace RoundState

def zero : RoundState := ⟨0, 0, 0, 0, false, false, some .p1⟩

def roundInit : RoundState :=
  { zero with
    frameTimer := fcRoundTimeSec * fcTickRate
    roundNumber := 1
    winnerSlot := none }

def roundTick (rs : RoundState) (p1Hp p2Hp : Int) : RoundState :=
  if rs.roundOver then rs
  else
    let rs := { rs with frameTimer := rs.frameTimer - 1 }
    let p1Ko := decide (p1Hp ≤ 0)
    let p2Ko := decide (p2Hp ≤ 0)
    if p1Ko ∨ p2Ko ∨ rs.frameTimer ≤ 0 then
      let rs := { rs with roundOver := true }
      let rs :=
        if p1Ko ∧ p2Ko then
          { rs with
            winnerSlot := none
            p1RoundsWon := rs.p1RoundsWon + 1
            p2RoundsWon := rs.p2RoundsWon + 1 }
        else if p2Ko ∨ p1Hp > p2Hp then
          { rs with
            winnerSlot := some .p1
            p1RoundsWon := rs.p1RoundsWon + 1 }
        else
          { rs with
            winnerSlot := some .p2
            p2RoundsWon := rs.p2RoundsWon + 1 }
      if rs.p1RoundsWon ≥ fcRoundsToWin ∨ rs.p2RoundsWon ≥ fcRoundsToWin then
        { rs with matchOver := true }
      else rs
    else rs

/-- It has no caller. -/
def roundStartNext (rs : RoundState) : RoundState :=
  { rs with
    roundOver := false
    winnerSlot := none
    frameTimer := fcRoundTimeSec * fcTickRate
    roundNumber := rs.roundNumber + 1 }

end RoundState

structure SimState where
  p1 : Fighter
  p2 : Fighter
  round : RoundState
  frame : UInt32
  deriving DecidableEq

namespace SimState

def zero : SimState := ⟨.zero, .zero, .zero, 0⟩

def applyLoadout (lt : LoadoutType) (f : Fighter) : Fighter :=
  let f := { f with loadout := lt, damagePct := 100 }
  if lt = loadoutFire then { f with damagePct := 120 }
  else if lt = loadoutFrost then
    { f with health := f.health + 20, maxHealth := f.maxHealth + 20 }
  else f

def simulationInit (p1FighterId p2FighterId : Int)
    (p1Loadout p2Loadout : LoadoutType) : SimState where
  p1 := applyLoadout p1Loadout (.fighterInit p1FighterId .p1)
  p2 := applyLoadout p2Loadout (.fighterInit p2FighterId .p2)
  round := .roundInit
  frame := 0

def resolveHits (p1 p2 : Fighter) : Fighter × Fighter :=
  let (p1, p2) :=
    if p1.hitboxCheck p2 then p1.hitboxResolve p2 else (p1, p2)
  if p2.hitboxCheck p1 then (p2.hitboxResolve p1).swap else (p1, p2)

def fightersTick (p1Input p2Input : UInt16) (p1 p2 : Fighter) :
    Fighter × Fighter :=
  let p1 := p1.fighterTick p1Input p2
  let p2 := p2.fighterTick p2Input p1
  let hits := resolveHits p1 p2
  hits.1.physicsPushApart hits.2

def simulationTick (p1Input p2Input : UInt16) (s : SimState) : SimState :=
  if s.round.matchOver then s
  else
    let fighters := fightersTick p1Input p2Input s.p1 s.p2
    { s with
      p1 := fighters.1
      p2 := fighters.2
      round := s.round.roundTick fighters.1.health fighters.2.health
      frame := s.frame + 1 }

/-- The two inputs of a tick. -/
def step : Machine SimState (UInt16 × UInt16)
  | s, (p1Input, p2Input) => s.simulationTick p1Input p2Input

end SimState

end FuryClash.Gameplay
