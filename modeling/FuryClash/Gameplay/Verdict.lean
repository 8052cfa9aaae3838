import FuryClash.Gameplay.Rounds
import FuryClash.Gameplay.Sides
import Mathlib.Algebra.Order.BigOperators.Group.List
import Mathlib.Data.List.Induction

namespace FuryClash.Gameplay

open FuryClash.Data

/-! Who wins the one round of a match. -/

def roundTicks : Nat := (fcRoundTimeSec * fcTickRate).toNat

namespace RoundState

variable {rs : RoundState} {p1Hp p2Hp : Int}

/-- What `round_tick` does while the first player is alive. -/
structure Judged (rs : RoundState) (p1Hp p2Hp : Int) (rs' : RoundState) :
    Prop where
  frameTimer : rs'.frameTimer = rs.frameTimer - 1
  roundOver : rs'.roundOver = true ↔ p2Hp ≤ 0 ∨ rs.frameTimer ≤ 1
  winnerSlot : rs'.winnerSlot = if rs'.roundOver = true then
    some (if p2Hp ≤ 0 ∨ p2Hp < p1Hp then .p1 else .p2) else rs.winnerSlot

theorem roundTick_judged (goesOn : rs.roundOver = false) (alive : 0 < p1Hp) :
    Judged rs p1Hp p2Hp (rs.roundTick p1Hp p2Hp) := by
  have unhurt : decide (p1Hp ≤ 0) = false := decide_eq_false (by omega)
  rw [roundTick, if_neg (Bool.eq_false_iff.mp goesOn)]
  simp only [unhurt, Bool.false_eq_true, false_or, false_and, if_false,
    decide_eq_true_eq]
  by_cases ends : p2Hp ≤ 0 ∨ rs.frameTimer - 1 ≤ 0
  · have timeUp : p2Hp ≤ 0 ∨ rs.frameTimer ≤ 1 := by omega
    rw [if_pos ends]
    by_cases first : p2Hp ≤ 0 ∨ p2Hp < p1Hp
    · rw [if_pos first]
      split_ifs
      all_goals exact ⟨rfl, iff_of_true rfl timeUp, by simp [first]⟩
    · rw [if_neg first]
      split_ifs
      all_goals exact ⟨rfl, iff_of_true rfl timeUp, by simp [first]⟩
  · rw [if_neg ends]
    refine ⟨rfl, ?_, by simp [goesOn]⟩
    rw [goesOn]
    exact iff_of_false Bool.false_ne_true (by omega)

end RoundState

namespace Scorecard

open Fighter SimState

variable {first : SimState} {c : Scorecard} {inputs : UInt16 × UInt16}

theorem step_round (goesOn : c.sim.round.matchOver = false) :
    (step c inputs).sim.round = c.sim.round.roundTick
      (step c inputs).sim.p1.health (step c inputs).sim.p2.health := by
  rw [step, SimState.step, simulationTick, goesOn]
  rfl

structure Ranked (first : SimState) : Prop where
  p1 : 1000 ≤ first.p1.health
  p2 : 0 < first.p2.health ∧ first.p2.health ≤ 1020
  damage : ∀ damage ∈ airDamages first.p1, 50 ≤ damage

theorem applyLoadout_ranked (lt : LoadoutType) (fighterId : Int)
    (slot : Slot) :
    (1000 ≤ (applyLoadout lt (fighterInit fighterId slot)).health ∧
        (applyLoadout lt (fighterInit fighterId slot)).health ≤ 1020) ∧
      ∀ damage ∈ airDamages (applyLoadout lt (fighterInit fighterId slot)),
        50 ≤ damage := by
  have strong : ∀ damagePct ∈ [(100 : Int), 120],
      ∀ damage ∈ airMoves.map fun mv => damageOf damagePct mv.hit,
        50 ≤ damage := by
    decide
  have plain : (1000 : Int) ≤ fcMaxHealth ∧ fcMaxHealth ≤ 1020 := by decide
  have frost : (1000 : Int) ≤ fcMaxHealth + 20 ∧ fcMaxHealth + 20 ≤ 1020 := by
    decide
  rw [applyLoadout]
  dsimp only
  split_ifs
  · exact ⟨plain, strong 120 (by decide)⟩
  · exact ⟨frost, strong 100 (by decide)⟩
  · exact ⟨plain, strong 100 (by decide)⟩

theorem simulationInit_ranked (p1FighterId p2FighterId : Int)
    (p1Loadout p2Loadout : LoadoutType) :
    Ranked (simulationInit p1FighterId p2FighterId p1Loadout p2Loadout) := by
  have p1 := applyLoadout_ranked p1Loadout p1FighterId .p1
  have p2 := applyLoadout_ranked p2Loadout p2FighterId .p2
  exact ⟨p1.1.1, ⟨lt_of_lt_of_le (by decide) p2.1.1, p2.1.2⟩, p1.2⟩

/-- A hit decides, and without one the health at the start, of which equal
amounts are the second player's. -/
def favoured (first : SimState) (taken : List Int) : Slot :=
  if taken = [] ∧ first.p1.health ≤ first.p2.health then .p2 else .p1

theorem favoured_of_hit {taken : List Int} (hit : taken ≠ []) :
    favoured first taken = .p1 :=
  if_neg fun both => hit both.1

theorem favoured_eq (ranked : Ranked first)
    (accounts : c.AccountsFor first .p2) :
    (if c.sim.p2.health ≤ 0 ∨ c.sim.p2.health < first.p1.health then
      Slot.p1 else .p2) = favoured first (c.taken .p2) := by
  have p1 := ranked.p1
  obtain ⟨alive, few⟩ := ranked.p2
  have left : c.sim.p2.health =
      max 0 (first.p2.health - (c.taken .p2).sum) := accounts.health
  have damage : ∀ damage ∈ c.taken .p2, 50 ≤ damage := fun damage mem =>
    ranked.damage damage (accounts.damage damage mem)
  cases taken : c.taken .p2 with
  | nil =>
      rw [taken, List.sum_nil] at left
      rw [favoured]
      by_cases more : first.p1.health ≤ first.p2.health
      · have behind : ¬ (c.sim.p2.health ≤ 0 ∨
            c.sim.p2.health < first.p1.health) := by
          omega
        rw [if_neg behind, if_pos ⟨rfl, more⟩]
      · have ahead : c.sim.p2.health ≤ 0 ∨
            c.sim.p2.health < first.p1.health := by
          omega
        rw [if_pos ahead, if_neg fun both => more both.2]
  | cons amount rest =>
      rw [taken] at left damage
      have hit := damage amount List.mem_cons_self
      have others : 0 ≤ rest.sum := List.sum_nonneg fun other mem =>
        (by decide : (0 : Int) ≤ 50).trans
          (damage other (List.mem_cons_of_mem amount mem))
      rw [List.sum_cons] at left
      rw [favoured_of_hit (List.cons_ne_nil amount rest), if_pos (by omega)]

/-- The round after the inputs. -/
structure Rounds (first : SimState) (n : Nat) (inTime : List Int)
    (c : Scorecard) : Prop where
  goesOn : c.sim.round.roundOver = false → n < roundTicks ∧
    c.sim.round.frameTimer = roundTicks - n ∧ 0 < c.sim.p2.health ∧
    c.sim.round.winnerSlot = none
  ended : c.sim.round.roundOver = true →
    (roundTicks ≤ n ∨ c.sim.p2.health = 0) ∧
    c.sim.round.winnerSlot = some (favoured first inTime)

theorem Booked.hit_of_beaten (booked : c.Booked first)
    (ranked : Ranked first) (beaten : c.sim.p2.health = 0) :
    c.taken .p2 ≠ [] := by
  intro untouched
  have left : c.sim.p2.health = max 0 (first.p2.health - (c.taken .p2).sum) :=
    (booked.accounts .p2).health
  have alive := ranked.p2.1
  rw [untouched, List.sum_nil] at left
  omega

theorem Booked.still_beaten (booked : c.Booked first)
    (beaten : c.sim.p2.health = 0) :
    (Scorecard.step c inputs).sim.p2.health = 0 := by
  have falls := (simulationTick_fights booked.plain.bounded inputs.1
    inputs.2).2.2
  rw [beaten] at falls
  exact le_antisymm falls
    ((@step_plain c.sim inputs booked.plain).fit .p2).alive

/-- The tick that `round_tick` ends the round in is the last one, or a hit has
left the second player nothing. -/
theorem Rounds.next {n : Nat} {inTime : List Int}
    (rounds : Rounds first n inTime c) (ranked : Ranked first)
    (booked : c.Booked first) (unharmed : Unharmed first c.sim)
    (sided : c.sim.Sided)
    (early : n < roundTicks → inTime = c.taken .p2) :
    Rounds first (n + 1)
      (if n < roundTicks then (step c inputs).taken .p2 else inTime)
      (step c inputs) := by
  have round := @step_round c inputs booked.plain.goesOn.goesOn
  have unharmed' : Unharmed first (step c inputs).sim :=
    sided.step_unharmed unharmed
  have accounts := (@Booked.step first c inputs booked).accounts .p2
  have p1 := ranked.p1
  rw [unharmed'.health] at round
  cases isOver : c.sim.round.roundOver with
  | true =>
      rw [RoundState.roundTick_over isOver] at round
      obtain ⟨ended, winnerSlot⟩ := rounds.ended isOver
      refine ⟨fun goesOn => ?_, fun _ => ⟨?_, ?_⟩⟩
      · rw [round, isOver] at goesOn
        cases goesOn
      · rcases ended with timeUp | beaten
        · exact .inl (by omega)
        · exact .inr (booked.still_beaten beaten)
      · rw [round, winnerSlot]
        split
        next inTime' =>
          -- the round has been over before its time, by a hit
          have beaten := ended.resolve_left (Nat.not_le_of_lt inTime')
          have hit := booked.hit_of_beaten ranked beaten
          rw [early inTime', favoured_of_hit hit, favoured_of_hit]
          exact List.append_ne_nil_of_left_ne_nil hit _
        next => rfl
  | false =>
      obtain ⟨inTime', frameTimer, _, undecided⟩ := rounds.goesOn isOver
      have judged := @RoundState.roundTick_judged c.sim.round first.p1.health
        (step c inputs).sim.p2.health isOver (by omega)
      rw [← round] at judged
      have timer := judged.frameTimer
      have ends := judged.roundOver
      have winnerSlot := judged.winnerSlot
      rw [if_pos inTime']
      refine ⟨fun goesOn => ?_, fun isOver' => ?_⟩
      · rw [goesOn] at ends winnerSlot
        have left := mt ends.mpr Bool.false_ne_true
        rw [if_neg Bool.false_ne_true] at winnerSlot
        exact ⟨by omega, by omega, by omega, winnerSlot.trans undecided⟩
      · rw [isOver', if_pos rfl, favoured_eq ranked accounts] at winnerSlot
        have ends := ends.mp isOver'
        have alive : 0 ≤ (step c inputs).sim.p2.health :=
          (accounts.health ▸ le_max_left 0 _ :)
        exact ⟨by omega, winnerSlot⟩

def takenInTime (first : SimState) (inputs : List (UInt16 × UInt16)) :
    List Int :=
  (step.run (start first) (inputs.take roundTicks)).taken .p2

theorem takenInTime_concat (first : SimState)
    (inputs : List (UInt16 × UInt16)) (last : UInt16 × UInt16) :
    takenInTime first (inputs ++ [last]) =
      if inputs.length < roundTicks then
        (step (step.run (start first) inputs) last).taken .p2
      else takenInTime first inputs := by
  rw [takenInTime, takenInTime]
  split
  next early =>
    have short : (inputs ++ [last]).length ≤ roundTicks := by
      rw [List.length_append, List.length_singleton]
      exact early
    rw [List.take_of_length_le short, Machine.run_append]
    rfl
  next late => rw [List.take_append_of_le_length (Nat.le_of_not_lt late)]

structure Played (first : SimState) (inputs : List (UInt16 × UInt16))
    (c : Scorecard) : Prop where
  booked : c.Booked first
  sided : c.sim.Sided
  unharmed : Unharmed first c.sim
  rounds : Rounds first inputs.length (takenInTime first inputs) c

theorem run_played (p1FighterId p2FighterId : Int)
    (p1Loadout p2Loadout : LoadoutType) (inputs : List (UInt16 × UInt16)) :
    Played (simulationInit p1FighterId p2FighterId p1Loadout p2Loadout) inputs
      (step.run
        (start (simulationInit p1FighterId p2FighterId p1Loadout p2Loadout))
        inputs) := by
  have ranked := simulationInit_ranked p1FighterId p2FighterId p1Loadout
    p2Loadout
  induction inputs using List.reverseRecOn with
  | nil =>
      have sided := simulationInit_sided p1FighterId p2FighterId p1Loadout
        p2Loadout
      have idle : (simulationInit p1FighterId p2FighterId p1Loadout
          p2Loadout).p1.state = .idle :=
        (simulationInit_untouched _ _ _ _ .p1).state
      refine ⟨start_booked .., sided, ⟨rfl, ?_⟩, fun _ => ?_, fun isOver => ?_⟩
      · intro hit
        cases idle.symm.trans hit
      · exact ⟨by decide, rfl, ranked.p2.1, rfl⟩
      · cases isOver
  | append_singleton inputs last ih =>
      have rounds := @Rounds.next _ _ last _ _ ih.rounds ranked ih.booked
        ih.unharmed ih.sided fun early => by
          rw [takenInTime, List.take_of_length_le early.le]
      rw [Machine.run_append]
      refine ⟨ih.booked.step, ih.sided.step,
        ih.sided.step_unharmed ih.unharmed, ?_⟩
      rw [takenInTime_concat, List.length_append, List.length_singleton]
      exact rounds

theorem run_sim (first : SimState) (inputs : List (UInt16 × UInt16)) :
    (step.run (start first) inputs).sim = SimState.step.run first inputs :=
  Machine.run_map (f := sim) fun _ _ => rfl

/-- When the round is over, and whose it is. -/
structure Verdict (first : SimState) (inputs : List (UInt16 × UInt16))
    (s : SimState) : Prop where
  roundOver : s.round.roundOver = true ↔
    roundTicks ≤ inputs.length ∨ s.p2.health = 0
  winnerSlot : s.round.winnerSlot = if s.round.roundOver = true then
    some (favoured first (takenInTime first inputs)) else none

/-- The first player wins with a single hit in time, and the second by not
being hit and having no less health from the start. -/
theorem round_verdict (p1FighterId p2FighterId : Int)
    (p1Loadout p2Loadout : LoadoutType) (inputs : List (UInt16 × UInt16)) :
    Verdict (simulationInit p1FighterId p2FighterId p1Loadout p2Loadout)
      inputs
      (SimState.step.run
        (simulationInit p1FighterId p2FighterId p1Loadout p2Loadout)
        inputs) := by
  have rounds := (run_played p1FighterId p2FighterId p1Loadout p2Loadout
    inputs).rounds
  rw [← run_sim]
  constructor
  case roundOver =>
    constructor
    · exact fun isOver => (rounds.ended isOver).1
    · intro ended
      by_contra goesOn
      obtain ⟨early, _, alive, _⟩ :=
        rounds.goesOn (Bool.eq_false_iff.mpr goesOn)
      omega
  case winnerSlot =>
    split
    next isOver => exact (rounds.ended isOver).2
    next goesOn =>
      exact (rounds.goesOn (Bool.eq_false_iff.mpr goesOn)).2.2.2

end Scorecard

end FuryClash.Gameplay
