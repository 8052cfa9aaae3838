import FuryClash.Gameplay.SimState

namespace FuryClash.Gameplay

open FuryClash.Data

/-! The rounds of a match: what `round_tick` and `round_start_next` make of
their counters, and what becomes of it when the players change places. -/

inductive RoundCall where
  | tick (p1Hp p2Hp : Int)
  | startNext

namespace RoundState

def call : Machine RoundState RoundCall
  | rs, .tick p1Hp p2Hp => rs.roundTick p1Hp p2Hp
  | rs, .startNext => rs.roundStartNext

/-- The next round is started behind a round that leaves the match open. -/
def Allowed (rs : RoundState) : RoundCall → Prop
  | .tick _ _ => True
  | .startNext => rs.roundOver = true ∧ rs.matchOver = false

structure Booked (rs : RoundState) : Prop where
  p1RoundsWon : rs.p1RoundsWon ≤ fcRoundsToWin
  p2RoundsWon : rs.p2RoundsWon ≤ fcRoundsToWin
  roundNumber : rs.roundNumber ≤ 3
  matchOver : rs.matchOver = true ↔
    rs.p1RoundsWon = fcRoundsToWin ∨ rs.p2RoundsWon = fcRoundsToWin

structure SameRounds (rs rs' : RoundState) : Prop where
  p1RoundsWon : rs'.p1RoundsWon = rs.p1RoundsWon
  p2RoundsWon : rs'.p2RoundsWon = rs.p2RoundsWon

inductive Awarded (p1Hp p2Hp : Int) (rs rs' : RoundState) : Prop
  | p1 (winner : rs'.winnerSlot = some .p1)
      (p1RoundsWon : rs'.p1RoundsWon = rs.p1RoundsWon + 1)
      (p2RoundsWon : rs'.p2RoundsWon = rs.p2RoundsWon)
  | p2 (winner : rs'.winnerSlot = some .p2)
      (p1RoundsWon : rs'.p1RoundsWon = rs.p1RoundsWon)
      (p2RoundsWon : rs'.p2RoundsWon = rs.p2RoundsWon + 1)
  | both (doubleKo : p1Hp ≤ 0 ∧ p2Hp ≤ 0) (winner : rs'.winnerSlot = none)
      (p1RoundsWon : rs'.p1RoundsWon = rs.p1RoundsWon + 1)
      (p2RoundsWon : rs'.p2RoundsWon = rs.p2RoundsWon + 1)

/-- A round is counted when it ends, once. -/
structure CountsOnce (p1Hp p2Hp : Int) (rs rs' : RoundState) : Prop where
  closed : rs.roundOver = true → rs' = rs
  ended : rs.roundOver = false → rs'.roundOver = true →
    Awarded p1Hp p2Hp rs rs'
  goesOn : rs'.roundOver = false → SameRounds rs rs'

def KeepsBooks (rs : RoundState) : RoundCall → Prop
  | .tick p1Hp p2Hp => CountsOnce p1Hp p2Hp rs (rs.roundTick p1Hp p2Hp)
  | .startNext => SameRounds rs rs.roundStartNext

/-- Who a round goes to that ends with these healths; nobody is both. -/
def verdict (p1Hp p2Hp : Int) : Option Slot :=
  if p1Hp ≤ 0 ∧ p2Hp ≤ 0 then none
  else if p2Hp ≤ 0 ∨ p1Hp > p2Hp then some .p1
  else some .p2

def award (rs : RoundState) : Option Slot → RoundState
  | none =>
      { rs with
        winnerSlot := none
        p1RoundsWon := rs.p1RoundsWon + 1
        p2RoundsWon := rs.p2RoundsWon + 1 }
  | some .p1 =>
      { rs with winnerSlot := some .p1, p1RoundsWon := rs.p1RoundsWon + 1 }
  | some .p2 =>
      { rs with winnerSlot := some .p2, p2RoundsWon := rs.p2RoundsWon + 1 }

def close (rs : RoundState) : RoundState :=
  if rs.p1RoundsWon ≥ fcRoundsToWin ∨ rs.p2RoundsWon ≥ fcRoundsToWin then
    { rs with matchOver := true }
  else rs

def timed (rs : RoundState) : RoundState :=
  { rs with frameTimer := rs.frameTimer - 1 }

def ended (winner : Option Slot) (rs : RoundState) : RoundState :=
  close (award { rs.timed with roundOver := true } winner)

def EndsNow (rs : RoundState) (p1Hp p2Hp : Int) : Prop :=
  p1Hp ≤ 0 ∨ p2Hp ≤ 0 ∨ rs.frameTimer ≤ 1

variable {rs rs' : RoundState} {p1Hp p2Hp : Int} {winner : Option Slot}

theorem roundTick_over (isOver : rs.roundOver = true) :
    rs.roundTick p1Hp p2Hp = rs := if_pos isOver

theorem roundTick_goesOn (running : rs.roundOver = false)
    (goesOn : ¬ rs.EndsNow p1Hp p2Hp) :
    rs.roundTick p1Hp p2Hp = rs.timed := by
  rw [EndsNow] at goesOn
  rw [roundTick, if_neg (by simp [running])]
  simp only [decide_eq_true_eq]
  exact if_neg (by omega)

theorem roundTick_ends (running : rs.roundOver = false)
    (ends : rs.EndsNow p1Hp p2Hp) :
    rs.roundTick p1Hp p2Hp = rs.ended (verdict p1Hp p2Hp) := by
  rw [EndsNow] at ends
  rw [roundTick, if_neg (by simp [running])]
  simp only [decide_eq_true_eq]
  rw [if_pos (by omega), verdict]
  by_cases doubleKo : p1Hp ≤ 0 ∧ p2Hp ≤ 0
  · rw [if_pos doubleKo, if_pos doubleKo]
    rfl
  · rw [if_neg doubleKo, if_neg doubleKo]
    by_cases first : p2Hp ≤ 0 ∨ p1Hp > p2Hp
    · rw [if_pos first, if_pos first]
      rfl
    · rw [if_neg first, if_neg first]
      rfl

theorem verdict_eq_none (nobody : verdict p1Hp p2Hp = none) :
    p1Hp ≤ 0 ∧ p2Hp ≤ 0 := by
  rw [verdict] at nobody
  split at nobody
  next doubleKo => exact doubleKo
  next => split at nobody <;> cases nobody

theorem close_eq (rs : RoundState) :
    rs.close = { rs with matchOver := rs.close.matchOver } := by
  rw [close]
  split <;> rfl

theorem close_matchOver (rs : RoundState) :
    rs.close.matchOver = true ↔ rs.matchOver = true ∨
      fcRoundsToWin ≤ rs.p1RoundsWon ∨ fcRoundsToWin ≤ rs.p2RoundsWon := by
  rw [close]
  split
  next enough => exact iff_of_true rfl (.inr enough)
  next few => exact (or_iff_left few).symm

theorem award_eq (rs : RoundState) (winner : Option Slot) :
    rs.award winner = { rs with
      winnerSlot := winner
      p1RoundsWon := (rs.award winner).p1RoundsWon
      p2RoundsWon := (rs.award winner).p2RoundsWon } :=
  match winner with
  | none => rfl
  | some .p1 => rfl
  | some .p2 => rfl

theorem ended_roundOver (rs : RoundState) (winner : Option Slot) :
    (rs.ended winner).roundOver = true := by
  rw [ended, close_eq, award_eq]

theorem ended_roundNumber (rs : RoundState) (winner : Option Slot) :
    (rs.ended winner).roundNumber = rs.roundNumber := by
  rw [ended, close_eq, award_eq]
  rfl

theorem ended_winnerSlot (rs : RoundState) (winner : Option Slot) :
    (rs.ended winner).winnerSlot = winner := by
  rw [ended, close_eq, award_eq]

theorem ended_matchOver (isOpen : rs.matchOver = false)
    (winner : Option Slot) :
    (rs.ended winner).matchOver = true ↔
      fcRoundsToWin ≤ (rs.ended winner).p1RoundsWon ∨
        fcRoundsToWin ≤ (rs.ended winner).p2RoundsWon := by
  have before : (award { rs.timed with roundOver := true } winner).matchOver =
      false := by
    rw [award_eq]
    exact isOpen
  rw [ended, close_matchOver, before, or_iff_right Bool.false_ne_true,
    close_eq]

theorem ended_awarded (rs : RoundState)
    (nobody : winner = none → p1Hp ≤ 0 ∧ p2Hp ≤ 0) :
    Awarded p1Hp p2Hp rs (rs.ended winner) := by
  rw [ended, close_eq]
  match winner with
  | none => exact .both (nobody rfl) rfl rfl rfl
  | some .p1 => exact .p1 rfl rfl rfl
  | some .p2 => exact .p2 rfl rfl rfl

theorem Awarded.counts (awarded : Awarded p1Hp p2Hp rs rs') :
    rs'.p1RoundsWon ≤ rs.p1RoundsWon + 1 ∧
      rs'.p2RoundsWon ≤ rs.p2RoundsWon + 1 ∧
      rs.p1RoundsWon + rs.p2RoundsWon + 1 ≤
        rs'.p1RoundsWon + rs'.p2RoundsWon := by
  cases awarded with
  | p1 => omega
  | p2 => omega
  | both => omega

/-- Somebody has won every round that is over. -/
structure Match (rs : RoundState) : Prop extends Booked rs where
  closed : rs.matchOver = true → rs.roundOver = true
  won : rs.roundNumber ≤ rs.p1RoundsWon + rs.p2RoundsWon + 1
  wonBehind : rs.roundOver = true →
    rs.roundNumber ≤ rs.p1RoundsWon + rs.p2RoundsWon

theorem roundInit_match : roundInit.Match where
  p1RoundsWon := by decide
  p2RoundsWon := by decide
  roundNumber := by decide
  matchOver := by decide
  closed := nofun
  won := by decide
  wonBehind := nofun

theorem Match.few (inMatch : rs.Match) (isOpen : rs.matchOver = false) :
    rs.p1RoundsWon ≤ 1 ∧ rs.p2RoundsWon ≤ 1 := by
  have limit : fcRoundsToWin = 2 := rfl
  have noWinner := inMatch.matchOver.not.mp
    (isOpen ▸ Bool.false_ne_true)
  have p1 := inMatch.p1RoundsWon
  have p2 := inMatch.p2RoundsWon
  omega

theorem Match.ended (inMatch : rs.Match) (running : rs.roundOver = false)
    (nobody : winner = none → p1Hp ≤ 0 ∧ p2Hp ≤ 0) :
    (rs.ended winner).Match := by
  have isOpen : rs.matchOver = false := by
    refine Bool.eq_false_iff.mpr fun isOver => ?_
    exact Bool.false_ne_true (running.symm.trans (inMatch.closed isOver))
  have limit : fcRoundsToWin = 2 := rfl
  have few := inMatch.few isOpen
  have won := inMatch.won
  have number := inMatch.roundNumber
  have counts := (ended_awarded rs nobody).counts
  have same := ended_roundNumber rs winner
  have decided := ended_matchOver isOpen winner
  refine ⟨⟨by omega, by omega, by omega, decided.trans ?_⟩,
    fun _ => ended_roundOver rs winner, by omega, fun _ => by omega⟩
  omega

theorem Match.tick (inMatch : rs.Match) (p1Hp p2Hp : Int) :
    (rs.roundTick p1Hp p2Hp).Match := by
  cases running : rs.roundOver with
  | true => rwa [roundTick_over running]
  | false =>
      by_cases ends : rs.EndsNow p1Hp p2Hp
      · rw [roundTick_ends running ends]
        exact inMatch.ended running verdict_eq_none
      · rw [roundTick_goesOn running ends]
        exact { inMatch with }

theorem Match.startNext (inMatch : rs.Match)
    (allowed : rs.Allowed .startNext) : rs.roundStartNext.Match := by
  obtain ⟨isOver, isOpen⟩ := allowed
  have few := inMatch.few isOpen
  have won := inMatch.wonBehind isOver
  refine { inMatch with
    roundNumber := ?_
    closed := fun decided => ?_
    won := ?_
    wonBehind := nofun }
  · change rs.roundNumber + 1 ≤ 3
    omega
  · exact absurd (isOpen.symm.trans decided) Bool.false_ne_true
  · change rs.roundNumber + 1 ≤ rs.p1RoundsWon + rs.p2RoundsWon + 1
    omega

theorem Match.call (inMatch : rs.Match) {event : RoundCall}
    (allowed : rs.Allowed event) : (RoundState.call rs event).Match := by
  cases event with
  | tick p1Hp p2Hp => exact inMatch.tick p1Hp p2Hp
  | startNext => exact inMatch.startNext allowed

theorem roundTick_countsOnce (rs : RoundState) (p1Hp p2Hp : Int) :
    CountsOnce p1Hp p2Hp rs (rs.roundTick p1Hp p2Hp) := by
  cases running : rs.roundOver with
  | true =>
      rw [roundTick_over running]
      refine ⟨fun _ => rfl, fun still => ?_, fun _ => ⟨rfl, rfl⟩⟩
      cases running.symm.trans still
  | false =>
      have notOver {result : Prop} (isOver : rs.roundOver = true) : result :=
        absurd (running.symm.trans isOver) Bool.false_ne_true
      by_cases ends : rs.EndsNow p1Hp p2Hp
      · rw [roundTick_ends running ends]
        refine ⟨notOver, fun _ _ => ended_awarded rs verdict_eq_none,
          fun still => ?_⟩
        cases (ended_roundOver ..).symm.trans still
      · rw [roundTick_goesOn running ends]
        exact ⟨notOver, fun _ => notOver, fun _ => ⟨rfl, rfl⟩⟩

theorem keepsBooks (rs : RoundState) (event : RoundCall) :
    rs.KeepsBooks event := by
  cases event with
  | tick p1Hp p2Hp => exact roundTick_countsOnce rs p1Hp p2Hp
  | startNext => exact ⟨rfl, rfl⟩

/-- The books of a match, in every state and over every call. -/
theorem always_booked (events : List RoundCall)
    (allowed : call.Along Allowed roundInit events) :
    call.Always Booked roundInit events ∧
      call.Along KeepsBooks roundInit events := by
  constructor
  · exact allowed.always Match (fun _ _ inMatch => inMatch.call)
      (fun _ inMatch => inMatch.toBooked) roundInit_match
  · exact Machine.along_of_forall keepsBooks

/-- A double KO, a round for the first player, and the end of the match. -/
theorem always_booked_doubleKo :
    call.Always Booked roundInit
        [.tick 0 0, .tick 0 0, .startNext, .tick 1 1, .tick 3 0, .tick 0 9] ∧
      call.Along KeepsBooks roundInit
        [.tick 0 0, .tick 0 0, .startNext, .tick 1 1, .tick 3 0, .tick 0 9] :=
  always_booked _ ⟨trivial, trivial, ⟨rfl, rfl⟩, trivial, trivial, trivial,
    trivial⟩

def exchange (rs : RoundState) : RoundState :=
  { rs with
    p1RoundsWon := rs.p2RoundsWon
    p2RoundsWon := rs.p1RoundsWon
    winnerSlot := rs.winnerSlot.map Slot.other }

def FavoursNeither (rs : RoundState) (p1Hp p2Hp : Int) : Prop :=
  rs.exchange.roundTick p2Hp p1Hp = (rs.roundTick p1Hp p2Hp).exchange

instance (rs : RoundState) (p1Hp p2Hp : Int) :
    Decidable (rs.FavoursNeither p1Hp p2Hp) :=
  inferInstanceAs (Decidable (_ = _))

/-- The time runs out with the players alive and at the same health. -/
structure TimesOutEven (rs : RoundState) (p1Hp p2Hp : Int) : Prop where
  running : rs.roundOver = false
  timer : rs.frameTimer ≤ 1
  alive : 0 < p1Hp
  same : p1Hp = p2Hp

theorem award_exchange (rs : RoundState) (winner : Option Slot) :
    rs.exchange.award (winner.map Slot.other) = (rs.award winner).exchange :=
  match winner with
  | none => rfl
  | some .p1 => rfl
  | some .p2 => rfl

theorem close_exchange (rs : RoundState) :
    rs.exchange.close = rs.close.exchange := by
  have turned : (rs.exchange.p1RoundsWon ≥ fcRoundsToWin ∨
      rs.exchange.p2RoundsWon ≥ fcRoundsToWin) ↔
        (rs.p1RoundsWon ≥ fcRoundsToWin ∨ rs.p2RoundsWon ≥ fcRoundsToWin) :=
    or_comm
  rw [close, close]
  split
  next enough =>
    rw [if_pos (turned.mp enough)]
    rfl
  next few => rw [if_neg (turned.not.mp few)]

theorem ended_exchange (rs : RoundState) (winner : Option Slot) :
    rs.exchange.ended (winner.map Slot.other) =
      (rs.ended winner).exchange := by
  rw [ended, ended, ← close_exchange, ← award_exchange]
  rfl

theorem verdict_exchange (p1Hp p2Hp : Int) :
    verdict p2Hp p1Hp = (verdict p1Hp p2Hp).map Slot.other ↔
      ¬ (0 < p1Hp ∧ p1Hp = p2Hp) := by
  rw [verdict, verdict]
  split_ifs <;> simp [Slot.other] <;> omega

theorem endsNow_exchange (rs : RoundState) (p1Hp p2Hp : Int) :
    rs.exchange.EndsNow p2Hp p1Hp ↔ rs.EndsNow p1Hp p2Hp :=
  or_left_comm

/-- The players are treated alike, but for a round that times out even: it
goes to the second of them. -/
theorem favoursNeither_iff (rs : RoundState) (p1Hp p2Hp : Int) :
    rs.FavoursNeither p1Hp p2Hp ↔ ¬ rs.TimesOutEven p1Hp p2Hp := by
  rw [FavoursNeither]
  cases running : rs.roundOver with
  | true =>
      have turned : rs.exchange.roundOver = true := running
      rw [roundTick_over turned, roundTick_over running]
      refine iff_of_true rfl fun even => ?_
      cases running.symm.trans even.running
  | false =>
      have turned : rs.exchange.roundOver = false := running
      by_cases ends : rs.EndsNow p1Hp p2Hp
      · rw [roundTick_ends turned ((endsNow_exchange ..).mpr ends),
          roundTick_ends running ends, ← ended_exchange]
        have same : rs.exchange.ended (verdict p2Hp p1Hp) =
            rs.exchange.ended ((verdict p1Hp p2Hp).map Slot.other) ↔
              verdict p2Hp p1Hp = (verdict p1Hp p2Hp).map Slot.other := by
          refine ⟨fun alike => ?_, congrArg rs.exchange.ended⟩
          have winners := congrArg winnerSlot alike
          rwa [ended_winnerSlot, ended_winnerSlot] at winners
        rw [same, verdict_exchange, not_iff_not]
        constructor
        · rintro ⟨alive, equal⟩
          rw [EndsNow] at ends
          exact ⟨running, by omega, alive, equal⟩
        · exact fun even => ⟨even.alive, even.same⟩
      · rw [roundTick_goesOn turned ((endsNow_exchange ..).not.mpr ends),
          roundTick_goesOn running ends]
        refine iff_of_true rfl fun even => ends ?_
        exact .inr (.inr even.timer)

def lastTick : RoundState := { roundInit with frameTimer := 1 }

theorem not_favoursNeither_lastTick :
    ¬ lastTick.FavoursNeither fcMaxHealth fcMaxHealth := by
  decide

end RoundState

end FuryClash.Gameplay
