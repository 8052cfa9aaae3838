import FuryClash.Client.FightLoop
import FuryClash.Gameplay.MatchOver

namespace FuryClash.Client

open FuryClash.Data

variable {S : Type}

def gameSimulation : Simulation Gameplay.SimState where
  zero := .zero
  init := Gameplay.SimState.simulationInit
  tick := Gameplay.SimState.simulationTick

/-! The tick counter of a simulation. It stands still when the match is over,
so it is read while the match goes on. -/

structure Clock (simulation : Simulation S) where
  read : S → UInt32
  GoesOn : S → Prop
  tick_goesOn : ∀ (p1Input p2Input : UInt16) {state : S}, GoesOn state →
    GoesOn (simulation.tick p1Input p2Input state)
  tick_read : ∀ (p1Input p2Input : UInt16) {state : S}, GoesOn state →
    read (simulation.tick p1Input p2Input state) = read state + 1

/-- `g_sim.frame`, in a match that `simulation_init` began. -/
def gameClock : Clock gameSimulation where
  read := Gameplay.SimState.frame
  GoesOn state := state.round.Undecided
  tick_goesOn p1Input p2Input _ undecided :=
    Gameplay.SimState.simulationTick_undecided undecided p1Input p2Input
  tick_read p1Input p2Input state undecided := by
    have goesOn : ¬ state.round.matchOver = true := by
      rw [undecided.goesOn]
      exact Bool.false_ne_true
    exact congrArg Gameplay.SimState.frame (if_neg goesOn)

namespace Clock

variable {simulation : Simulation S} {clock : Clock simulation}
  {initial state : S} {ticks : Nat}

/-- The match goes on, and the clock is so many ticks behind the initial
state. -/
def After (clock : Clock simulation) (initial : S) (ticks : Nat)
    (state : S) : Prop :=
  clock.GoesOn state ∧ clock.read state = clock.read initial + .ofNat ticks

theorem After.refl (goesOn : clock.GoesOn state) :
    clock.After state 0 state :=
  ⟨goesOn, (UInt32.add_zero _).symm⟩

theorem After.tick (after : clock.After initial ticks state)
    (p1Input p2Input : UInt16) :
    clock.After initial (ticks + 1)
      (simulation.tick p1Input p2Input state) := by
  refine ⟨clock.tick_goesOn p1Input p2Input after.1, ?_⟩
  rw [clock.tick_read p1Input p2Input after.1, after.2, UInt32.ofNat_add,
    UInt32.add_assoc]
  rfl

/-- Two readings that are less than a turn of the counter apart. -/
theorem After.read_eq_iff {other : S} {ticks' : Nat}
    (after : clock.After initial ticks state)
    (after' : clock.After initial ticks' other)
    (below : ticks < ticks' + 2 ^ 32) (above : ticks' < ticks + 2 ^ 32) :
    clock.read state = clock.read other ↔ ticks = ticks' := by
  rw [after.2, after'.2, UInt32.add_right_inj]
  constructor
  · intro same
    have sameRest := congrArg UInt32.toNat same
    rw [UInt32.toNat_ofNat', UInt32.toNat_ofNat'] at sameRest
    omega
  · exact congrArg UInt32.ofNat

end Clock

/-! The rewinds that stand: a rewind to a frame undoes the earlier rewinds to
later frames. -/

def standBehind (diverge : Nat) (standing : List Nat) : List Nat :=
  diverge :: standing.filter (· ≤ diverge)

def upTo (frame : Nat) (standing : List Nat) : Nat :=
  standing.countP (· ≤ frame)

def beyond (frame : Nat) (standing : List Nat) : Nat :=
  standing.countP (frame < ·)

theorem upTo_add_beyond (frame : Nat) (standing : List Nat) :
    upTo frame standing + beyond frame standing = standing.length := by
  rw [List.length_eq_countP_add_countP (· ≤ frame), upTo, beyond]
  simp only [decide_eq_true_eq, Nat.not_le]

theorem length_standBehind (diverge : Nat) (standing : List Nat) :
    (standBehind diverge standing).length = upTo diverge standing + 1 := by
  rw [standBehind, List.length_cons, upTo, List.countP_eq_length_filter]

theorem beyond_standBehind_of_le {frame diverge : Nat}
    (later : diverge ≤ frame) (standing : List Nat) :
    beyond frame (standBehind diverge standing) = 0 := by
  rw [beyond, List.countP_eq_zero]
  intro other mem
  have earlier : other ≤ diverge := by
    rcases List.mem_cons.mp mem with rfl | mem
    · exact Nat.le_refl _
    · exact of_decide_eq_true (List.mem_filter.mp mem).2
  rw [decide_eq_true_eq, Nat.not_lt]
  exact Nat.le_trans earlier later

theorem upTo_standBehind_of_le {frame diverge : Nat}
    (later : diverge ≤ frame) (standing : List Nat) :
    upTo frame (standBehind diverge standing) = upTo diverge standing + 1 := by
  have all := upTo_add_beyond frame (standBehind diverge standing)
  rw [beyond_standBehind_of_le later, length_standBehind] at all
  exact all

theorem upTo_standBehind_of_lt {frame diverge : Nat}
    (earlier : frame < diverge) (standing : List Nat) :
    upTo frame (standBehind diverge standing) = upTo frame standing := by
  have notLater : ¬ decide (diverge ≤ frame) = true := by
    simpa using earlier
  rw [upTo, standBehind, List.countP_cons, if_neg notLater,
    List.countP_filter, upTo]
  refine List.countP_congr fun other _ => ?_
  simp only [Bool.and_eq_true, decide_eq_true_eq]
  exact and_iff_left_of_imp fun below =>
    Nat.le_of_lt (Nat.lt_of_le_of_lt below earlier)

theorem beyond_standBehind_le (frame diverge : Nat) (standing : List Nat) :
    beyond frame (standBehind diverge standing) ≤
      beyond frame standing + 1 := by
  have filtered : beyond frame (standing.filter (· ≤ diverge)) ≤
      beyond frame standing :=
    (List.filter_sublist).countP_le
  rw [beyond, standBehind, List.countP_cons, ← beyond]
  split <;> omega

namespace Engine

variable {simulation : Simulation S} {clock : Clock simulation}
  {initial : S} {ticks : Nat} {engine : Engine S}

theorem resimulate_after
    (after : clock.After initial ticks engine.sim) (frame count : Nat) :
    clock.After initial (ticks + count)
      (resimulate simulation frame count engine).sim := by
  induction count generalizing frame ticks engine with
  | zero => exact after
  | succ count ih =>
      rw [resimulate, Nat.add_comm count 1, ← Nat.add_assoc]
      exact ih (after.tick _ _) (frame + 1)

theorem resimulate_snapshot_of_lt {frame count other : Nat}
    (before : other < frame)
    (near : frame + count ≤ other + fcRollbackFrames) :
    ((resimulate simulation frame count engine).buf.get other).snapshot =
      (engine.buf.get other).snapshot := by
  induction count generalizing frame engine with
  | zero => rfl
  | succ count ih =>
      rw [resimulate, ih (by omega) (by omega)]
      exact congrArg FrameEntry.snapshot
        (Ring.get_set_of_near _ _ (by omega) (by omega) (by omega))

/-- The snapshot of a frame is saved again after the frame's tick. -/
theorem resimulate_snapshot_after {frame count other : Nat}
    (after : clock.After initial ticks engine.sim)
    (first : frame ≤ other) (last : other < frame + count)
    (near : count ≤ fcRollbackFrames) :
    clock.After initial (ticks + (other - frame) + 1)
      ((resimulate simulation frame count engine).buf.get
        other).snapshot := by
  induction count generalizing frame ticks engine with
  | zero => omega
  | succ count ih =>
      rw [resimulate]
      have ticked := after.tick (engine.buf.get frame).localInput
        (engine.buf.get frame).remoteInput
      rcases Nat.eq_or_lt_of_le first with rfl | later
      · rw [resimulate_snapshot_of_lt (by omega) (by omega),
          Ring.get_set_self, Nat.sub_self]
        exact ticked
      · have sameTicks : ticks + (other - frame) =
            ticks + 1 + (other - (frame + 1)) := by omega
        rw [sameTicks]
        refine ih ?_ later (by omega) (by omega)
        exact ticked

theorem rewind_after {diverge : Nat}
    (marked : engine.divergeFrame = some diverge)
    (restored : clock.After initial ticks (engine.buf.get diverge).snapshot)
    (currentFrame : Nat) :
    clock.After initial (ticks + (currentFrame - diverge))
      (engine.rollbackRewindAndResim simulation currentFrame).sim := by
  rw [rollbackRewindAndResim_of_pending simulation currentFrame marked]
  exact @resimulate_after _ simulation clock initial ticks
    { engine with sim := (engine.buf.get diverge).snapshot } restored _ _

end Engine

namespace Fight

variable {simulation : Simulation S} {clock : Clock simulation}
  {fight : Fight S} {standing : List Nat}

/-- The frames of this fight that are still in the ring. -/
def InWindow (fight : Fight S) (frame : Nat) : Prop :=
  fight.baseFrame < frame ∧ frame ≤ fight.currentFrame ∧
    fight.currentFrame < frame + fcRollbackFrames

instance (fight : Fight S) (frame : Nat) : Decidable (fight.InWindow frame) :=
  inferInstanceAs (Decidable (_ ∧ _))

/-- Every rewind that stands has added one tick, to `g_sim` and to the
snapshots from its frame on. -/
structure Clocked (clock : Clock simulation) (fight : Fight S)
    (standing : List Nat) : Prop where
  ticked : fight.played.length ≤ fight.currentFrame
  sim : clock.After fight.initial (fight.played.length + standing.length)
    fight.engine.sim
  saved : ∀ frame, fight.InWindow frame →
    clock.After fight.initial (frame - fight.baseFrame + upTo frame standing)
      (fight.engine.buf.get frame).snapshot

theorem start_clocked (currentFrame : Nat) {engine : Engine S}
    (goesOn : clock.GoesOn engine.sim) :
    (start currentFrame engine).Clocked clock [] where
  ticked := Nat.zero_le _
  sim := .refl goesOn
  saved := by
    rintro frame ⟨ofFight, simulated, _⟩
    simp only [start, baseFrame, List.length_nil] at ofFight simulated
    omega

theorem rewind_after (clocked : fight.Clocked clock standing) {diverge : Nat}
    (marked : fight.engine.divergeFrame = some diverge)
    (inWindow : fight.InWindow diverge) :
    clock.After fight.initial
      (fight.played.length + (upTo diverge standing + 1))
      (fight.engine.rollbackRewindAndResim simulation
        (fight.currentFrame + 1)).sim := by
  obtain ⟨ofFight, simulated, _⟩ := id inWindow
  have ticked := clocked.ticked
  have resumed := Engine.rewind_after marked (clocked.saved diverge inWindow)
    (fight.currentFrame + 1)
  have sameTicks : diverge - fight.baseFrame + upTo diverge standing +
      (fight.currentFrame + 1 - diverge) =
        fight.played.length + (upTo diverge standing + 1) := by
    rw [baseFrame] at ofFight ⊢
    omega
  rw [sameTicks] at resumed
  exact resumed

/-- A rewind of the next tick leaves one tick more than the frames have. -/
theorem rewind_clocked (clocked : fight.Clocked clock standing) {diverge : Nat}
    (marked : fight.engine.divergeFrame = some diverge)
    (inWindow : fight.InWindow diverge) :
    Clocked clock
      { fight with
        engine := fight.engine.rollbackRewindAndResim simulation
          (fight.currentFrame + 1) }
      (standBehind diverge standing) where
  ticked := clocked.ticked
  sim := by
    rw [length_standBehind]
    exact rewind_after clocked marked inWindow
  saved := by
    rintro frame ⟨ofFight, simulated, recent⟩
    change fight.baseFrame < frame at ofFight
    change frame ≤ fight.currentFrame at simulated
    change fight.currentFrame < frame + fcRollbackFrames at recent
    obtain ⟨ofFight', simulated', recent'⟩ := id inWindow
    dsimp only
    rw [Engine.rollbackRewindAndResim_of_pending simulation _ marked]
    rcases Nat.lt_or_ge frame diverge with earlier | later
    · rw [upTo_standBehind_of_lt earlier]
      dsimp only
      rw [Engine.resimulate_snapshot_of_lt earlier (by omega)]
      exact clocked.saved frame ⟨ofFight, simulated, recent⟩
    · rw [upTo_standBehind_of_le later]
      have restored := clocked.saved diverge inWindow
      have again := @Engine.resimulate_snapshot_after _ simulation clock _ _
        { fight.engine with sim := (fight.engine.buf.get diverge).snapshot }
        diverge (fight.currentFrame + 1 - diverge) frame restored later
        (by omega) (by omega)
      have sameTicks : diverge - fight.baseFrame + upTo diverge standing +
          (frame - diverge) + 1 =
            frame - fight.baseFrame + (upTo diverge standing + 1) := by
        omega
      rw [sameTicks] at again
      exact again

theorem save_clocked (clocked : fight.Clocked clock standing)
    (simulated : beyond (fight.currentFrame + 1) standing = 0)
    (p1Input p2Input : UInt16) (input : UInt16 × UInt16) :
    Clocked clock
      { fight with
        engine := (fight.engine.simulationTick simulation p1Input
          p2Input).rollbackSave (fight.currentFrame + 1)
        currentFrame := fight.currentFrame + 1
        played := fight.played ++ [input] }
      standing := by
  have ticked := clocked.ticked
  have oneMore : (fight.played ++ [input]).length =
      fight.played.length + 1 := List.length_append
  have next : clock.After fight.initial
      (fight.played.length + 1 + standing.length)
      (simulation.tick p1Input p2Input fight.engine.sim) := by
    rw [Nat.add_right_comm]
    exact clocked.sim.tick p1Input p2Input
  refine ⟨?_, ?_, ?_⟩
  · dsimp only
    rw [oneMore]
    exact Nat.succ_le_succ ticked
  · dsimp only
    rw [oneMore]
    exact next
  · rintro frame ⟨ofFight, simulated', recent⟩
    have sameBase : baseFrame
        { fight with
          engine := (fight.engine.simulationTick simulation p1Input
            p2Input).rollbackSave (fight.currentFrame + 1)
          currentFrame := fight.currentFrame + 1
          played := fight.played ++ [input] } = fight.baseFrame := by
      rw [baseFrame, oneMore, Nat.add_sub_add_right, baseFrame]
    rw [sameBase] at ofFight ⊢
    dsimp only at simulated' recent ⊢
    by_cases isNew : frame = fight.currentFrame + 1
    · subst isNew
      have all := upTo_add_beyond (fight.currentFrame + 1) standing
      rw [simulated, Nat.add_zero] at all
      have sameTicks : fight.currentFrame + 1 - fight.baseFrame =
          fight.played.length + 1 := by
        rw [baseFrame]
        omega
      rw [Engine.rollbackSave_get_self, all, sameTicks]
      exact next
    · rw [Engine.rollbackSave_get_of_near _ (Ne.symm isNew) (by omega)
        (by omega)]
      exact clocked.saved frame ⟨ofFight, by omega, by omega⟩

theorem confirm_clocked (clocked : fight.Clocked clock standing)
    (localSlot : Int) (frame : Nat) (input : UInt16) :
    (step simulation localSlot fight (.confirm frame input)).Clocked clock
      standing where
  ticked := clocked.ticked
  sim := clocked.sim
  saved := by
    intro other inWindow
    rw [step]
    dsimp only
    rw [Engine.rollbackConfirmRemote_snapshot]
    exact clocked.saved other inWindow

end Fight

/-- A fight with the frames of the rewinds that stand. -/
structure Rewinding (S : Type) where
  fight : Fight S
  standing : List Nat

namespace Rewinding

def start (currentFrame : Nat) (engine : Engine S) : Rewinding S where
  fight := .start currentFrame engine
  standing := []

def step (simulation : Simulation S) (localSlot : Int) :
    Machine (Rewinding S) FightEvent
  | rewinding, .tick localInput =>
      { fight := Fight.step simulation localSlot rewinding.fight
          (.tick localInput)
        standing :=
          match rewinding.fight.engine.divergeFrame with
          | none => rewinding.standing
          | some diverge => standBehind diverge rewinding.standing }
  | rewinding, .confirm frame input =>
      { rewinding with
        fight := Fight.step simulation localSlot rewinding.fight
          (.confirm frame input) }

def RewindsInWindow (rewinding : Rewinding S) : FightEvent → Prop
  | .tick _ =>
      ∀ diverge ∈ rewinding.fight.engine.divergeFrame,
        rewinding.fight.InWindow diverge
  | .confirm _ _ => True

instance (rewinding : Rewinding S) : (event : FightEvent) →
    Decidable (rewinding.RewindsInWindow event)
  | .tick _ => inferInstanceAs (Decidable (∀ _ ∈ _, _))
  | .confirm _ _ => isTrue trivial

def KeepsClock {simulation : Simulation S} (clock : Clock simulation)
    (rewinding : Rewinding S) : FightEvent → Prop
  | .tick _ =>
      clock.read (rewinding.fight.engine.rollbackRewindAndResim simulation
        (rewinding.fight.currentFrame + 1)).sim =
          clock.read rewinding.fight.engine.sim
  | .confirm _ _ => True

instance {simulation : Simulation S} (clock : Clock simulation)
    (rewinding : Rewinding S) : (event : FightEvent) →
    Decidable (rewinding.KeepsClock clock event)
  | .tick _ => inferInstanceAs (Decidable (_ = _))
  | .confirm _ _ => isTrue trivial

/-- A rewind undoes exactly one of the rewinds that stand. -/
def UndoesOne (rewinding : Rewinding S) : FightEvent → Prop
  | .tick _ =>
      ∀ diverge ∈ rewinding.fight.engine.divergeFrame,
        beyond diverge rewinding.standing = 1
  | .confirm _ _ => True

variable {simulation : Simulation S} {clock : Clock simulation}
  {localSlot : Int} {rewinding : Rewinding S}

structure Counted (clock : Clock simulation) (rewinding : Rewinding S) :
    Prop where
  clocked : rewinding.fight.Clocked clock rewinding.standing
  few : ∀ frame, beyond frame rewinding.standing ≤
    rewinding.fight.currentFrame - frame

theorem start_counted (currentFrame : Nat) {engine : Engine S}
    (goesOn : clock.GoesOn engine.sim) :
    (start currentFrame engine).Counted clock where
  clocked := Fight.start_clocked currentFrame goesOn
  few _ := Nat.zero_le _

theorem tick_counted_of_unmarked (counted : rewinding.Counted clock)
    (unmarked : rewinding.fight.engine.divergeFrame = none)
    (localInput : UInt16) :
    (step simulation localSlot rewinding (.tick localInput)).Counted clock := by
  obtain ⟨fight, standing⟩ := rewinding
  obtain ⟨clocked, few⟩ := counted
  change fight.Clocked clock standing at clocked
  change ∀ frame, beyond frame standing ≤ fight.currentFrame - frame at few
  change fight.engine.divergeFrame = none at unmarked
  have steady := Engine.steady_iff_unmarked.mpr unmarked
  have simulated : beyond (fight.currentFrame + 1) standing = 0 := by
    have none := few (fight.currentFrame + 1)
    omega
  rw [step, Fight.step, unmarked]
  dsimp only
  rw [fightTick_of_steady steady]
  refine ⟨Fight.save_clocked clocked simulated _ _ _, fun frame => ?_⟩
  have before := few frame
  change beyond frame standing ≤ fight.currentFrame + 1 - frame
  omega

theorem tick_counted_of_marked (counted : rewinding.Counted clock)
    {diverge : Nat}
    (marked : rewinding.fight.engine.divergeFrame = some diverge)
    (inWindow : rewinding.fight.InWindow diverge) (localInput : UInt16) :
    (step simulation localSlot rewinding (.tick localInput)).Counted clock := by
  obtain ⟨fight, standing⟩ := rewinding
  obtain ⟨clocked, few⟩ := counted
  change fight.Clocked clock standing at clocked
  change ∀ frame, beyond frame standing ≤ fight.currentFrame - frame at few
  change fight.engine.divergeFrame = some diverge at marked
  change fight.InWindow diverge at inWindow
  obtain ⟨_, simulated, _⟩ := id inWindow
  have pending := Engine.needsResim_of_marked marked
  have rewound := Fight.rewind_clocked clocked marked inWindow
  have noneLater := beyond_standBehind_of_le
    (Nat.le_add_right_of_le simulated : diverge ≤ fight.currentFrame + 1)
    standing
  rw [step, Fight.step, marked]
  dsimp only
  rw [fightTick, pending]
  refine ⟨Fight.save_clocked rewound noneLater _ _ _, fun frame => ?_⟩
  change beyond frame (standBehind diverge standing) ≤
    fight.currentFrame + 1 - frame
  rcases Nat.lt_or_ge frame diverge with earlier | later
  · have before := few frame
    have oneMore := beyond_standBehind_le frame diverge standing
    omega
  · rw [beyond_standBehind_of_le later]
    exact Nat.zero_le _

theorem step_counted (counted : rewinding.Counted clock) (event : FightEvent)
    (inWindow : rewinding.RewindsInWindow event) :
    (step simulation localSlot rewinding event).Counted clock := by
  cases event with
  | tick localInput =>
      cases marked : rewinding.fight.engine.divergeFrame with
      | none => exact tick_counted_of_unmarked counted marked localInput
      | some diverge =>
          exact tick_counted_of_marked counted marked
            (inWindow diverge marked) localInput
  | confirm frame input =>
      exact ⟨Fight.confirm_clocked counted.clocked localSlot frame input,
        counted.few⟩

/-- A rewind ticks once too often, and undoes one tick for each rewind that
stood behind its frame. -/
theorem keepsClock_iff (counted : rewinding.Counted clock)
    (event : FightEvent) (inWindow : rewinding.RewindsInWindow event) :
    rewinding.KeepsClock clock event ↔ rewinding.UndoesOne event := by
  cases event with
  | confirm frame input => exact Iff.rfl
  | tick localInput =>
      obtain ⟨clocked, few⟩ := counted
      rw [KeepsClock, UndoesOne]
      cases marked : rewinding.fight.engine.divergeFrame with
      | none =>
          have steady := Engine.steady_iff_unmarked.mpr marked
          rw [Engine.rollbackRewindAndResim_of_not_needsResim steady]
          exact iff_of_true rfl fun _ mem => by cases mem
      | some diverge =>
          have inWindow' := inWindow diverge marked
          obtain ⟨_, _, recent⟩ := id inWindow'
          have fewBehind := few diverge
          have all := upTo_add_beyond diverge rewinding.standing
          change rewinding.fight.currentFrame < diverge + 128 at recent
          rw [(Fight.rewind_after clocked marked inWindow').read_eq_iff
            clocked.sim (by omega) (by omega)]
          constructor
          · intro same other mem
            cases mem
            omega
          · intro one
            have exactlyOne := one diverge rfl
            omega

theorem keepsClock_iff_undoesOne (localSlot : Int) (currentFrame : Nat)
    (engine : Engine Gameplay.SimState)
    (p1FighterId p2FighterId p1Loadout p2Loadout : Int)
    {events : List FightEvent}
    (inWindow : (step gameSimulation localSlot).Along RewindsInWindow
      (start currentFrame { engine with
        sim := gameSimulation.init p1FighterId p2FighterId p1Loadout
          p2Loadout }) events) :
    (step gameSimulation localSlot).Along
      (fun rewinding event =>
        rewinding.KeepsClock gameClock event ↔ rewinding.UndoesOne event)
      (start currentFrame { engine with
        sim := gameSimulation.init p1FighterId p2FighterId p1Loadout
          p2Loadout }) events := by
  have begins := @start_counted _ gameSimulation gameClock currentFrame
    { engine with
      sim := gameSimulation.init p1FighterId p2FighterId p1Loadout p2Loadout }
    Gameplay.RoundState.roundInit_undecided
  exact inWindow.along (Counted gameClock)
    (fun _ event counted => step_counted counted event)
    (fun _ event counted => keepsClock_iff counted event) begins

def rewindsTwice : List FightEvent :=
  [.tick 0, .tick 0, .confirm 2 5, .tick 0, .confirm 1 7, .tick 0]

def rewindsOnce : List FightEvent := [.tick 0, .confirm 1 5, .tick 0]

theorem keepsClock_iff_undoesOne_rewindsTwice :
    let fight := start 0 (.fresh gameSimulation (gameSimulation.init 0 1 0 0))
    (step gameSimulation 0).Along
      (fun rewinding event =>
        rewinding.KeepsClock gameClock event ↔ rewinding.UndoesOne event)
      fight rewindsTwice :=
  keepsClock_iff_undoesOne 0 0
    (.fresh gameSimulation (gameSimulation.init 0 1 0 0)) 0 1 0 0 (by decide)

theorem rewindsOnce_not_keepsClock :
    let fight := start 0 (.fresh gameSimulation (gameSimulation.init 0 1 0 0))
    (step gameSimulation 0).Along RewindsInWindow fight rewindsOnce ∧
      ¬ (step gameSimulation 0).Along (KeepsClock gameClock) fight
        rewindsOnce := by
  refine ⟨by decide, fun keeps => ?_⟩
  exact absurd keeps.2.2.1 (by decide +kernel)

end Rewinding

end FuryClash.Client
