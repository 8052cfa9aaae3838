import FuryClash.Client.FightLoop

namespace FuryClash.Client

open FuryClash.Data

variable {S : Type}

namespace Fight

/-! While no divergence is pending, every fight frame is simulated exactly
once, on the remote input that was predicted for it. -/

def playLive (simulation : Simulation S) (localSlot : Int)
    (played : List (UInt16 × UInt16)) (state : S) : S :=
  played.foldl
    (fun state input =>
      simulation.tickPlaced localSlot input.1 input.2 state) state

def Live (simulation : Simulation S) (localSlot : Int)
    (fight : Fight S) : Prop :=
  fight.engine.sim =
    playLive simulation localSlot fight.played fight.initial

theorem live_step {simulation : Simulation S} {localSlot : Int}
    (fight : Fight S) (event : FightEvent)
    (live : fight.Live simulation localSlot) (steady : fight.Steady event) :
    (step simulation localSlot fight event).Live simulation localSlot := by
  cases event with
  | tick localInput =>
      unfold Live at live ⊢
      simp only [step, fightTick_of_steady steady, Engine.rollbackSave_sim,
        live, playLive, List.foldl_append, List.foldl_cons, List.foldl_nil]
  | confirm frame input => exact live

/-! A simulation that counts its ticks, and knows whether its state descends
from this fight. It tells every rewind of the code from the replay. -/

def tickCounter : Simulation (Bool × Nat) where
  zero := (false, 0)
  init _ _ _ _ := (true, 0)
  tick _ _ state := (state.1, state.2 + 1)

theorem resimulate_tickCounter (frame count : Nat)
    (engine : Engine (Bool × Nat)) :
    (Engine.resimulate tickCounter frame count engine).sim =
      (engine.sim.1, engine.sim.2 + count) := by
  induction count generalizing frame engine with
  | zero => rfl
  | succ count ih =>
      rw [Engine.resimulate, ih]
      simp only [Engine.simulationTick, tickCounter, Prod.mk.injEq, true_and]
      omega

theorem replayFrom_tickCounter (localSlot : Int)
    (confirmed : List (Nat × UInt16)) (frame : Nat)
    (played : List (UInt16 × UInt16)) (state : Bool × Nat) :
    replayFrom tickCounter localSlot confirmed frame played state =
      (state.1, state.2 + played.length) := by
  induction played generalizing frame state with
  | nil => rfl
  | cons input rest ih =>
      rw [replayFrom, ih]
      simp only [Simulation.tickPlaced, tickCounter, List.length_cons,
        Prod.mk.injEq, true_and]
      omega

/-- What holds of the counting simulation up to the first rewind. -/
structure Counted (fight : Fight (Bool × Nat)) : Prop where
  initial : fight.initial = (true, 0)
  sim : fight.engine.sim = (true, fight.played.length)
  ticked : fight.played.length ≤ fight.currentFrame
  saved : ∀ frame, fight.baseFrame < frame → frame ≤ fight.currentFrame →
    fight.currentFrame < frame + fcRollbackFrames →
    (fight.engine.buf.get frame).snapshot = (true, frame - fight.baseFrame)
  unsaved : fight.played = [] →
    ∀ frame, (fight.engine.buf.get frame).snapshot = (false, 0)
  marked : ∀ frame, fight.engine.divergeFrame = some frame →
    fight.played = [] ∨
      fight.baseFrame < frame ∧ frame ≤ fight.currentFrame ∧
        fight.currentFrame < frame + fcRollbackFrames

theorem counted_start (currentFrame : Nat) (inputs : Engine Unit) :
    Counted (start currentFrame
      (inputs.withStates (true, 0) fun _ => (false, 0))) where
  initial := rfl
  sim := rfl
  ticked := Nat.zero_le _
  saved := by
    intro frame above below _
    simp only [start, baseFrame, List.length_nil] at above below
    omega
  unsaved := fun _ _ => rfl
  marked := fun _ _ => .inl rfl

theorem counted_tick {localSlot : Int} {fight : Fight (Bool × Nat)}
    (counted : Counted fight) (localInput : UInt16)
    (steady : fight.engine.rollbackNeedsResim = false) :
    Counted (step tickCounter localSlot fight (.tick localInput)) := by
  have unmarked := Engine.steady_iff_unmarked.mp steady
  have ticked := counted.ticked
  have base := baseFrame_tick tickCounter localSlot ticked localInput
  constructor
  · exact counted.initial
  · simp [step, fightTick_of_steady steady, Simulation.tickPlaced, tickCounter,
      counted.sim]
  · simpa [step] using ticked
  · intro frame above below window
    rw [base] at above ⊢
    simp only [step, fightTick_of_steady steady] at below window ⊢
    by_cases last : frame = fight.currentFrame + 1
    · subst last
      simp only [Engine.rollbackSave_get_self, Simulation.tickPlaced,
        tickCounter, counted.sim, Prod.mk.injEq, true_and]
      simp only [baseFrame] at above ⊢
      omega
    · rw [Engine.rollbackSave_get_of_near _ (by omega) (by omega) (by omega)]
      exact counted.saved frame above (by omega) (by omega)
  · intro empty
    simp [step] at empty
  · intro frame isMarked
    simp [step, fightTick_of_steady steady, unmarked] at isMarked

theorem counted_confirm {localSlot : Int} {fight : Fight (Bool × Nat)}
    (counted : Counted fight) {frame : Nat} {input : UInt16}
    (legal : fight.Legal (.confirm frame input)) :
    Counted (step tickCounter localSlot fight (.confirm frame input)) := by
  obtain ⟨above, below, window, _⟩ := legal
  constructor
  · exact counted.initial
  · exact counted.sim
  · exact counted.ticked
  · intro other
    simpa [step, baseFrame] using counted.saved other
  · intro empty other
    simpa [step] using counted.unsaved empty other
  · intro other isMarked
    have inFight : fight.baseFrame < frame ∧ frame ≤ fight.currentFrame ∧
        fight.currentFrame < frame + fcRollbackFrames :=
      ⟨above, below, window⟩
    simp only [step, Engine.rollbackConfirmRemote] at isMarked
    split at isMarked
    · cases marked : fight.engine.divergeFrame with
      | none =>
          simp only [marked, Engine.markDivergence, Option.some.injEq]
            at isMarked
          subst isMarked
          exact .inr inFight
      | some earlier =>
          simp only [marked, Engine.markDivergence] at isMarked
          split at isMarked
          · cases isMarked
            exact .inr inFight
          · cases isMarked
            exact counted.marked _ marked
    · exact counted.marked _ isMarked

/-- A rewind repeats the tick of the diverging frame, or restores a snapshot
that an earlier fight left. -/
theorem counted_rewind_wrong {localSlot : Int} {fight : Fight (Bool × Nat)}
    (counted : Counted fight) (localInput : UInt16)
    (pending : fight.engine.rollbackNeedsResim = true) :
    (step tickCounter localSlot fight (.tick localInput)).engine.sim ≠
      (step tickCounter localSlot fight (.tick localInput)).replay
        tickCounter localSlot := by
  obtain ⟨diverge, marked⟩ := Option.isSome_iff_exists.mp pending
  have ticked := counted.ticked
  have resumed :
      (step tickCounter localSlot fight (.tick localInput)).engine.sim =
        ((fight.engine.buf.get diverge).snapshot.1,
          (fight.engine.buf.get diverge).snapshot.2 +
            (fight.currentFrame + 1 - diverge) + 1) := by
    simp only [step, fightTick, pending, if_true, Engine.rollbackSave_sim,
      Engine.simulationTick_sim, Engine.rollbackRewindAndResim, marked,
      resimulate_tickCounter]
    rfl
  have replayed :
      (step tickCounter localSlot fight (.tick localInput)).replay
        tickCounter localSlot = (true, fight.played.length + 1) := by
    simp only [replay, replayFrom_tickCounter, step, counted.initial,
      List.length_append, List.length_singleton, Nat.zero_add]
  rw [resumed, replayed]
  rcases counted.marked diverge marked with empty | ⟨above, below, window⟩
  · simp [counted.unsaved empty diverge]
  · rw [counted.saved diverge above below window]
    simp only [baseFrame, ne_eq, Prod.mk.injEq, true_and] at above ⊢
    omega

/-- Every rewind of a fight ends in the replay of its ticks, whatever the
simulation, exactly when no tick of the fight finds a divergence pending. -/
theorem resim_equals_replay_iff_steady (localSlot : Int) (currentFrame : Nat)
    (inputs : Engine Unit) (events : List FightEvent)
    (legal : (step .unit localSlot).Along Legal (start currentFrame inputs)
      events) :
    (∀ (S : Type) (simulation : Simulation S) (initial : S)
        (snapshots : Fin fcRollbackFrames → S),
      (step simulation localSlot).Along
        (ResimEqualsReplay simulation localSlot)
        (start currentFrame (inputs.withStates initial snapshots)) events) ↔
      (step .unit localSlot).Along Steady (start currentFrame inputs)
        events := by
  constructor
  · intro right
    have counting := right _ tickCounter (true, 0) fun _ => (false, 0)
    have forgotten : start currentFrame inputs =
        (start currentFrame
          (inputs.withStates (true, 0) fun _ => (false, 0))).forget := rfl
    rw [forgotten] at legal ⊢
    refine (along_steady_forget tickCounter).mpr ?_
    refine (Machine.along_iff_along Counted ?_ ?_ ?_
      (counted_start currentFrame inputs)
      ((along_legal_forget tickCounter).mp legal)).mp counting
    · intro fight event counted legal steady
      cases event with
      | tick localInput => exact counted_tick counted localInput steady
      | confirm frame input => exact counted_confirm counted legal
    · intro fight event _ _ steady
      cases event with
      | tick localInput =>
          intro pending
          exact absurd (steady.symm.trans pending) Bool.false_ne_true
      | confirm frame input => trivial
    · intro fight event counted _ unsteady
      cases event with
      | tick localInput =>
          have pending : fight.engine.rollbackNeedsResim = true := by
            simpa [Steady] using unsteady
          intro right
          exact counted_rewind_wrong counted localInput pending (right pending)
      | confirm frame input => exact absurd trivial unsteady
  · intro steady S simulation initial snapshots
    have forgotten : start currentFrame inputs =
        (start currentFrame (inputs.withStates initial snapshots)).forget :=
      rfl
    rw [forgotten] at steady
    refine ((along_steady_forget simulation).mp steady).mono ?_
    intro fight event steady
    cases event with
    | tick localInput =>
        intro pending
        exact absurd (steady.symm.trans pending) Bool.false_ne_true
    | confirm frame input => trivial

theorem resim_equals_replay_iff_steady_two_ticks :
    (step tickCounter 0).Along (ResimEqualsReplay tickCounter 0)
      (start 0 ((Engine.fresh .unit ()).withStates (true, 0)
        fun _ => (false, 0)))
      [.tick 1, .confirm 1 0, .tick 2] :=
  (resim_equals_replay_iff_steady 0 0 (Engine.fresh .unit ())
    [.tick 1, .confirm 1 0, .tick 2] (by decide)).mpr (by decide) _ _ _ _

/-- The opponent holds a direction (`5`) on the first fight frame and its input
arrives one tick late: the second tick ends in three ticks instead of two. -/
theorem resim_not_replay_late_input :
    let fight := start 0 (Engine.fresh tickCounter (tickCounter.init 0 1 0 0))
    let events := [.tick 0, .confirm 1 5, .tick 0]
    (step tickCounter 0).Along Legal fight events ∧
      ¬ (step tickCounter 0).Along (ResimEqualsReplay tickCounter 0) fight
        events := by
  refine ⟨by decide, ?_⟩
  intro right
  have last := right.2.2.1 rfl
  exact absurd last (by decide)

end Fight

end FuryClash.Client
