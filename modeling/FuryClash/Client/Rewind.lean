import FuryClash.Client.RingIndex

namespace FuryClash.Client

open FuryClash.Data

variable {S : Type}

/-! What a rewind restores: nothing but the index ties a frame to a cell of the
ring. -/

theorem eq_of_ringIndex {first second : Int} (positive : 0 ≤ first)
    (positive' : 0 ≤ second) (below : first < second + fcRollbackFrames)
    (above : second < first + fcRollbackFrames)
    (same : ringIndex first = ringIndex second) : first = second := by
  rw [ringIndex, ringIndex, Int.tmod_eq_emod_of_nonneg positive,
    Int.tmod_eq_emod_of_nonneg positive'] at same
  change first % (128 : Int) = second % 128 at same
  change first < second + (128 : Int) at below
  change second < first + (128 : Int) at above
  omega

namespace SignedEngine

variable {engine : SignedEngine S}

theorem noteSaved_self (frame : Int) (engine : SignedEngine S) :
    (engine.noteSaved frame).saved (ringIndex frame) = some frame :=
  Function.update_self ..

theorem noteSaved_other {frame : Int} {index : Int} (engine : SignedEngine S)
    (apart : index ≠ ringIndex frame) :
    (engine.noteSaved frame).saved index = engine.saved index :=
  Function.update_of_ne apart ..

theorem noteSaved_cases {frame index other : Int}
    (saved : (engine.noteSaved frame).saved index = some other) :
    other = frame ∨ engine.saved index = some other := by
  by_cases same : index = ringIndex frame
  · subst same
    rw [noteSaved_self] at saved
    exact .inl (Option.some.inj saved).symm
  · rw [noteSaved_other engine same] at saved
    exact .inr saved

/-- A cell of its own keeps its frame, unless a frame that shares the cell is
simulated again. -/
theorem resimulate_saved (simulation : Simulation S) {frame other : Int}
    {count : Nat} (saved : engine.saved (ringIndex other) = some other)
    (alone : ∀ again, frame ≤ again → again < frame + count →
      ringIndex again = ringIndex other → again = other) :
    (resimulate simulation frame count engine).saved (ringIndex other) =
      some other := by
  induction count generalizing frame engine with
  | zero => exact saved
  | succ count ih =>
      rw [resimulate]
      apply ih
      · by_cases same : ringIndex frame = ringIndex other
        · have isFrame := alone frame (Int.le_refl _) (by omega) same
          subst isFrame
          exact noteSaved_self ..
        · rw [noteSaved_other _ (Ne.symm same)]
          exact saved
      · intro again first last
        exact alone again (by omega) (by omega)

theorem resimulate_saved_cases (simulation : Simulation S)
    {frame index other : Int} {count : Nat}
    (saved : (resimulate simulation frame count engine).saved index =
      some other) :
    frame ≤ other ∨ engine.saved index = some other := by
  induction count generalizing frame engine with
  | zero => exact .inr saved
  | succ count ih =>
      rw [resimulate] at saved
      rcases ih saved with later | before
      · exact .inl (by omega)
      · rcases noteSaved_cases before with rfl | before
        · exact .inl (Int.le_refl _)
        · exact .inr before

theorem rollbackGetRemote_saved (frame : Int) (engine : SignedEngine S) :
    (engine.rollbackGetRemote frame).2.saved = engine.saved ∧
      (engine.rollbackGetRemote frame).2.divergeFrame =
        engine.divergeFrame := by
  rw [rollbackGetRemote]
  dsimp only
  split
  next => exact ⟨rfl, rfl⟩
  next =>
    split
    next => exact ⟨rfl, rfl⟩
    next => exact ⟨rfl, rfl⟩

theorem rollbackConfirmRemote_saved (frame : Int) (input : UInt16)
    (engine : SignedEngine S) :
    (engine.rollbackConfirmRemote frame input).saved = engine.saved := by
  rw [rollbackConfirmRemote]
  dsimp only [setEntry]
  split
  next =>
    split
    next => rfl
    next => rfl
  next => rfl

/-- The snapshots behind the rewind of a tick, and before its own save. -/
def rewound (simulation : Simulation S) (currentFrame : Int)
    (engine : SignedEngine S) : SignedEngine S :=
  let engine := (engine.rollbackGetRemote currentFrame).2
  if engine.rollbackNeedsResim then
    engine.rollbackRewindAndResim simulation currentFrame
  else engine

theorem fightTick_saved (simulation : Simulation S) (localSlot : Int)
    (currentFrame : Int) (localInput : UInt16) (engine : SignedEngine S) :
    (fightTick simulation localSlot currentFrame localInput engine).saved =
      Function.update (engine.rewound simulation currentFrame).saved
        (ringIndex currentFrame) (some currentFrame) := rfl

theorem fightTick_divergeFrame (simulation : Simulation S) (localSlot : Int)
    (currentFrame : Int) (localInput : UInt16) (engine : SignedEngine S) :
    (fightTick simulation localSlot currentFrame localInput
      engine).divergeFrame < 0 := by
  change (engine.rewound simulation currentFrame).divergeFrame < 0
  rw [rewound, rollbackNeedsResim, rollbackRewindAndResim]
  dsimp only
  split
  next marked =>
    rw [decide_eq_true_eq] at marked
    rw [if_neg (by omega)]
    change (-1 : Int) < 0
    decide
  next unmarked =>
    rw [decide_eq_true_eq] at unmarked
    omega

theorem rewound_saved (simulation : Simulation S) {currentFrame other : Int}
    (saved : engine.saved (ringIndex other) = some other)
    (alone : ∀ again, 0 ≤ engine.divergeFrame →
      engine.divergeFrame ≤ again → again < currentFrame →
      ringIndex again = ringIndex other → again = other) :
    (engine.rewound simulation currentFrame).saved (ringIndex other) =
      some other := by
  obtain ⟨sameSaved, sameMark⟩ :=
    rollbackGetRemote_saved currentFrame engine
  rw [← sameSaved] at saved
  rw [← sameMark] at alone
  rw [rewound]
  generalize (engine.rollbackGetRemote currentFrame).2 = engine at *
  split
  next needs =>
    rw [rollbackNeedsResim, decide_eq_true_eq] at needs
    rw [rollbackRewindAndResim, if_neg (by omega)]
    refine resimulate_saved simulation (by exact saved) ?_
    intro again first last
    exact alone again needs first (by omega)
  next => exact saved

theorem rewound_saved_cases (simulation : Simulation S)
    {currentFrame index other : Int}
    (saved : (engine.rewound simulation currentFrame).saved index =
      some other) :
    0 ≤ engine.divergeFrame ∧ engine.divergeFrame ≤ other ∨
      engine.saved index = some other := by
  obtain ⟨sameSaved, sameMark⟩ :=
    rollbackGetRemote_saved currentFrame engine
  rw [← sameSaved, ← sameMark]
  rw [rewound] at saved
  generalize (engine.rollbackGetRemote currentFrame).2 = engine at *
  split at saved
  next needs =>
    rw [rollbackNeedsResim, decide_eq_true_eq] at needs
    rw [rollbackRewindAndResim, if_neg (by omega)] at saved
    rcases resimulate_saved_cases simulation saved with later | before
    · exact .inl ⟨needs, later⟩
    · exact .inr before
  next => exact .inr saved

end SignedEngine

namespace SignedFight

def InWindow (fight : SignedFight S) (frame : Int) : Prop :=
  fight.baseFrame < frame ∧ frame ≤ fight.currentFrame ∧
    fight.currentFrame < frame + fcRollbackFrames

instance (fight : SignedFight S) (frame : Int) :
    Decidable (fight.InWindow frame) :=
  inferInstanceAs (Decidable (_ ∧ _))

/-- The snapshot that a tick goes back to was saved in this fight for the
frame that is marked, which lies before the tick's own and in the ring. -/
def RewindsRight (fight : SignedFight S) : SignedEvent → Prop
  | .tick _ =>
      let diverge := fight.engine.divergeFrame
      let currentFrame : Int := fight.currentFrame + 1
      0 ≤ diverge →
        fight.engine.saved (ringIndex diverge) = some diverge ∧
          currentFrame - fcRollbackFrames ≤ diverge ∧ diverge < currentFrame
  | .confirm _ _ => True

instance (fight : SignedFight S) : (event : SignedEvent) →
    Decidable (fight.RewindsRight event)
  | .tick _ => inferInstanceAs (Decidable (_ → _))
  | .confirm _ _ => isTrue trivial

/-- A number that is confirmed leads into the array, and if it is marked and
will be gone back to, then it is one of this fight's last frames. -/
def MarksInWindow (fight : SignedFight S) : SignedEvent → Prop
  | .tick _ => True
  | .confirm frame input =>
      InArray (ringIndex frame) ∧
        (0 ≤ frame → fight.engine.Diverges frame input →
          fight.engine.divergeFrame < 0 ∨
            frame < fight.engine.divergeFrame →
          fight.InWindow frame)

instance (fight : SignedFight S) : (event : SignedEvent) →
    Decidable (fight.MarksInWindow event)
  | .tick _ => isTrue trivial
  | .confirm _ _ => inferInstanceAs (Decidable (_ ∧ _))

/-- The snapshots of this fight are those of its last frames. -/
structure Tracked (fight : SignedFight S) : Prop where
  begun : fight.baseFrame ≤ fight.currentFrame
  kept : ∀ frame, fight.InWindow frame →
    fight.engine.saved (ringIndex frame) = some frame
  fresh : ∀ index frame, fight.engine.saved index = some frame →
    fight.baseFrame < frame

variable {fight : SignedFight S}

theorem rewindsRight_tick_iff (tracked : fight.Tracked)
    (localInput : UInt16) :
    fight.RewindsRight (.tick localInput) ↔
      (0 ≤ fight.engine.divergeFrame →
        fight.InWindow fight.engine.divergeFrame) := by
  rw [RewindsRight]
  refine imp_congr_right fun _ => ⟨?_, fun inWindow => ?_⟩
  · rintro ⟨saved, inRing, before⟩
    exact ⟨tracked.fresh _ _ saved, by omega, by omega⟩
  · obtain ⟨_, simulated, recent⟩ := id inWindow
    exact ⟨tracked.kept _ inWindow, by omega, by omega⟩

variable (simulation : Simulation S) (localSlot : Int)

theorem tick_tracked (tracked : fight.Tracked)
    (inWindow : 0 ≤ fight.engine.divergeFrame →
      fight.InWindow fight.engine.divergeFrame)
    (localInput : UInt16) :
    (step simulation localSlot fight (.tick localInput)).Tracked where
  begun := Nat.le_add_right_of_le tracked.begun
  kept := by
    rintro frame ⟨ofFight, simulated, recent⟩
    have next : (step simulation localSlot fight
        (.tick localInput)).currentFrame = fight.currentFrame + 1 := rfl
    rw [next] at simulated recent
    rw [step]
    dsimp only at ofFight ⊢
    rw [SignedEngine.fightTick_saved]
    by_cases isNew : frame = (fight.currentFrame + 1 : Nat)
    · rw [isNew]
      exact Function.update_self ..
    · have apart : ringIndex frame ≠
          ringIndex (fight.currentFrame + 1 : Nat) := by
        intro same
        exact isNew (eq_of_ringIndex (by omega) (by omega) (by omega)
          (by omega) same)
      rw [Function.update_of_ne apart]
      refine SignedEngine.rewound_saved simulation
        (tracked.kept frame ⟨ofFight, by omega, by omega⟩) ?_
      intro again marked first last same
      obtain ⟨ofFight', _, recent'⟩ := inWindow marked
      exact eq_of_ringIndex (by omega) (by omega) (by omega) (by omega) same
  fresh := by
    intro index frame saved
    rw [step] at saved
    dsimp only at saved
    rw [SignedEngine.fightTick_saved] at saved
    by_cases same : index = ringIndex (fight.currentFrame + 1 : Nat)
    · subst same
      rw [Function.update_self] at saved
      cases saved
      have begun := tracked.begun
      change (fight.baseFrame : Int) < (fight.currentFrame + 1 : Nat)
      omega
    · rw [Function.update_of_ne same] at saved
      rcases SignedEngine.rewound_saved_cases simulation saved with
        ⟨marked, later⟩ | before
      · exact Int.lt_of_lt_of_le (inWindow marked).1 later
      · exact tracked.fresh index frame before

theorem confirm_tracked (tracked : fight.Tracked) (frame : Int)
    (input : UInt16) :
    (step simulation localSlot fight (.confirm frame input)).Tracked := by
  have same := SignedEngine.rollbackConfirmRemote_saved frame input
    fight.engine
  refine ⟨tracked.begun, ?_, ?_⟩
  · intro other inWindow
    rw [step]
    dsimp only
    rw [same]
    exact tracked.kept other inWindow
  · intro index other saved
    rw [step] at saved
    dsimp only at saved
    rw [same] at saved
    exact tracked.fresh index other saved

theorem confirm_divergeFrame (frame : Int) (input : UInt16)
    (engine : SignedEngine S) :
    (engine.rollbackConfirmRemote frame input).divergeFrame =
      if engine.Diverges frame input ∧
          (engine.divergeFrame < 0 ∨ frame < engine.divergeFrame) then frame
      else engine.divergeFrame := by
  have diverges : (engine.form frame).Diverges frame input ↔
      engine.Diverges frame input := Iff.rfl
  rw [SignedEngine.rollbackConfirmRemote]
  dsimp only [SignedEngine.setEntry]
  by_cases marks : engine.Diverges frame input
  · rw [if_pos (diverges.mpr marks)]
    have formed : (engine.form frame).divergeFrame < 0 ∨
          frame < (engine.form frame).divergeFrame ↔
        engine.divergeFrame < 0 ∨ frame < engine.divergeFrame := Iff.rfl
    by_cases earlier :
        engine.divergeFrame < 0 ∨ frame < engine.divergeFrame
    · rw [if_pos (formed.mpr earlier), if_pos ⟨marks, earlier⟩]
    · rw [if_neg (formed.not.mpr earlier), if_neg fun both => earlier both.2]
      rfl
  · rw [if_neg (diverges.not.mpr marks), if_neg fun both => marks both.1]
    rfl

theorem start_tracked (currentFrame : Nat) (engine : SignedEngine S) :
    (start currentFrame engine).Tracked where
  begun := Nat.le_refl _
  kept := by
    rintro frame ⟨ofFight, simulated, _⟩
    change (currentFrame : Int) < frame at ofFight
    change frame ≤ (currentFrame : Int) at simulated
    omega
  fresh index frame saved := by cases saved

/-- Tracked, and the mark is one that a rewind can go back to. -/
def Rewindable (fight : SignedFight S) : Prop :=
  fight.Tracked ∧ (0 ≤ fight.engine.divergeFrame →
    fight.InWindow fight.engine.divergeFrame)

theorem step_rewindable (rewindable : fight.Rewindable) (event : SignedEvent)
    (marks : fight.MarksInWindow event) :
    (step simulation localSlot fight event).Rewindable := by
  obtain ⟨tracked, inWindow⟩ := rewindable
  cases event with
  | tick localInput =>
      refine ⟨tick_tracked simulation localSlot tracked inWindow localInput,
        fun marked => ?_⟩
      have unmarked := SignedEngine.fightTick_divergeFrame simulation
        localSlot (fight.currentFrame + 1 : Nat) localInput fight.engine
      exact absurd marked (Int.not_le.mpr unmarked)
  | confirm frame input =>
      refine ⟨confirm_tracked simulation localSlot tracked frame input, ?_⟩
      rw [step]
      dsimp only
      rw [confirm_divergeFrame]
      split
      next both => exact fun positive => marks.2 positive both.1 both.2
      next => exact inWindow

theorem rewindsRight_of_marksInWindow (currentFrame : Nat)
    {engine : SignedEngine S} (unmarked : engine.divergeFrame < 0)
    {events : List SignedEvent}
    (marks : (step simulation localSlot).Along MarksInWindow
      (start currentFrame engine) events) :
    (step simulation localSlot).Along RewindsRight
      (start currentFrame engine) events := by
  have begins : (start currentFrame engine).Rewindable :=
    ⟨start_tracked currentFrame engine,
      fun marked => absurd marked (Int.not_le.mpr unmarked)⟩
  refine marks.along Rewindable
    (fun _ event rewindable => step_rewindable simulation localSlot
      rewindable event) ?_ begins
  intro fight event rewindable _
  cases event with
  | tick localInput =>
      exact (rewindsRight_tick_iff rewindable.1 localInput).mpr rewindable.2
  | confirm frame input => trivial

/-- A frame that is marked out of the window, with no tick and no smaller
frame behind it, is gone back to wrongly. -/
theorem not_rewindsRight_of_marked (tracked : fight.Tracked) {frame : Int}
    {input : UInt16} (positive : 0 ≤ frame)
    (diverges : fight.engine.Diverges frame input)
    (earlier : fight.engine.divergeFrame < 0 ∨
      frame < fight.engine.divergeFrame)
    (outside : ¬ fight.InWindow frame) (localInput : UInt16) :
    ¬ (step simulation localSlot fight (.confirm frame input)).RewindsRight
      (.tick localInput) := by
  have marked : (step simulation localSlot fight
      (.confirm frame input)).engine.divergeFrame = frame := by
    rw [step]
    dsimp only
    rw [confirm_divergeFrame, if_pos ⟨diverges, earlier⟩]
  rw [rewindsRight_tick_iff
    (confirm_tracked simulation localSlot tracked frame input), marked]
  exact fun inWindow => outside (inWindow positive)

def oneAhead : List SignedEvent := [.tick 0, .confirm 2 1, .tick 0]

def oneLate : List SignedEvent := [.tick 0, .confirm 1 1, .tick 0]

theorem rewindsRight_of_marksInWindow_oneLate :
    (step .unit 0).Along RewindsRight (start 0 (.fresh .unit ())) oneLate :=
  rewindsRight_of_marksInWindow .unit 0 0 (by decide) (by decide)

theorem oneAhead_not_rewindsRight :
    ¬ (step .unit 0).Along RewindsRight (start 0 (.fresh .unit ()))
      oneAhead := by
  decide

end SignedFight

end FuryClash.Client
