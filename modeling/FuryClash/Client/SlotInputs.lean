import FuryClash.Client.FightLoop

namespace FuryClash.Client

open FuryClash.Data

variable {S : Type}

/-! What a tick leaves of the remote inputs in the ring: all of them. It stores
no prediction, and takes the confirmation from the slot of its own frame. -/

namespace Engine

theorem resimulate_unit (frame count : Nat) (engine : Engine Unit) :
    resimulate .unit frame count engine = engine := by
  induction count generalizing frame with
  | zero => rfl
  | succ count ih =>
      have kept := engine.buf.set_get frame
      rw [resimulate]
      change resimulate .unit (frame + 1) count
        { engine with
          buf := engine.buf.set frame (engine.buf.get frame) } = engine
      rw [kept]
      exact ih (frame + 1)

/-- A rewind changes nothing but the simulation states and the mark. -/
theorem rewind_forget (simulation : Simulation S) (currentFrame : Nat)
    (engine : Engine S) :
    (engine.rollbackRewindAndResim simulation currentFrame).forget =
      { engine.forget with divergeFrame := none } := by
  rw [forget_rollbackRewindAndResim, rollbackRewindAndResim]
  split
  next unmarked => rw [← unmarked]
  next diverge marked => rw [resimulate_unit]

theorem rewind_get (simulation : Simulation S) (currentFrame frame : Nat)
    (engine : Engine S) :
    let entry := (engine.rollbackRewindAndResim simulation
      currentFrame).buf.get frame
    entry.remoteInput = (engine.buf.get frame).remoteInput ∧
      entry.remoteConfirmed = (engine.buf.get frame).remoteConfirmed := by
  have same := rewind_forget simulation currentFrame engine
  exact ⟨congrArg (fun engine : Engine Unit =>
      (engine.buf.get frame).remoteInput) same,
    congrArg (fun engine : Engine Unit =>
      (engine.buf.get frame).remoteConfirmed) same⟩

def SameSlot (frame other : Nat) : Prop :=
  Fin.ofNat fcRollbackFrames frame = Fin.ofNat fcRollbackFrames other

instance (frame other : Nat) : Decidable (SameSlot frame other) :=
  inferInstanceAs (Decidable (_ = _))

theorem SameSlot.refl (frame : Nat) : SameSlot frame frame := rfl

theorem SameSlot.symm {frame other : Nat} (same : SameSlot frame other) :
    SameSlot other frame := Eq.symm same

theorem SameSlot.trans {first second third : Nat}
    (same : SameSlot first second) (same' : SameSlot second third) :
    SameSlot first third := Eq.trans same same'

theorem sameSlot_add (frame : Nat) :
    SameSlot (frame + fcRollbackFrames) frame :=
  Fin.ext (Nat.add_mod_right frame fcRollbackFrames)

theorem get_set_slot (buf : Ring fcRollbackFrames (FrameEntry S))
    (frame other : Nat) (entry : FrameEntry S) :
    (buf.set frame entry).get other =
      if SameSlot other frame then entry else buf.get other :=
  Ring.get_set ..

theorem get_of_sameSlot {frame other : Nat} (same : SameSlot frame other)
    (engine : Engine S) : engine.buf.get frame = engine.buf.get other :=
  congrArg engine.buf.cells same

theorem rollbackSave_get (frame other : Nat) (engine : Engine S) :
    let entry := (engine.rollbackSave frame).buf.get other
    entry.remoteInput = (engine.buf.get other).remoteInput ∧
      entry.remoteConfirmed =
        if SameSlot other frame then false
        else (engine.buf.get other).remoteConfirmed := by
  rw [rollbackSave]
  dsimp only
  rw [get_set_slot]
  by_cases same : SameSlot other frame
  · rw [if_pos same, if_pos same, get_of_sameSlot same]
    exact ⟨rfl, rfl⟩
  · rw [if_neg same, if_neg same]
    exact ⟨rfl, rfl⟩

theorem rollbackConfirmRemote_get (frame other : Nat) (input : UInt16)
    (engine : Engine S) :
    let entry := (engine.rollbackConfirmRemote frame input).buf.get other
    entry.remoteInput =
        (if SameSlot other frame then input
          else (engine.buf.get other).remoteInput) ∧
      entry.remoteConfirmed =
        if SameSlot other frame then true
        else (engine.buf.get other).remoteConfirmed := by
  rw [rollbackConfirmRemote]
  dsimp only
  rw [get_set_slot]
  by_cases same : SameSlot other frame
  · rw [if_pos same, if_pos same, if_pos same]
    exact ⟨rfl, rfl⟩
  · rw [if_neg same, if_neg same, if_neg same]
    exact ⟨rfl, rfl⟩

theorem not_sameSlot {frame other : Nat} (apart : frame ≠ other)
    (below : frame < other + fcRollbackFrames)
    (above : other < frame + fcRollbackFrames) : ¬ SameSlot frame other :=
  fun same => apart (Ring.eq_of_sameCell below above same)

end Engine

open Engine

theorem fightTick_divergeFrame (simulation : Simulation S) (localSlot : Int)
    (currentFrame : Nat) (localInput : UInt16) (engine : Engine S) :
    (fightTick simulation localSlot currentFrame localInput
      engine).divergeFrame = none := by
  cases pending : engine.rollbackNeedsResim with
  | false =>
      rw [fightTick_of_steady pending]
      exact steady_iff_unmarked.mp pending
  | true =>
      have rewound := congrArg Engine.divergeFrame
        (rewind_forget simulation currentFrame engine)
      rw [fightTick, pending]
      exact rewound

theorem fightTick_get (simulation : Simulation S) (localSlot : Int)
    (currentFrame frame : Nat) (localInput : UInt16) (engine : Engine S) :
    let entry := (fightTick simulation localSlot currentFrame localInput
      engine).buf.get frame
    entry.remoteInput = (engine.buf.get frame).remoteInput ∧
      entry.remoteConfirmed =
        if SameSlot frame currentFrame then false
        else (engine.buf.get frame).remoteConfirmed := by
  cases pending : engine.rollbackNeedsResim with
  | false =>
      rw [fightTick_of_steady pending]
      exact rollbackSave_get currentFrame frame _
  | true =>
      obtain ⟨input, confirmed⟩ :=
        rewind_get simulation currentFrame frame engine
      rw [fightTick, pending, ← input, ← confirmed]
      exact rollbackSave_get currentFrame frame _

end FuryClash.Client
