import FuryClash.Client.Session

namespace FuryClash.Client

open FuryClash.Data

variable {S : Type}

/-! A match alone: the same match in a process that has just run
`rollback_init`. -/

structure Solo (S : Type) where
  engine : Engine S
  states : List S
  inputs : List (UInt16 × UInt16)

namespace Solo

def start (simulation : Simulation S) (log : MatchLog) : Solo S where
  engine := .fresh simulation (log.initial simulation)
  states := [log.initial simulation]
  inputs := []

def step (simulation : Simulation S) (localSlot : Int) :
    Machine (Solo S) MatchEvent
  | solo, .remote frame input =>
      { solo with engine := solo.engine.rollbackConfirmRemote frame input }
  | solo, .tick frame localInput =>
      let remote := solo.engine.rollbackGetRemote frame
      let engine := fightTick simulation localSlot frame localInput solo.engine
      { engine := engine
        states := solo.states ++ [engine.sim]
        inputs := solo.inputs ++ [placeInputs localSlot localInput remote] }

def forget (solo : Solo S) : Solo Unit where
  engine := solo.engine.forget
  states := solo.states.map fun _ => ()
  inputs := solo.inputs

end Solo

namespace MatchLog

def localSlot (log : MatchLog) : Int := log.side.getD 0

def play (simulation : Simulation S) (log : MatchLog) : Solo S :=
  (Solo.step simulation log.localSlot).run (.start simulation log) log.events

theorem play_addEvent (simulation : Simulation S) (log : MatchLog)
    (event : MatchEvent) :
    (log.addEvent event).play simulation =
      Solo.step simulation log.localSlot (log.play simulation) event := by
  rw [play, addEvent, Machine.run_append]
  rfl

theorem frames_addRemote (log : MatchLog) (frame : Nat) (input : UInt16) :
    (log.addEvent (.remote frame input)).frames = log.frames := by
  simp [frames, addEvent]

theorem frames_addTick (log : MatchLog) (frame : Nat) (localInput : UInt16) :
    (log.addEvent (.tick frame localInput)).frames = log.frames ++ [frame] := by
  simp [frames, addEvent]

theorem play_forget (simulation : Simulation S) (log : MatchLog) :
    (log.play simulation).engine.forget = (log.play .unit).engine := by
  have commutes (solo : Solo S) (event : MatchEvent) :
      (Solo.step simulation log.localSlot solo event).forget =
        Solo.step .unit log.localSlot solo.forget event := by
    cases event with
    | remote frame input =>
        simp only [Solo.step, Solo.forget, Engine.forget_rollbackConfirmRemote]
    | tick frame localInput =>
        simp only [Solo.step, Solo.forget, fightTick_forget,
          Engine.forget_rollbackGetRemote, List.map_append, List.map_cons,
          List.map_nil]
  exact congrArg Solo.engine (Machine.run_map commutes)

theorem play_of_remotes (simulation : Simulation S) (log : MatchLog)
    (early : List (Nat × UInt16))
    (remotes : log.events = early.map fun entry => .remote entry.1 entry.2) :
    (log.play simulation).engine.sim = log.initial simulation ∧
      (log.play simulation).states = [log.initial simulation] ∧
      (log.play simulation).inputs = [] ∧ log.frames = [] := by
  have untouched (entries : List (Nat × UInt16)) (solo : Solo S) :
      let after := (Solo.step simulation log.localSlot).run solo
        (entries.map fun entry => .remote entry.1 entry.2)
      after.engine.sim = solo.engine.sim ∧ after.states = solo.states ∧
        after.inputs = solo.inputs := by
    induction entries generalizing solo with
    | nil => exact ⟨rfl, rfl, rfl⟩
    | cons entry rest ih => exact ih _
  have after := untouched early (.start simulation log)
  rw [← remotes] at after
  refine ⟨after.1, after.2.1, after.2.2, ?_⟩
  rw [frames, remotes, List.filterMap_map]
  exact List.filterMap_eq_nil_iff.mpr fun _ _ => rfl

end MatchLog

namespace Engine

structure Agree (frames : List Nat) (engine other : Engine S) : Prop where
  sim : engine.sim = other.sim
  inputs : engine.forget = other.forget
  snapshots : ∀ frame ∈ frames,
    (engine.buf.get frame).snapshot = (other.buf.get frame).snapshot

variable {frames : List Nat} {engine other : Engine S}

theorem snapshots_set {ring ring' : Ring fcRollbackFrames (FrameEntry S)}
    (agree : ∀ frame ∈ frames,
      (ring.get frame).snapshot = (ring'.get frame).snapshot) (at_ : Nat)
    {entry entry' : FrameEntry S} (same : entry.snapshot = entry'.snapshot) :
    ∀ frame ∈ frames ++ [at_], ((ring.set at_ entry).get frame).snapshot =
      ((ring'.set at_ entry').get frame).snapshot := by
  intro frame mem
  rw [Ring.get_set, Ring.get_set]
  split
  next => exact same
  next apart =>
    rcases List.mem_append.mp mem with old | new
    · exact agree frame old
    · cases List.mem_singleton.mp new
      exact (apart rfl).elim

theorem Agree.localInput (agree : Agree frames engine other) (frame : Nat) :
    (engine.buf.get frame).localInput = (other.buf.get frame).localInput :=
  congrArg (fun engine : Engine Unit => (engine.buf.get frame).localInput)
    agree.inputs

theorem Agree.remoteInput (agree : Agree frames engine other) (frame : Nat) :
    (engine.buf.get frame).remoteInput = (other.buf.get frame).remoteInput :=
  congrArg (fun engine : Engine Unit => (engine.buf.get frame).remoteInput)
    agree.inputs

theorem Agree.divergeFrame (agree : Agree frames engine other) :
    engine.divergeFrame = other.divergeFrame :=
  congrArg (fun engine : Engine Unit => engine.divergeFrame) agree.inputs

theorem Agree.getRemote (agree : Agree frames engine other) (frame : Nat) :
    engine.rollbackGetRemote frame = other.rollbackGetRemote frame := by
  rw [← forget_rollbackGetRemote, agree.inputs, forget_rollbackGetRemote]

theorem Agree.confirm (agree : Agree frames engine other) (frame : Nat)
    (input : UInt16) :
    Agree frames (engine.rollbackConfirmRemote frame input)
      (other.rollbackConfirmRemote frame input) where
  sim := agree.sim
  inputs := by
    rw [forget_rollbackConfirmRemote, forget_rollbackConfirmRemote,
      agree.inputs]
  snapshots which mem := by
    rw [rollbackConfirmRemote_snapshot, rollbackConfirmRemote_snapshot]
    exact agree.snapshots which mem

theorem Agree.resimulateOne (agree : Agree frames engine other)
    (simulation : Simulation S) (frame : Nat) :
    Agree frames (Engine.resimulate simulation frame 1 engine)
      (Engine.resimulate simulation frame 1 other) := by
  have sim : simulation.tick (engine.buf.get frame).localInput
      (engine.buf.get frame).remoteInput engine.sim =
      simulation.tick (other.buf.get frame).localInput
        (other.buf.get frame).remoteInput other.sim := by
    rw [agree.localInput, agree.remoteInput, agree.sim]
  refine ⟨sim, ?_, fun which mem => ?_⟩
  · rw [forget_resimulate, forget_resimulate, agree.inputs]
  · exact snapshots_set agree.snapshots frame sim which
      (List.mem_append_left _ mem)

theorem Agree.resimulate (agree : Agree frames engine other)
    (simulation : Simulation S) (frame count : Nat) :
    Agree frames (Engine.resimulate simulation frame count engine)
      (Engine.resimulate simulation frame count other) := by
  induction count generalizing frame engine other with
  | zero => exact agree
  | succ count ih => exact ih (agree.resimulateOne simulation frame) (frame + 1)

theorem Agree.rewind (agree : Agree frames engine other)
    (simulation : Simulation S) (currentFrame : Nat)
    (saved : ∀ diverge ∈ engine.divergeFrame, ∃ frame ∈ frames,
      frame % fcRollbackFrames = diverge % fcRollbackFrames) :
    Agree frames (engine.rollbackRewindAndResim simulation currentFrame)
      (other.rollbackRewindAndResim simulation currentFrame) := by
  have same := agree.divergeFrame
  cases pending : engine.divergeFrame with
  | none =>
      have steady : engine.rollbackNeedsResim = false :=
        congrArg Option.isSome pending
      have steady' : other.rollbackNeedsResim = false :=
        congrArg Option.isSome (same.symm.trans pending)
      rw [rollbackRewindAndResim_of_not_needsResim steady,
        rollbackRewindAndResim_of_not_needsResim steady']
      exact agree
  | some diverge =>
      obtain ⟨frame, mem, cell⟩ := saved diverge pending
      have sameCell : Fin.ofNat fcRollbackFrames diverge =
          Fin.ofNat fcRollbackFrames frame := Fin.ext cell.symm
      have restored : (engine.buf.get diverge).snapshot =
          (other.buf.get diverge).snapshot := by
        rw [Ring.get, Ring.get, sameCell]
        exact agree.snapshots frame mem
      have started : Agree frames
          { engine with sim := (engine.buf.get diverge).snapshot }
          { other with sim := (other.buf.get diverge).snapshot } :=
        ⟨restored, agree.inputs, agree.snapshots⟩
      have resimulated :=
        started.resimulate simulation diverge (currentFrame - diverge)
      rw [rollbackRewindAndResim_of_pending simulation currentFrame pending,
        rollbackRewindAndResim_of_pending simulation currentFrame
          (same.symm.trans pending)]
      refine ⟨resimulated.sim, ?_, resimulated.snapshots⟩
      exact congrArg (fun engine : Engine Unit =>
        { engine with divergeFrame := none }) resimulated.inputs

theorem fightTick_eq (simulation : Simulation S) (localSlot : Int)
    (frame : Nat) (localInput : UInt16) (engine : Engine S) :
    fightTick simulation localSlot frame localInput engine =
      let inputs := placeInputs localSlot localInput
        (engine.rollbackGetRemote frame)
      rollbackSave frame
        ((engine.rollbackRewindAndResim simulation frame).simulationTick
          simulation inputs.1 inputs.2) := by
  cases needs : engine.rollbackNeedsResim with
  | true => simp [fightTick, needs]
  | false =>
      simp [fightTick, needs, rollbackRewindAndResim_of_not_needsResim needs]

theorem Agree.fightTick (agree : Agree frames engine other)
    (simulation : Simulation S) (localSlot : Int) (frame : Nat)
    (localInput : UInt16)
    (saved : ∀ diverge ∈ engine.divergeFrame, ∃ old ∈ frames,
      old % fcRollbackFrames = diverge % fcRollbackFrames) :
    Agree (frames ++ [frame])
      (Client.fightTick simulation localSlot frame localInput engine)
      (Client.fightTick simulation localSlot frame localInput other) := by
  have inputs : (Client.fightTick simulation localSlot frame localInput
      engine).forget =
      (Client.fightTick simulation localSlot frame localInput
        other).forget := by
    rw [fightTick_forget, fightTick_forget, agree.inputs]
  have rewound := agree.rewind simulation frame saved
  rw [fightTick_eq, fightTick_eq] at inputs ⊢
  have sim : simulation.tick
      (placeInputs localSlot localInput (engine.rollbackGetRemote frame)).1
      (placeInputs localSlot localInput (engine.rollbackGetRemote frame)).2
      (engine.rollbackRewindAndResim simulation frame).sim =
      simulation.tick
        (placeInputs localSlot localInput (other.rollbackGetRemote frame)).1
        (placeInputs localSlot localInput (other.rollbackGetRemote frame)).2
        (other.rollbackRewindAndResim simulation frame).sim := by
    rw [agree.getRemote, rewound.sim]
  exact ⟨sim, inputs, snapshots_set rewound.snapshots frame sim⟩

end Engine

end FuryClash.Client
