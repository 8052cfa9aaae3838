import FuryClash.Data.Ring

namespace FuryClash.Client

open FuryClash.Data

/-! The rollback engine of `network/rollback.c` over an arbitrary deterministic
simulation. The static globals `g_buf`, `g_diverge_frame` (`-1` is `none`) and
the `g_sim` of `gameplay/simulation.c` are the fields of `Engine`. -/

abbrev fcRollbackFrames : Nat := 128

instance : NeZero fcRollbackFrames := ⟨by decide⟩

/-- `memset` zero, `simulation_init` and `simulation_tick`, for a type of
simulation states. -/
structure Simulation (S : Type) where
  zero : S
  init : (p1FighterId p2FighterId p1Loadout p2Loadout : Int) → S
  tick : (p1Input p2Input : UInt16) → S → S

/-- The simulation with one state, for what no simulation state decides. -/
def Simulation.unit : Simulation Unit :=
  ⟨(), fun _ _ _ _ => (), fun _ _ _ => ()⟩

structure FrameEntry (S : Type) where
  snapshot : S
  localInput : UInt16
  remoteInput : UInt16
  remoteConfirmed : Bool
  deriving DecidableEq

structure Engine (S : Type) where
  sim : S
  buf : Ring fcRollbackFrames (FrameEntry S)
  divergeFrame : Option Nat

namespace Engine

variable {S : Type}

instance [DecidableEq S] : DecidableEq (Engine S) := fun left right =>
  decidable_of_iff (left.sim = right.sim ∧ left.buf = right.buf ∧
      left.divergeFrame = right.divergeFrame) <| by
    cases left
    cases right
    exact Engine.mk.injEq .. ▸ Iff.rfl

def rollbackInit (simulation : Simulation S) (engine : Engine S) : Engine S :=
  { engine with
    buf := ⟨fun _ => ⟨simulation.zero, 0, 0, false⟩⟩
    divergeFrame := none }

/-- The engine after the `rollback_init` of `main`, with a given `g_sim`. -/
def fresh (simulation : Simulation S) (sim : S) : Engine S :=
  rollbackInit simulation ⟨sim, ⟨fun _ => ⟨simulation.zero, 0, 0, false⟩⟩, none⟩

def rollbackSave (frame : Nat) (engine : Engine S) : Engine S :=
  { engine with
    buf := engine.buf.set frame
      { engine.buf.get frame with
        snapshot := engine.sim
        localInput := 0
        remoteConfirmed := false } }

def rollbackGetRemote (frame : Nat) (engine : Engine S) : UInt16 :=
  let entry := engine.buf.get frame
  if entry.remoteConfirmed then entry.remoteInput
  else
    match frame with
    | 0 => 0
    | prev + 1 => (engine.buf.get prev).remoteInput

def Diverges (frame : Nat) (input : UInt16) (engine : Engine S) : Prop :=
  (engine.buf.get frame).remoteConfirmed = false ∧
    (engine.buf.get frame).remoteInput ≠ input

instance (frame : Nat) (input : UInt16) (engine : Engine S) :
    Decidable (engine.Diverges frame input) :=
  inferInstanceAs (Decidable (_ ∧ _))

def markDivergence (frame : Nat) : Option Nat → Option Nat
  | none => some frame
  | some marked => if frame < marked then some frame else some marked

def rollbackConfirmRemote (frame : Nat) (input : UInt16)
    (engine : Engine S) : Engine S :=
  { engine with
    buf := engine.buf.set frame
      { engine.buf.get frame with
        remoteInput := input
        remoteConfirmed := true }
    divergeFrame :=
      if engine.Diverges frame input then
        markDivergence frame engine.divergeFrame
      else engine.divergeFrame }

def rollbackNeedsResim (engine : Engine S) : Bool :=
  engine.divergeFrame.isSome

def simulationTick (simulation : Simulation S) (p1Input p2Input : UInt16)
    (engine : Engine S) : Engine S :=
  { engine with sim := simulation.tick p1Input p2Input engine.sim }

/-- The loop `for (f = frame; f < frame + count; f++)` of
`rollback_rewind_and_resim`. -/
def resimulate (simulation : Simulation S) :
    (frame count : Nat) → Engine S → Engine S
  | _, 0, engine => engine
  | frame, count + 1, engine =>
      let entry := engine.buf.get frame
      let ticked := engine.simulationTick simulation
        entry.localInput entry.remoteInput
      resimulate simulation (frame + 1) count
        { ticked with
          buf := ticked.buf.set frame { entry with snapshot := ticked.sim } }

def rollbackRewindAndResim (simulation : Simulation S) (currentFrame : Nat)
    (engine : Engine S) : Engine S :=
  match engine.divergeFrame with
  | none => engine
  | some diverge =>
      { resimulate simulation diverge (currentFrame - diverge)
          { engine with sim := (engine.buf.get diverge).snapshot } with
        divergeFrame := none }

@[simp] theorem rollbackSave_sim (frame : Nat) (engine : Engine S) :
    (engine.rollbackSave frame).sim = engine.sim := rfl

@[simp] theorem rollbackSave_divergeFrame (frame : Nat) (engine : Engine S) :
    (engine.rollbackSave frame).divergeFrame = engine.divergeFrame := rfl

@[simp] theorem simulationTick_sim (simulation : Simulation S)
    (p1Input p2Input : UInt16) (engine : Engine S) :
    (engine.simulationTick simulation p1Input p2Input).sim =
      simulation.tick p1Input p2Input engine.sim := rfl

theorem steady_iff_unmarked {engine : Engine S} :
    engine.rollbackNeedsResim = false ↔ engine.divergeFrame = none :=
  Option.isSome_eq_false_iff.trans Option.isNone_iff_eq_none

theorem needsResim_of_marked {engine : Engine S} {frame : Nat}
    (marked : engine.divergeFrame = some frame) :
    engine.rollbackNeedsResim = true :=
  Option.isSome_iff_exists.mpr ⟨frame, marked⟩

theorem rollbackRewindAndResim_of_not_needsResim
    {simulation : Simulation S} {currentFrame : Nat} {engine : Engine S}
    (steady : engine.rollbackNeedsResim = false) :
    engine.rollbackRewindAndResim simulation currentFrame = engine := by
  simp [rollbackRewindAndResim, steady_iff_unmarked.mp steady]

theorem rollbackRewindAndResim_of_pending
    (simulation : Simulation S) (currentFrame : Nat) {engine : Engine S}
    {diverge : Nat} (pending : engine.divergeFrame = some diverge) :
    engine.rollbackRewindAndResim simulation currentFrame =
      { resimulate simulation diverge (currentFrame - diverge)
          { engine with sim := (engine.buf.get diverge).snapshot } with
        divergeFrame := none } := by
  rw [rollbackRewindAndResim]
  split
  next none =>
    rw [pending] at none
    cases none
  next marked found =>
    cases pending.symm.trans found
    rfl

@[simp] theorem rollbackSave_get_self (frame : Nat) (engine : Engine S) :
    (engine.rollbackSave frame).buf.get frame =
      { engine.buf.get frame with
        snapshot := engine.sim, localInput := 0, remoteConfirmed := false } :=
  Ring.get_set_self ..

theorem rollbackSave_get_of_near {frame other : Nat} (engine : Engine S)
    (ne : frame ≠ other) (below : frame < other + fcRollbackFrames)
    (above : other < frame + fcRollbackFrames) :
    (engine.rollbackSave frame).buf.get other = engine.buf.get other :=
  Ring.get_set_of_near _ _ ne below above

@[simp] theorem rollbackConfirmRemote_get_self (frame : Nat) (input : UInt16)
    (engine : Engine S) :
    (engine.rollbackConfirmRemote frame input).buf.get frame =
      { engine.buf.get frame with
        remoteInput := input, remoteConfirmed := true } :=
  Ring.get_set_self ..

theorem rollbackConfirmRemote_get_of_near {frame other : Nat} (input : UInt16)
    (engine : Engine S) (ne : frame ≠ other)
    (below : frame < other + fcRollbackFrames)
    (above : other < frame + fcRollbackFrames) :
    (engine.rollbackConfirmRemote frame input).buf.get other =
      engine.buf.get other :=
  Ring.get_set_of_near _ _ ne below above

@[simp] theorem rollbackConfirmRemote_snapshot (frame other : Nat)
    (input : UInt16) (engine : Engine S) :
    ((engine.rollbackConfirmRemote frame input).buf.get other).snapshot =
      (engine.buf.get other).snapshot := by
  simp only [rollbackConfirmRemote, Ring.get_set]
  split
  · rename_i same
    simp only [Ring.get, same]
  · rfl

/-! The input side of an engine: the inputs, the confirmations and the
divergence mark, with every simulation state forgotten. No operation lets a
simulation state decide anything about it. -/

def forget (engine : Engine S) : Engine Unit where
  sim := ()
  buf := engine.buf.map fun entry => { entry with snapshot := () }
  divergeFrame := engine.divergeFrame

def withStates (inputs : Engine Unit) (sim : S)
    (snapshots : Fin fcRollbackFrames → S) : Engine S where
  sim := sim
  buf := ⟨fun cell =>
    { inputs.buf.cells cell with snapshot := snapshots cell }⟩
  divergeFrame := inputs.divergeFrame

@[simp] theorem forget_rollbackNeedsResim (engine : Engine S) :
    engine.forget.rollbackNeedsResim = engine.rollbackNeedsResim := rfl

@[simp] theorem forget_rollbackGetRemote (frame : Nat) (engine : Engine S) :
    engine.forget.rollbackGetRemote frame = engine.rollbackGetRemote frame := by
  cases frame <;> rfl

@[simp] theorem forget_simulationTick (simulation : Simulation S)
    (p1Input p2Input : UInt16) (engine : Engine S) :
    (engine.simulationTick simulation p1Input p2Input).forget =
      engine.forget := rfl

@[simp] theorem simulationTick_unit (simulation : Simulation Unit)
    (p1Input p2Input : UInt16) (engine : Engine Unit) :
    engine.simulationTick simulation p1Input p2Input = engine := rfl

@[simp] theorem forget_rollbackSave (frame : Nat) (engine : Engine S) :
    (engine.rollbackSave frame).forget = engine.forget.rollbackSave frame := by
  simp only [forget, rollbackSave, Ring.map_set, Ring.get_map]

@[simp] theorem forget_rollbackConfirmRemote (frame : Nat) (input : UInt16)
    (engine : Engine S) :
    (engine.rollbackConfirmRemote frame input).forget =
      engine.forget.rollbackConfirmRemote frame input := by
  have mapped := Ring.map_set
    (fun entry : FrameEntry S => { entry with snapshot := () })
    engine.buf frame
    { engine.buf.get frame with remoteInput := input, remoteConfirmed := true }
  simp only [forget, rollbackConfirmRemote, mapped]
  rfl

theorem forget_resimulate (simulation : Simulation S) (frame count : Nat) (engine : Engine S) :
    (resimulate simulation frame count engine).forget =
      resimulate .unit frame count engine.forget := by
  induction count generalizing frame engine with
  | zero => rfl
  | succ count ih =>
      simp only [resimulate]
      rw [ih]
      congr 1
      simp only [forget, simulationTick, Ring.map_set, Ring.get_map]

theorem forget_rollbackRewindAndResim (simulation : Simulation S)
    (currentFrame : Nat) (engine : Engine S) :
    (engine.rollbackRewindAndResim simulation currentFrame).forget =
      engine.forget.rollbackRewindAndResim .unit currentFrame := by
  obtain ⟨sim, buf, divergeFrame⟩ := engine
  cases divergeFrame with
  | none => rfl
  | some diverge =>
      have resimulated := forget_resimulate simulation diverge
        (currentFrame - diverge)
        ⟨(buf.get diverge).snapshot, buf, some diverge⟩
      exact congrArg (fun engine : Engine Unit =>
        { engine with divergeFrame := none }) resimulated

end Engine

end FuryClash.Client
