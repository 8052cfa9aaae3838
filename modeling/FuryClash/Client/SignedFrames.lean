import FuryClash.Client.FightLoop

namespace FuryClash.Client

open FuryClash.Data

variable {S : Type}

/-! The rollback engine over the frame numbers and the array indices that C
has: both are signed, and `%` truncates toward zero. -/

/-- `frame % FC_ROLLBACK_FRAMES` -/
def ringIndex (frame : Int) : Int := frame.tmod fcRollbackFrames

/-- `buf` goes on past both ends of `g_buf`: what lies there is not the
array's. `formed` and `saved` are history: the indices that were formed, and
the frame that the snapshot of a cell was saved for in this fight. -/
structure SignedEngine (S : Type) where
  sim : S
  buf : Int → FrameEntry S
  divergeFrame : Int
  formed : List Int
  saved : Int → Option Int

theorem ringIndex_natCast (frame : Nat) :
    ringIndex frame = (Fin.ofNat fcRollbackFrames frame : Nat) := by
  rw [ringIndex, Int.tmod_eq_emod_of_nonneg (Int.natCast_nonneg frame)]
  rfl

namespace SignedEngine

def entryAt (frame : Int) (engine : SignedEngine S) : FrameEntry S :=
  engine.buf (ringIndex frame)

/-- `&g_buf[frame % FC_ROLLBACK_FRAMES]` -/
def form (frame : Int) (engine : SignedEngine S) : SignedEngine S :=
  { engine with formed := ringIndex frame :: engine.formed }

def setEntry (frame : Int) (entry : FrameEntry S) (engine : SignedEngine S) :
    SignedEngine S :=
  { engine with buf := Function.update engine.buf (ringIndex frame) entry }

def noteSaved (frame : Int) (engine : SignedEngine S) : SignedEngine S :=
  { engine with
    saved := Function.update engine.saved (ringIndex frame) (some frame) }

def fresh (simulation : Simulation S) (sim : S) : SignedEngine S where
  sim := sim
  buf := fun _ => ⟨simulation.zero, 0, 0, false⟩
  divergeFrame := -1
  formed := []
  saved := fun _ => none

def rollbackSave (frame : Int) (engine : SignedEngine S) : SignedEngine S :=
  let engine := engine.form frame
  (engine.setEntry frame
    { engine.entryAt frame with
      snapshot := engine.sim
      localInput := 0
      remoteConfirmed := false }).noteSaved frame

def rollbackGetRemote (frame : Int) (engine : SignedEngine S) :
    UInt16 × SignedEngine S :=
  let engine := engine.form frame
  let entry := engine.entryAt frame
  if entry.remoteConfirmed then (entry.remoteInput, engine)
  else
    let prev := frame - 1
    if prev ≥ 0 then
      let engine := engine.form prev
      ((engine.entryAt prev).remoteInput, engine)
    else (0, engine)

def Diverges (frame : Int) (input : UInt16) (engine : SignedEngine S) : Prop :=
  (engine.entryAt frame).remoteConfirmed = false ∧
    (engine.entryAt frame).remoteInput ≠ input

instance (frame : Int) (input : UInt16) (engine : SignedEngine S) :
    Decidable (engine.Diverges frame input) :=
  inferInstanceAs (Decidable (_ ∧ _))

def rollbackConfirmRemote (frame : Int) (input : UInt16)
    (engine : SignedEngine S) : SignedEngine S :=
  let engine := engine.form frame
  let marked :=
    if engine.Diverges frame input then
      if engine.divergeFrame < 0 ∨ frame < engine.divergeFrame then
        { engine with divergeFrame := frame }
      else engine
    else engine
  marked.setEntry frame
    { engine.entryAt frame with
      remoteInput := input
      remoteConfirmed := true }

def rollbackNeedsResim (engine : SignedEngine S) : Bool :=
  decide (engine.divergeFrame ≥ 0)

def simulationTick (simulation : Simulation S) (p1Input p2Input : UInt16)
    (engine : SignedEngine S) : SignedEngine S :=
  { engine with sim := simulation.tick p1Input p2Input engine.sim }

def resimulate (simulation : Simulation S) :
    (frame : Int) → (count : Nat) → SignedEngine S → SignedEngine S
  | _, 0, engine => engine
  | frame, count + 1, engine =>
      let engine := engine.form frame
      let entry := engine.entryAt frame
      let ticked := engine.simulationTick simulation
        entry.localInput entry.remoteInput
      resimulate simulation (frame + 1) count
        ((ticked.setEntry frame
          { entry with snapshot := ticked.sim }).noteSaved frame)

def rollbackRewindAndResim (simulation : Simulation S) (currentFrame : Int)
    (engine : SignedEngine S) : SignedEngine S :=
  if engine.divergeFrame < 0 then engine
  else
    let diverge := engine.divergeFrame
    let engine := engine.form diverge
    { resimulate simulation diverge (currentFrame - diverge).toNat
        { engine with sim := (engine.entryAt diverge).snapshot } with
      divergeFrame := -1 }

def fightTick (simulation : Simulation S) (localSlot : Int)
    (currentFrame : Int) (localInput : UInt16) (engine : SignedEngine S) :
    SignedEngine S :=
  let (remote, engine) := engine.rollbackGetRemote currentFrame
  let rewound :=
    if engine.rollbackNeedsResim then
      engine.rollbackRewindAndResim simulation currentFrame
    else engine
  let inputs := placeInputs localSlot localInput remote
  (rewound.simulationTick simulation inputs.1 inputs.2).rollbackSave
    currentFrame

def engine (engine : SignedEngine S) : Engine S where
  sim := engine.sim
  buf := ⟨fun cell => engine.buf (cell : Nat)⟩
  divergeFrame :=
    if engine.divergeFrame < 0 then none else some engine.divergeFrame.toNat

@[simp] theorem engine_noteSaved (frame : Int) (engine : SignedEngine S) :
    (engine.noteSaved frame).engine = engine.engine := rfl

@[simp] theorem engine_get (frame : Nat) (engine : SignedEngine S) :
    engine.engine.buf.get frame = engine.entryAt frame := by
  rw [entryAt, ringIndex_natCast]
  rfl

theorem engine_setEntry (frame : Nat) (entry : FrameEntry S)
    (engine : SignedEngine S) :
    (engine.setEntry frame entry).engine =
      { engine.engine with buf := engine.engine.buf.set frame entry } := by
  have cells : (engine.setEntry frame entry).engine.buf =
      engine.engine.buf.set frame entry := by
    ext cell
    rw [SignedEngine.engine, Ring.set, setEntry, ringIndex_natCast]
    dsimp only
    rw [Function.update_apply, Function.update_apply]
    simp only [Nat.cast_inj, Fin.val_inj]
    rfl
  rw [← cells]
  rfl

@[simp] theorem engine_rollbackSave (frame : Nat) (engine : SignedEngine S) :
    (engine.rollbackSave frame).engine = engine.engine.rollbackSave frame := by
  rw [rollbackSave, engine_noteSaved, engine_setEntry, Engine.rollbackSave,
    engine_get]
  rfl

theorem engine_rollbackGetRemote (frame : Nat) (engine : SignedEngine S) :
    (engine.rollbackGetRemote frame).1 =
        engine.engine.rollbackGetRemote frame ∧
      (engine.rollbackGetRemote frame).2.engine = engine.engine := by
  rw [rollbackGetRemote, Engine.rollbackGetRemote.eq_def, engine_get]
  dsimp only
  by_cases confirmed : (engine.entryAt frame).remoteConfirmed = true
  · have formed : ((engine.form frame).entryAt frame).remoteConfirmed = true :=
      confirmed
    rw [if_pos confirmed, if_pos formed]
    exact ⟨rfl, rfl⟩
  · have formed :
        ¬ ((engine.form frame).entryAt frame).remoteConfirmed = true :=
      confirmed
    rw [if_neg confirmed, if_neg formed]
    cases frame with
    | zero => exact ⟨rfl, rfl⟩
    | succ prev =>
        have back : ((prev + 1 : Nat) : Int) - 1 = prev := by omega
        rw [back, if_pos (Int.natCast_nonneg prev)]
        dsimp only
        rw [engine_get]
        exact ⟨rfl, rfl⟩

theorem engine_mark (frame : Nat) (engine : SignedEngine S) :
    (if engine.divergeFrame < 0 ∨ (frame : Int) < engine.divergeFrame then
        { engine with divergeFrame := (frame : Int) }
      else engine).engine =
      { engine.engine with
        divergeFrame :=
          Engine.markDivergence frame engine.engine.divergeFrame } := by
  have positive : ¬ (frame : Int) < 0 := by omega
  rw [SignedEngine.engine, SignedEngine.engine]
  dsimp only
  by_cases unmarked : engine.divergeFrame < 0
  · rw [if_pos (.inl unmarked), if_pos unmarked, if_neg positive]
    rfl
  · by_cases earlier : (frame : Int) < engine.divergeFrame
    · have before : frame < engine.divergeFrame.toNat := by omega
      rw [if_pos (.inr earlier), if_neg unmarked, if_neg positive,
        Engine.markDivergence, if_pos before]
      rfl
    · have after : ¬ frame < engine.divergeFrame.toNat := by omega
      rw [if_neg (not_or.mpr ⟨unmarked, earlier⟩), if_neg unmarked,
        Engine.markDivergence, if_neg after]

theorem engine_rollbackConfirmRemote (frame : Nat) (input : UInt16)
    (engine : SignedEngine S) :
    (engine.rollbackConfirmRemote frame input).engine =
      engine.engine.rollbackConfirmRemote frame input := by
  have diverges : engine.engine.Diverges frame input ↔
      (engine.form frame).Diverges frame input := by
    rw [Engine.Diverges, engine_get]
    rfl
  rw [rollbackConfirmRemote, Engine.rollbackConfirmRemote, engine_get]
  dsimp only
  rw [engine_setEntry]
  by_cases marks : engine.engine.Diverges frame input
  · rw [if_pos marks, if_pos (diverges.mp marks), engine_mark]
    rfl
  · rw [if_neg marks, if_neg (diverges.not.mp marks)]
    rfl

theorem engine_resimulate (simulation : Simulation S) (frame count : Nat)
    (engine : SignedEngine S) :
    (resimulate simulation frame count engine).engine =
      Engine.resimulate simulation frame count engine.engine := by
  induction count generalizing frame engine with
  | zero => rfl
  | succ count ih =>
      have next : (frame : Int) + 1 = (frame + 1 : Nat) := by omega
      rw [resimulate, Engine.resimulate, next, ih, engine_noteSaved,
        engine_setEntry, engine_get]
      rfl

theorem engine_rollbackRewindAndResim (simulation : Simulation S)
    (currentFrame : Nat) (engine : SignedEngine S) :
    (engine.rollbackRewindAndResim simulation currentFrame).engine =
      engine.engine.rollbackRewindAndResim simulation currentFrame := by
  by_cases unmarked : engine.divergeFrame < 0
  · have none : engine.engine.divergeFrame = none := if_pos unmarked
    rw [rollbackRewindAndResim, if_pos unmarked,
      Engine.rollbackRewindAndResim_of_not_needsResim]
    rw [Engine.rollbackNeedsResim, none]
    rfl
  · have marked : engine.engine.divergeFrame =
        some engine.divergeFrame.toNat := if_neg unmarked
    obtain ⟨diverge, isDiverge⟩ :=
      Int.eq_ofNat_of_zero_le (Int.not_lt.mp unmarked)
    rw [isDiverge, Int.toNat_natCast] at marked
    have count : ((currentFrame : Int) - diverge).toNat =
        currentFrame - diverge := by omega
    have resimulated := engine_resimulate simulation diverge
      (currentFrame - diverge) { engine.form diverge with
        sim := (engine.entryAt diverge).snapshot }
    rw [Engine.rollbackRewindAndResim_of_pending simulation currentFrame
      marked, rollbackRewindAndResim, if_neg unmarked, isDiverge]
    dsimp only
    rw [count, engine_get]
    exact congrArg (fun engine : Engine S =>
      { engine with divergeFrame := none }) resimulated

theorem engine_rollbackNeedsResim (engine : SignedEngine S) :
    engine.engine.rollbackNeedsResim = engine.rollbackNeedsResim := by
  rw [Engine.rollbackNeedsResim, rollbackNeedsResim, SignedEngine.engine]
  dsimp only
  split
  next unmarked => exact (decide_eq_false (by omega)).symm
  next marked => exact (decide_eq_true (by omega)).symm

theorem engine_fightTick (simulation : Simulation S) (localSlot : Int)
    (currentFrame : Nat) (localInput : UInt16) (engine : SignedEngine S) :
    (fightTick simulation localSlot currentFrame localInput engine).engine =
      Client.fightTick simulation localSlot currentFrame localInput
        engine.engine := by
  obtain ⟨remote, same⟩ := engine_rollbackGetRemote currentFrame engine
  rw [fightTick, Client.fightTick]
  dsimp only
  rw [engine_rollbackSave, remote, ← engine_rollbackNeedsResim, same]
  split
  next =>
    have rewound := engine_rollbackRewindAndResim simulation currentFrame
      (engine.rollbackGetRemote currentFrame).2
    rw [same] at rewound
    rw [← rewound]
    rfl
  next =>
    rw [← same]
    rfl

end SignedEngine

inductive SignedEvent where
  | tick (localInput : UInt16)
  | confirm (frame : Int) (input : UInt16)
  deriving DecidableEq

structure SignedFight (S : Type) where
  engine : SignedEngine S
  currentFrame : Nat
  baseFrame : Nat

namespace SignedFight

def start (currentFrame : Nat) (engine : SignedEngine S) : SignedFight S where
  engine := { engine with formed := [], saved := fun _ => none }
  currentFrame := currentFrame
  baseFrame := currentFrame

def step (simulation : Simulation S) (localSlot : Int) :
    Machine (SignedFight S) SignedEvent
  | fight, .tick localInput =>
      let frame := fight.currentFrame + 1
      { fight with
        engine := fight.engine.fightTick simulation localSlot frame localInput
        currentFrame := frame }
  | fight, .confirm frame input =>
      { fight with
        engine := fight.engine.rollbackConfirmRemote frame input }

end SignedFight

def FightEvent.signed : FightEvent → SignedEvent
  | .tick localInput => .tick localInput
  | .confirm frame input => .confirm frame input

/-- As long as no frame number is negative, the two fights do the same. -/
theorem SignedFight.engine_run (simulation : Simulation S) (localSlot : Int)
    (events : List FightEvent) {signed : SignedFight S} {fight : Fight S}
    (sameEngine : signed.engine.engine = fight.engine)
    (sameFrame : signed.currentFrame = fight.currentFrame) :
    ((step simulation localSlot).run signed
        (events.map FightEvent.signed)).engine.engine =
      ((Fight.step simulation localSlot).run fight events).engine := by
  induction events generalizing signed fight with
  | nil => exact sameEngine
  | cons event rest ih =>
      rw [List.map_cons, Machine.run_cons, Machine.run_cons]
      cases event with
      | tick localInput =>
          refine ih ?_ ?_
          · have ticked := SignedEngine.engine_fightTick simulation localSlot
              (signed.currentFrame + 1) localInput signed.engine
            rw [sameEngine, sameFrame] at ticked
            rw [FightEvent.signed, step, sameFrame]
            exact ticked
          · exact congrArg (· + 1) sameFrame
      | confirm frame input =>
          refine ih ?_ sameFrame
          rw [FightEvent.signed, step, Fight.step, ← sameEngine]
          exact SignedEngine.engine_rollbackConfirmRemote frame input _

end FuryClash.Client
