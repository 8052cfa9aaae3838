import FuryClash.Client.Rollback
import FuryClash.Data.Run

namespace FuryClash.Client

open FuryClash.Data

variable {S : Type}

/-! The `GS_FIGHT` branch of the fixed-step loop of `main.c`. -/

/-- `(g_local_slot == 0) ? local : remote` and
`(g_local_slot == 1) ? local : remote`. -/
def placeInputs (localSlot : Int) (localInput remote : UInt16) :
    UInt16 × UInt16 :=
  (if localSlot = 0 then localInput else remote,
    if localSlot = 1 then localInput else remote)

def Simulation.tickPlaced (simulation : Simulation S) (localSlot : Int)
    (localInput remote : UInt16) (state : S) : S :=
  let inputs := placeInputs localSlot localInput remote
  simulation.tick inputs.1 inputs.2 state

/-- The remote input is read before a pending divergence is resimulated, and
the snapshot is saved after the tick. -/
def fightTick (simulation : Simulation S) (localSlot : Int)
    (currentFrame : Nat) (localInput : UInt16) (engine : Engine S) : Engine S :=
  let remote := engine.rollbackGetRemote currentFrame
  let rewound :=
    if engine.rollbackNeedsResim then
      engine.rollbackRewindAndResim simulation currentFrame
    else engine
  let inputs := placeInputs localSlot localInput remote
  (rewound.simulationTick simulation inputs.1 inputs.2).rollbackSave
    currentFrame

theorem fightTick_forget (simulation : Simulation S) (localSlot : Int) (currentFrame : Nat)
    (localInput : UInt16) (engine : Engine S) :
    (fightTick simulation localSlot currentFrame localInput engine).forget =
      fightTick .unit localSlot currentFrame localInput engine.forget := by
  cases pending : engine.rollbackNeedsResim with
  | false => simp [fightTick, pending]
  | true =>
      simp [fightTick, pending,
        Engine.forget_rollbackRewindAndResim simulation]

theorem fightTick_of_steady {simulation : Simulation S} {localSlot : Int}
    {currentFrame : Nat} {localInput : UInt16} {engine : Engine S}
    (steady : engine.rollbackNeedsResim = false) :
    fightTick simulation localSlot currentFrame localInput engine =
      Engine.rollbackSave currentFrame
        { engine with
          sim := simulation.tickPlaced localSlot localInput
            (engine.rollbackGetRemote currentFrame) engine.sim } := by
  simp [fightTick, steady, Engine.simulationTick, Simulation.tickPlaced]

/-! One fight of one client: its ticks, and the confirmed inputs that
`net_client_receive` hands to the engine between them. `initial`, `played` and
`confirmed` record the history: the state `simulation_init` left, the local
input read and the remote input used on each fight frame, and what arrived. -/

inductive FightEvent where
  | tick (localInput : UInt16)
  | confirm (frame : Nat) (input : UInt16)
  deriving DecidableEq

structure Fight (S : Type) where
  engine : Engine S
  currentFrame : Nat
  initial : S
  played : List (UInt16 × UInt16)
  confirmed : List (Nat × UInt16)

namespace Fight

/-- The first tick of the fight advances `current_frame` past its value here. -/
def start (currentFrame : Nat) (engine : Engine S) : Fight S where
  engine := engine
  currentFrame := currentFrame
  initial := engine.sim
  played := []
  confirmed := []

def step (simulation : Simulation S) (localSlot : Int) :
    Machine (Fight S) FightEvent
  | fight, .tick localInput =>
      let frame := fight.currentFrame + 1
      { fight with
        engine := fightTick simulation localSlot frame localInput fight.engine
        currentFrame := frame
        played := fight.played ++
          [(localInput, fight.engine.rollbackGetRemote frame)] }
  | fight, .confirm frame input =>
      { fight with
        engine := fight.engine.rollbackConfirmRemote frame input
        confirmed := fight.confirmed ++ [(frame, input)] }

/-- The frame number of the last tick before the fight. -/
def baseFrame (fight : Fight S) : Nat :=
  fight.currentFrame - fight.played.length

theorem baseFrame_tick (simulation : Simulation S) (localSlot : Int)
    {fight : Fight S} (ticked : fight.played.length ≤ fight.currentFrame)
    (localInput : UInt16) :
    (step simulation localSlot fight (.tick localInput)).baseFrame =
      fight.baseFrame := by
  simp only [baseFrame, step, List.length_append, List.length_singleton]
  omega

/-- A confirmation names a frame that this fight has simulated, that is still
in the ring and that has not been confirmed. -/
def Legal (fight : Fight S) : FightEvent → Prop
  | .tick _ => True
  | .confirm frame _ =>
      fight.baseFrame < frame ∧ frame ≤ fight.currentFrame ∧
        fight.currentFrame < frame + fcRollbackFrames ∧
        frame ∉ fight.confirmed.map Prod.fst

instance (fight : Fight S) : (event : FightEvent) →
    Decidable (fight.Legal event)
  | .tick _ => isTrue trivial
  | .confirm _ _ => inferInstanceAs (Decidable (_ ∧ _))

def Steady (fight : Fight S) : FightEvent → Prop
  | .tick _ => fight.engine.rollbackNeedsResim = false
  | .confirm _ _ => True

instance (fight : Fight S) : (event : FightEvent) →
    Decidable (fight.Steady event)
  | .tick _ => inferInstanceAs (Decidable (_ = _))
  | .confirm _ _ => isTrue trivial

/-! The specification: every fight frame simulated once, in order, with the
confirmed remote input where one has arrived. -/

def replayFrom (simulation : Simulation S) (localSlot : Int)
    (confirmed : List (Nat × UInt16)) :
    (frame : Nat) → List (UInt16 × UInt16) → S → S
  | _, [], state => state
  | frame, (localInput, predicted) :: rest, state =>
      let remote := (confirmed.lookup frame).getD predicted
      replayFrom simulation localSlot confirmed (frame + 1) rest
        (simulation.tickPlaced localSlot localInput remote state)

def replay (simulation : Simulation S) (localSlot : Int)
    (fight : Fight S) : S :=
  replayFrom simulation localSlot fight.confirmed (fight.baseFrame + 1)
    fight.played fight.initial

/-- After a tick in which a pending divergence was resimulated, `g_sim` is the
replay of the fight. -/
def ResimEqualsReplay (simulation : Simulation S) (localSlot : Int)
    (fight : Fight S) (event : FightEvent) : Prop :=
  match event with
  | .tick _ =>
      fight.engine.rollbackNeedsResim = true →
        (step simulation localSlot fight event).engine.sim =
          (step simulation localSlot fight event).replay simulation localSlot
  | .confirm _ _ => True

def forget (fight : Fight S) : Fight Unit :=
  { fight with engine := fight.engine.forget, initial := () }

theorem forget_step (simulation : Simulation S) (localSlot : Int)
    (fight : Fight S) (event : FightEvent) :
    (step simulation localSlot fight event).forget =
      step .unit localSlot fight.forget event := by
  cases event with
  | tick localInput =>
      simp only [step, forget, fightTick_forget simulation,
        Engine.forget_rollbackGetRemote]
  | confirm frame input =>
      simp only [step, forget, Engine.forget_rollbackConfirmRemote]

theorem along_legal_forget (simulation : Simulation S) {localSlot : Int}
    {fight : Fight S} {events : List FightEvent} :
    (step .unit localSlot).Along Legal fight.forget events ↔
      (step simulation localSlot).Along Legal fight events := by
  rw [Machine.along_map (forget_step simulation localSlot)]
  have same : (fun (fight : Fight S) event => fight.forget.Legal event) =
      Legal := by
    funext fight event
    cases event <;> rfl
  rw [same]

theorem along_steady_forget (simulation : Simulation S) {localSlot : Int}
    {fight : Fight S} {events : List FightEvent} :
    (step .unit localSlot).Along Steady fight.forget events ↔
      (step simulation localSlot).Along Steady fight events := by
  rw [Machine.along_map (forget_step simulation localSlot)]
  have same : (fun (fight : Fight S) event => fight.forget.Steady event) =
      Steady := by
    funext fight event
    cases event <;> rfl
  rw [same]

end Fight

end FuryClash.Client
