import FuryClash.Client.Replay
import FuryClash.Slot

namespace FuryClash.Client

open FuryClash.Data

variable {S : Type}

/-! Two clients of one room. Each labels its ticks with its own
`GameLoop.current_frame`, which runs from the start of the process, and gets
the other's `(current_frame, local input)` pairs in order and without loss. A
delivery may come at any time, in the lobby too, as `net_client_receive` does
not look at the game state. -/

/-- `sent` is everything `net_client_send_input` was given, `received` how many
of the other's pairs have been delivered. -/
structure Peer (S : Type) where
  fight : Fight S
  fighting : Bool
  sent : List (Nat × UInt16)
  received : Nat

structure Duel (S : Type) where
  peer : Slot → Peer S

inductive DuelEvent where
  | tick (slot : Slot) (localInput : UInt16)
  | enterFight (slot : Slot)
  | deliver (slot : Slot)
  deriving DecidableEq

namespace Peer

def inLobby (currentFrame : Nat) (engine : Engine S) : Peer S :=
  ⟨Fight.start currentFrame engine, false, [], 0⟩

/-- The body of the fixed-step loop, after `gameloop_should_tick`. -/
def tick (simulation : Simulation S) (slot : Slot) (localInput : UInt16)
    (peer : Peer S) : Peer S :=
  let frame := peer.fight.currentFrame + 1
  if peer.fighting then
    { peer with
      fight := Fight.step simulation slot.number peer.fight
        (.tick localInput)
      sent := peer.sent ++ [(frame, localInput)] }
  else
    { peer with fight := { peer.fight with currentFrame := frame } }

/-- `simulation_init` and the request of `GS_FIGHT`: the next tick is the first
of the fight. -/
def enterFight (initial : S) (peer : Peer S) : Peer S :=
  if peer.fighting then peer
  else
    { peer with
      fight := Fight.start peer.fight.currentFrame
        { peer.fight.engine with sim := initial }
      fighting := true }

def deliver (simulation : Simulation S) (slot : Slot)
    (pair : Option (Nat × UInt16)) (peer : Peer S) : Peer S :=
  match pair with
  | none => peer
  | some (frame, input) =>
      { peer with
        fight := Fight.step simulation slot.number peer.fight
          (.confirm frame input)
        received := peer.received + 1 }

def settled (simulation : Simulation S) (peer : Peer S) : S :=
  (peer.fight.engine.rollbackRewindAndResim simulation
    (peer.fight.currentFrame + 1)).sim

end Peer

namespace Duel

def inLobby (currentFrame : Slot → Nat) (engine : Slot → Engine S) : Duel S :=
  ⟨fun slot => .inLobby (currentFrame slot) (engine slot)⟩

def set (slot : Slot) (peer : Peer S) (duel : Duel S) : Duel S :=
  ⟨Function.update duel.peer slot peer⟩

@[simp] theorem set_self (slot : Slot) (peer : Peer S) (duel : Duel S) :
    (duel.set slot peer).peer slot = peer :=
  Function.update_self ..

@[simp] theorem set_other (slot : Slot) (peer : Peer S) (duel : Duel S) :
    (duel.set slot peer).peer slot.other = duel.peer slot.other :=
  Function.update_of_ne (Slot.other_ne slot) ..

def arriving (duel : Duel S) (slot : Slot) : Option (Nat × UInt16) :=
  (duel.peer slot.other).sent[(duel.peer slot).received]?

def step (simulation : Simulation S) (initial : S) :
    Machine (Duel S) DuelEvent
  | duel, .tick slot localInput =>
      duel.set slot ((duel.peer slot).tick simulation slot localInput)
  | duel, .enterFight slot =>
      duel.set slot ((duel.peer slot).enterFight initial)
  | duel, .deliver slot =>
      duel.set slot
        ((duel.peer slot).deliver simulation slot (duel.arriving slot))

/-- Both clients have run the same number of fight ticks and have been given
all inputs of these ticks. -/
def Level (duel : Duel S) : Prop :=
  ∀ slot, (duel.peer slot).fighting = true ∧
    (duel.peer slot).fight.played.length =
      (duel.peer slot.other).fight.played.length ∧
    (duel.peer slot).received = (duel.peer slot.other).sent.length

def InSync (simulation : Simulation S) (duel : Duel S) : Prop :=
  duel.Level → (duel.peer .p1).settled simulation =
    (duel.peer .p2).settled simulation

/-- The steps on which the engine's bookkeeping does no harm. A fight begins at
the other client's frame number. A tick finds no divergence pending, and the
remote input it uses is the one its slot of the ring already holds, which
`rollback_save` does not write. A pair that arrives is less than a ring away
and does not diverge from its slot. -/
def Steady (duel : Duel S) : DuelEvent → Prop
  | .tick slot _ =>
      let peer := duel.peer slot
      let frame := peer.fight.currentFrame + 1
      peer.fighting = true →
        peer.fight.engine.rollbackNeedsResim = false ∧
          peer.fight.engine.rollbackGetRemote frame =
            (peer.fight.engine.buf.get frame).remoteInput
  | .enterFight slot =>
      let peer := duel.peer slot
      let opponent := duel.peer slot.other
      peer.fighting = false →
        peer.fight.engine.rollbackNeedsResim = false ∧
          (opponent.fighting = true →
            peer.fight.currentFrame = opponent.fight.baseFrame)
  | .deliver slot =>
      let fight := (duel.peer slot).fight
      ∀ pair ∈ duel.arriving slot,
        ¬ fight.engine.Diverges pair.1 pair.2 ∧
          pair.1 < fight.currentFrame + fcRollbackFrames ∧
          fight.currentFrame < pair.1 + fcRollbackFrames

instance (duel : Duel S) : (event : DuelEvent) → Decidable (duel.Steady event)
  | .tick _ _ => inferInstanceAs (Decidable (_ → _ ∧ _))
  | .enterFight _ => inferInstanceAs (Decidable (_ → _ ∧ (_ → _)))
  | .deliver slot =>
      match arriving : duel.arriving slot with
      | none => isTrue (by simp [Steady, arriving])
      | some pair =>
          let fight := (duel.peer slot).fight
          decidable_of_iff
            (¬ fight.engine.Diverges pair.1 pair.2 ∧
              pair.1 < fight.currentFrame + fcRollbackFrames ∧
              fight.currentFrame < pair.1 + fcRollbackFrames)
            (by simp [Steady, arriving, fight])

end Duel

end FuryClash.Client
