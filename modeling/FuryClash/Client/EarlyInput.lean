import FuryClash.Client.SlotInputs
import FuryClash.Data.Run

namespace FuryClash.Client

open FuryClash.Data Engine

variable {S : Type}

/-! An input that arrives before its frame has been simulated. The save of the
frame keeps the input, and takes the confirmation away. -/

inductive SlotEvent where
  | tick (frame : Nat) (localInput : UInt16)
  | confirm (frame : Nat) (input : UInt16)
  deriving DecidableEq

namespace SlotEvent

def step (simulation : Simulation S) (localSlot : Int) :
    Machine (Engine S) SlotEvent
  | engine, .tick frame localInput =>
      fightTick simulation localSlot frame localInput engine
  | engine, .confirm frame input => engine.rollbackConfirmRemote frame input

/-- The event leaves the slot of the frame to it: no other frame is saved or
confirmed there, and the frame itself is confirmed with this input only. -/
def Spares (frame : Nat) (input : UInt16) : SlotEvent → Prop
  | .tick other _ => ¬ SameSlot frame other
  | .confirm other input' =>
      SameSlot frame other → other = frame ∧ input' = input

instance (frame : Nat) (input : UInt16) :
    DecidablePred (Spares frame input)
  | .tick _ _ => inferInstanceAs (Decidable (¬ _))
  | .confirm _ _ => inferInstanceAs (Decidable (_ → _))

/-- The remote input in the slot of a frame, seen by itself. -/
def slotStep (frame : Nat) : Machine UInt16 SlotEvent
  | held, .tick _ _ => held
  | held, .confirm other input =>
      if SameSlot frame other then input else held

end SlotEvent

open SlotEvent

/-- When the confirmation of a frame comes, against the frame's own tick. -/
inductive Arrival where
  | early
  | late
  deriving DecidableEq

def Arrival.events (frame : Nat) (localInput input : UInt16)
    (between : List SlotEvent) : Arrival → List SlotEvent
  | .early =>
      .confirm frame input :: between ++ [.tick frame localInput]
  | .late => .tick frame localInput :: between ++ [.confirm frame input]

/-- The frame is confirmed with the input. -/
structure Remembers (frame : Nat) (input : UInt16) (engine : Engine S) :
    Prop where
  read : engine.rollbackGetRemote frame = input
  repeated :
    (engine.rollbackConfirmRemote frame input).divergeFrame =
      engine.divergeFrame

/-- What is read for a frame whose confirmation is gone: the input in the slot
of the frame before. -/
def neighbourInput (frame : Nat) (events : List SlotEvent)
    (engine : Engine S) : UInt16 :=
  match frame with
  | 0 => 0
  | prev + 1 =>
      (slotStep prev).run (engine.buf.get prev).remoteInput events

/-- A confirmation that comes early is remembered only if it comes again, or
if the slot before happens to hold the same input. -/
def Kept (frame : Nat) (localInput input : UInt16) (arrival : Arrival)
    (between later : List SlotEvent) (engine : Engine S) : Prop :=
  arrival = .late ∨ .confirm frame input ∈ later ∨
    neighbourInput frame
      (arrival.events frame localInput input between ++ later) engine = input

variable {simulation : Simulation S} {localSlot : Int} {frame : Nat}
  {input : UInt16} {engine : Engine S}

theorem run_remoteInput (simulation : Simulation S) (localSlot : Int)
    (frame : Nat) (events : List SlotEvent) (engine : Engine S) :
    (((step simulation localSlot).run engine events).buf.get
        frame).remoteInput =
      (slotStep frame).run (engine.buf.get frame).remoteInput events := by
  refine @Machine.run_map _ _ _ (step simulation localSlot) engine events
    (slotStep frame) (fun engine => (engine.buf.get frame).remoteInput) ?_
  intro engine event
  cases event with
  | tick other localInput => exact (fightTick_get ..).1
  | confirm other input => exact (rollbackConfirmRemote_get ..).1

/-- The slot of the frame, while it is spared. -/
theorem run_spared {events : List SlotEvent}
    (spared : ∀ event ∈ events, event.Spares frame input)
    (held : (engine.buf.get frame).remoteInput = input) :
    let entry := ((step simulation localSlot).run engine events).buf.get frame
    entry.remoteInput = input ∧
      (entry.remoteConfirmed = true ↔
        (engine.buf.get frame).remoteConfirmed = true ∨
          .confirm frame input ∈ events) := by
  induction events generalizing engine with
  | nil => exact ⟨held, (or_iff_left List.not_mem_nil).symm⟩
  | cons event rest ih =>
      obtain ⟨first, others⟩ := List.forall_mem_cons.mp spared
      rw [Machine.run_cons]
      cases event with
      | tick other localInput =>
          have kept := fightTick_get simulation localSlot other frame
            localInput engine
          rw [if_neg first] at kept
          obtain ⟨input', confirmed⟩ := ih others (kept.1.trans held)
          refine ⟨input', confirmed.trans (or_congr ?_ ?_)⟩
          · exact iff_of_eq (congrArg (· = true) kept.2)
          · simp
      | confirm other input' =>
          have written :=
            rollbackConfirmRemote_get other frame input' engine
          by_cases same : SameSlot frame other
          · obtain ⟨rfl, rfl⟩ := first same
            rw [if_pos same, if_pos same] at written
            obtain ⟨input', confirmed⟩ := ih others written.1
            refine ⟨input', confirmed.trans ?_⟩
            exact iff_of_true (.inl written.2) (.inr List.mem_cons_self)
          · rw [if_neg same, if_neg same] at written
            obtain ⟨input', confirmed⟩ := ih others (written.1.trans held)
            have apart : frame ≠ other := fun equal =>
              same (equal ▸ SameSlot.refl frame)
            refine ⟨input', confirmed.trans (or_congr ?_ ?_)⟩
            · exact iff_of_eq (congrArg (· = true) written.2)
            · simp [apart]

/-- A slot that holds the input is never marked for it again, and is read
unless the confirmation is gone. -/
theorem remembers_iff (held : (engine.buf.get frame).remoteInput = input) :
    Remembers frame input engine ↔
      (engine.buf.get frame).remoteConfirmed = true ∨
        engine.rollbackGetRemote frame = input := by
  have repeated :
      (engine.rollbackConfirmRemote frame input).divergeFrame =
        engine.divergeFrame :=
    if_neg fun diverges => diverges.2 held
  constructor
  · exact fun remembers => .inr remembers.read
  · rintro (confirmed | read)
    · refine ⟨?_, repeated⟩
      cases frame with
      | zero => exact (if_pos confirmed).trans held
      | succ prev => exact (if_pos confirmed).trans held
    · exact ⟨read, repeated⟩

theorem getRemote_of_unconfirmed (events : List SlotEvent)
    (unconfirmed : (((step simulation localSlot).run engine events).buf.get
      frame).remoteConfirmed = false) :
    ((step simulation localSlot).run engine events).rollbackGetRemote frame =
      neighbourInput frame events engine := by
  have notConfirmed : ¬ (((step simulation localSlot).run engine
      events).buf.get frame).remoteConfirmed = true := by
    rw [unconfirmed]
    exact Bool.false_ne_true
  cases frame with
  | zero => exact if_neg notConfirmed
  | succ prev =>
      exact (if_neg notConfirmed).trans
        (run_remoteInput simulation localSlot prev events engine)

theorem arrival_slot (localInput : UInt16) (arrival : Arrival)
    {between : List SlotEvent}
    (spared : ∀ event ∈ between, event.Spares frame input) :
    let entry := ((step simulation localSlot).run engine
      (arrival.events frame localInput input between)).buf.get frame
    entry.remoteInput = input ∧
      (entry.remoteConfirmed = true ↔ arrival = .late) := by
  cases arrival with
  | late =>
      rw [Arrival.events, Machine.run_append, Machine.run_cons]
      have written := rollbackConfirmRemote_get_self frame input
        ((step simulation localSlot).run
          (step simulation localSlot engine (.tick frame localInput)) between)
      exact ⟨congrArg FrameEntry.remoteInput written,
        iff_of_true (congrArg FrameEntry.remoteConfirmed written) rfl⟩
  | early =>
      rw [Arrival.events, Machine.run_append, Machine.run_cons]
      have written := rollbackConfirmRemote_get_self frame input engine
      have waiting := (@run_spared _ simulation localSlot frame input _
        between spared (congrArg FrameEntry.remoteInput written)).1
      have saved := fightTick_get simulation localSlot frame frame localInput
        ((step simulation localSlot).run
          (engine.rollbackConfirmRemote frame input) between)
      rw [if_pos (SameSlot.refl frame)] at saved
      refine ⟨saved.1.trans waiting, iff_of_false ?_ ?_⟩
      · exact fun confirmed =>
          Bool.false_ne_true (saved.2.symm.trans confirmed)
      · exact fun isLate => by cases isLate

theorem remembers_iff_kept (simulation : Simulation S) (localSlot : Int)
    (engine : Engine S) (frame : Nat) (localInput input : UInt16)
    (arrival : Arrival) {between later : List SlotEvent}
    (sparedBetween : ∀ event ∈ between, event.Spares frame input)
    (sparedLater : ∀ event ∈ later, event.Spares frame input) :
    Remembers frame input ((step simulation localSlot).run engine
        (arrival.events frame localInput input between ++ later)) ↔
      Kept frame localInput input arrival between later engine := by
  obtain ⟨held, confirmed⟩ := @arrival_slot _ simulation localSlot frame input
    engine localInput arrival between sparedBetween
  obtain ⟨held', confirmed'⟩ := @run_spared _ simulation localSlot frame input
    _ later sparedLater held
  rw [← Machine.run_append] at held' confirmed'
  rw [remembers_iff held', confirmed', confirmed, Kept, or_assoc]
  by_cases again : arrival = .late ∨ .confirm frame input ∈ later
  · rw [← or_assoc, ← or_assoc]
    exact iff_of_true (.inl again) (.inl again)
  · have unconfirmed := Bool.eq_false_iff.mpr
      (mt confirmed'.mp (mt (or_congr_left confirmed).mp again))
    rw [getRemote_of_unconfirmed _ unconfirmed]

theorem remembers_iff_kept_again :
    Remembers 1 5 ((step .unit 0).run (fresh .unit ())
        (Arrival.early.events 1 0 5 [] ++ [.confirm 1 5])) ↔
      Kept 1 0 5 .early [] [.confirm 1 5] (fresh .unit ()) :=
  remembers_iff_kept .unit 0 (fresh .unit ()) 1 0 5 .early (by decide)
    (by decide)

/-- The opponent's first input comes before the tick of its frame. -/
theorem early_not_remembered :
    ¬ Remembers 1 5 ((step .unit 0).run (fresh .unit ())
      (Arrival.early.events 1 0 5 [])) := by
  intro remembers
  exact absurd remembers.read (by decide)

end FuryClash.Client
