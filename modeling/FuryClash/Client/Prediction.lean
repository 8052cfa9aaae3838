import FuryClash.Client.SlotInputs
import Mathlib.Order.Bounds.Defs
import Mathlib.Order.Lattice

namespace FuryClash.Client

open FuryClash.Data Engine

variable {S : Type}

/-! Which remote input the loop predicts. It looks one slot back, where only a
confirmation writes. -/

def lastConfirmed (confirmed : List (Nat × UInt16)) (frame : Nat) :
    Option UInt16 :=
  confirmed.reverse.lookup frame

def slotInput (confirmed : List (Nat × UInt16)) (frame : Nat) : UInt16 :=
  ((confirmed.reverse.find? fun entry => SameSlot frame entry.1).map
    Prod.snd).getD 0

theorem slotInput_congr (confirmed : List (Nat × UInt16)) {frame other : Nat}
    (same : SameSlot frame other) :
    slotInput confirmed frame = slotInput confirmed other := by
  have sameFind : (fun entry : Nat × UInt16 =>
        decide (SameSlot frame entry.1)) =
      fun entry => decide (SameSlot other entry.1) := by
    funext entry
    exact decide_eq_decide.mpr ⟨same.symm.trans, same.trans⟩
  rw [slotInput, slotInput, sameFind]

theorem lastConfirmed_concat (confirmed : List (Nat × UInt16))
    (frame other : Nat) (input : UInt16) :
    lastConfirmed (confirmed ++ [(frame, input)]) other =
      if other = frame then some input else lastConfirmed confirmed other := by
  rw [lastConfirmed, List.reverse_concat, List.lookup_cons]
  by_cases same : other = frame
  · simp [same]
  · have differs : (other == frame) = false := beq_false_of_ne same
    rw [differs, if_neg same]
    rfl

theorem slotInput_concat (confirmed : List (Nat × UInt16))
    (frame other : Nat) (input : UInt16) :
    slotInput (confirmed ++ [(frame, input)]) other =
      if SameSlot other frame then input else slotInput confirmed other := by
  rw [slotInput, List.reverse_concat, List.find?_cons]
  by_cases same : SameSlot other frame
  · simp [same]
  · simp only [same, decide_false, if_false]
    rfl

theorem lastConfirmed_eq_none_iff (confirmed : List (Nat × UInt16))
    (frame : Nat) :
    lastConfirmed confirmed frame = none ↔
      frame ∉ confirmed.map Prod.fst := by
  rw [lastConfirmed, List.lookup_eq_none_iff]
  constructor
  · intro none mem
    obtain ⟨entry, listed, rfl⟩ := List.mem_map.mp mem
    have apart := none entry (List.mem_reverse.mpr listed)
    simp at apart
  · intro notMem entry mem
    rw [List.mem_reverse] at mem
    rw [bne_iff_ne]
    exact fun same => notMem (List.mem_map.mpr ⟨entry, mem, same.symm⟩)

namespace Fight

def Recent (fight : Fight S) : FightEvent → Prop
  | .tick _ => True
  | .confirm frame _ =>
      fight.baseFrame < frame ∧ frame ≤ fight.currentFrame ∧
        fight.currentFrame < frame + fcRollbackFrames

instance (fight : Fight S) : (event : FightEvent) →
    Decidable (fight.Recent event)
  | .tick _ => isTrue trivial
  | .confirm _ _ => inferInstanceAs (Decidable (_ ∧ _))

/-- The latest frame before this one that has been confirmed, and its input. -/
def LastKnown (fight : Fight S) (frame known : Nat) (input : UInt16) : Prop :=
  IsGreatest { other | other < frame ∧ other ∈ fight.confirmed.map Prod.fst }
      known ∧
    lastConfirmed fight.confirmed known = some input

/-- What the loop reads for its next frame, none of which is confirmed. -/
def RepeatsLast (fight : Fight S) : FightEvent → Prop
  | .tick _ =>
      let frame := fight.currentFrame + 1
      (fight.confirmed = [] → fight.engine.rollbackGetRemote frame = 0) ∧
        ∀ known input, fight.LastKnown frame known input →
          frame < known + fcRollbackFrames →
          fight.engine.rollbackGetRemote frame = input
  | .confirm _ _ => True

/-- The input confirmed for the frame that had the slot before this one. -/
def inputBefore (fight : Fight S) (frame : Nat) : Option UInt16 :=
  if fcRollbackFrames ≤ frame then
    lastConfirmed fight.confirmed (frame - fcRollbackFrames)
  else none

/-- Where the frame that had the slot before was confirmed, it was with the
input to repeat. Else the frame just before is confirmed, or what was last
confirmed for an earlier frame with the same slot as that one, `0` if nothing
was, is the input to repeat. -/
def CarriesLast (fight : Fight S) : FightEvent → Prop
  | .tick _ =>
      let frame := fight.currentFrame + 1
      ∀ known input, fight.LastKnown frame known input →
        frame < known + fcRollbackFrames →
        match fight.inputBefore frame with
        | some before => before = input
        | none => lastConfirmed fight.confirmed fight.currentFrame = none →
            slotInput fight.confirmed fight.currentFrame = input
  | .confirm _ _ => True

structure Recorded (fight : Fight S) : Prop where
  ticked : fight.played.length ≤ fight.currentFrame
  simulated : ∀ frame ∈ fight.confirmed.map Prod.fst,
    frame ≤ fight.currentFrame
  held : ∀ frame, (fight.engine.buf.get frame).remoteInput =
    slotInput fight.confirmed frame
  latest : ∀ frame input, fight.currentFrame < frame + fcRollbackFrames →
    lastConfirmed fight.confirmed frame = some input →
    slotInput fight.confirmed frame = input
  flagged : ∀ frame, fight.currentFrame < frame →
    frame ≤ fight.currentFrame + fcRollbackFrames →
    ((fight.engine.buf.get frame).remoteConfirmed = true ↔
      fcRollbackFrames ≤ frame ∧
        frame - fcRollbackFrames ∈ fight.confirmed.map Prod.fst)

variable {simulation : Simulation S} {localSlot : Int} {fight : Fight S}

theorem start_recorded (simulation : Simulation S) (currentFrame : Nat)
    (sim : S) :
    (start currentFrame (fresh simulation sim)).Recorded where
  ticked := Nat.zero_le _
  simulated _ mem := by cases mem
  held _ := rfl
  latest _ _ _ known := by cases known
  flagged frame _ _ :=
    iff_of_false Bool.false_ne_true fun both => by cases both.2

theorem tick_recorded (recorded : fight.Recorded) (localInput : UInt16) :
    (step simulation localSlot fight (.tick localInput)).Recorded where
  ticked := by
    simpa [step] using recorded.ticked
  simulated := by
    intro frame mem
    exact Nat.le_add_right_of_le (recorded.simulated frame mem)
  held := by
    intro frame
    have kept := (fightTick_get simulation localSlot (fight.currentFrame + 1)
      frame localInput fight.engine).1
    exact kept.trans (recorded.held frame)
  latest := by
    intro frame input recent known
    change fight.currentFrame + 1 < frame + fcRollbackFrames at recent
    exact recorded.latest frame input (by omega) known
  flagged := by
    intro frame after recent
    have kept := (fightTick_get simulation localSlot (fight.currentFrame + 1)
      frame localInput fight.engine).2
    rw [step] at after recent ⊢
    dsimp only at after recent ⊢
    rw [kept]
    by_cases last : frame = fight.currentFrame + 1 + fcRollbackFrames
    · have same : SameSlot frame (fight.currentFrame + 1) :=
        last ▸ sameSlot_add _
      rw [if_pos same]
      refine iff_of_false Bool.false_ne_true fun both => ?_
      have simulated := recorded.simulated _ both.2
      omega
    · have apart : ¬ SameSlot frame (fight.currentFrame + 1) :=
        not_sameSlot (by omega) (by omega) (by omega)
      rw [if_neg apart]
      exact recorded.flagged frame (by omega) (by omega)

theorem confirm_recorded (recorded : fight.Recorded) {frame : Nat}
    {input : UInt16} (recent : fight.Recent (.confirm frame input)) :
    (step simulation localSlot fight (.confirm frame input)).Recorded := by
  obtain ⟨_, simulated, inRing⟩ := recent
  have frames : (fight.confirmed ++ [(frame, input)]).map Prod.fst =
      fight.confirmed.map Prod.fst ++ [frame] := List.map_append
  refine ⟨recorded.ticked, ?_, ?_, ?_, ?_⟩
  · intro other mem
    rw [step] at mem
    dsimp only at mem
    rw [frames] at mem
    rcases List.mem_append.mp mem with old | new
    · exact recorded.simulated other old
    · cases List.mem_singleton.mp new
      exact simulated
  · intro other
    have written := (rollbackConfirmRemote_get frame other input
      fight.engine).1
    rw [recorded.held other] at written
    exact written.trans (slotInput_concat ..).symm
  · intro other input' recent known
    rw [step] at recent known ⊢
    dsimp only at recent known ⊢
    rw [lastConfirmed_concat] at known
    rw [slotInput_concat]
    by_cases isFrame : other = frame
    · subst isFrame
      rw [if_pos rfl] at known
      rw [if_pos (SameSlot.refl other)]
      exact Option.some.inj known
    · rw [if_neg isFrame] at known
      have simulated' := recorded.simulated other (by
        by_contra notMem
        rw [(lastConfirmed_eq_none_iff ..).mpr notMem] at known
        cases known)
      rw [if_neg (not_sameSlot isFrame (by omega) (by omega))]
      exact recorded.latest other input' recent known
  · intro other after recent
    have kept := (rollbackConfirmRemote_get frame other input
      fight.engine).2
    rw [step] at after recent ⊢
    dsimp only at after recent ⊢
    rw [kept, frames, List.mem_append, List.mem_singleton]
    by_cases isNext : other = frame + fcRollbackFrames
    · rw [isNext, if_pos (sameSlot_add frame), Nat.add_sub_cancel]
      exact iff_of_true rfl ⟨Nat.le_add_left .., .inr rfl⟩
    · have apart : ¬ SameSlot other frame := by
        intro same
        have same' := same.trans (sameSlot_add frame).symm
        exact not_sameSlot isNext (by omega) (by omega) same'
      rw [if_neg apart, recorded.flagged other after recent]
      refine and_congr_right fun above => (or_iff_left ?_).symm
      omega

theorem getRemote_eq (recorded : fight.Recorded) :
    fight.engine.rollbackGetRemote (fight.currentFrame + 1) =
      match fight.inputBefore (fight.currentFrame + 1) with
      | some before => before
      | none => slotInput fight.confirmed fight.currentFrame := by
  have flagged := recorded.flagged (fight.currentFrame + 1)
    (Nat.lt_succ_self _) (Nat.add_le_add_left (by decide) _)
  have own := recorded.held (fight.currentFrame + 1)
  have before := recorded.held fight.currentFrame
  rw [rollbackGetRemote, own, before, inputBefore]
  by_cases above : fcRollbackFrames ≤ fight.currentFrame + 1
  · rw [if_pos above]
    cases known : lastConfirmed fight.confirmed
        (fight.currentFrame + 1 - fcRollbackFrames) with
    | none =>
        have notMem := (lastConfirmed_eq_none_iff ..).mp known
        rw [if_neg fun confirmed => notMem (flagged.mp confirmed).2]
    | some input =>
        have mem : fight.currentFrame + 1 - fcRollbackFrames ∈
            fight.confirmed.map Prod.fst := by
          by_contra notMem
          rw [(lastConfirmed_eq_none_iff ..).mpr notMem] at known
          cases known
        have same : SameSlot (fight.currentFrame + 1)
            (fight.currentFrame + 1 - fcRollbackFrames) := by
          have shared := sameSlot_add
            (fight.currentFrame + 1 - fcRollbackFrames)
          rwa [Nat.sub_add_cancel above] at shared
        rw [if_pos (flagged.mpr ⟨above, mem⟩), slotInput_congr _ same]
        exact recorded.latest _ input (by omega) known
  · rw [if_neg above]
    rw [if_neg fun confirmed => above (flagged.mp confirmed).1]

theorem repeatsLast_tick_iff (recorded : fight.Recorded)
    (localInput : UInt16) :
    fight.RepeatsLast (.tick localInput) ↔
      fight.CarriesLast (.tick localInput) := by
  have neutral : fight.confirmed = [] →
      fight.engine.rollbackGetRemote (fight.currentFrame + 1) = 0 := by
    intro nothing
    rw [getRemote_eq recorded, inputBefore, nothing]
    have unknown (frame : Nat) : lastConfirmed [] frame = none := rfl
    rw [unknown, ite_self]
    rfl
  rw [RepeatsLast, CarriesLast, getRemote_eq recorded]
  rw [getRemote_eq recorded] at neutral
  rw [and_iff_right neutral]
  refine forall_congr' fun known => forall_congr' fun input =>
    imp_congr_right fun last => imp_congr_right fun _ => ?_
  cases fight.inputBefore (fight.currentFrame + 1) with
  | some before => exact Iff.rfl
  | none =>
      refine ⟨fun right _ => right, fun right => ?_⟩
      cases here : lastConfirmed fight.confirmed fight.currentFrame with
      | none => exact right here
      | some input' =>
          -- the frame just before is the latest that is known
          obtain ⟨⟨⟨less, _⟩, greatest⟩, isInput⟩ := last
          have mem : fight.currentFrame ∈ fight.confirmed.map Prod.fst := by
            by_contra notMem
            rw [(lastConfirmed_eq_none_iff ..).mpr notMem] at here
            cases here
          have atLeast := greatest ⟨Nat.lt_succ_self _, mem⟩
          have isKnown : known = fight.currentFrame := by omega
          subst isKnown
          exact recorded.latest _ input (by omega) isInput

/-- The loop repeats the last known input exactly in the runs in which the
slots happen to carry it. -/
theorem repeatsLast_iff_carriesLast (simulation : Simulation S)
    (localSlot : Int) (currentFrame : Nat) (sim : S)
    {events : List FightEvent}
    (recent : (step simulation localSlot).Along Recent
      (start currentFrame (fresh simulation sim)) events) :
    (step simulation localSlot).Along RepeatsLast
        (start currentFrame (fresh simulation sim)) events ↔
      (step simulation localSlot).Along CarriesLast
        (start currentFrame (fresh simulation sim)) events := by
  have same (fight : Fight S) (event : FightEvent)
      (recorded : fight.Recorded) :
      fight.RepeatsLast event ↔ fight.CarriesLast event := by
    cases event with
    | tick localInput => exact repeatsLast_tick_iff recorded localInput
    | confirm frame input => exact Iff.rfl
  refine Machine.along_iff_along Recorded ?_
    (fun fight event recorded _ => (same fight event recorded).mpr)
    (fun fight event recorded _ => mt (same fight event recorded).mp)
    (start_recorded simulation currentFrame sim) recent
  intro fight event recorded recent _
  cases event with
  | tick localInput => exact tick_recorded recorded localInput
  | confirm frame input => exact confirm_recorded recorded recent

def threeLate : List FightEvent :=
  [.tick 0, .tick 0, .tick 0, .confirm 1 5, .tick 0]

theorem repeatsLast_iff_carriesLast_threeLate :
    (step .unit 0).Along RepeatsLast (start 0 (fresh .unit ())) threeLate ↔
      (step .unit 0).Along CarriesLast (start 0 (fresh .unit ()))
        threeLate :=
  repeatsLast_iff_carriesLast .unit 0 0 () (by decide)

theorem threeLate_not_repeatsLast :
    (step .unit 0).Along Recent (start 0 (fresh .unit ())) threeLate ∧
      ¬ (step .unit 0).Along RepeatsLast (start 0 (fresh .unit ()))
        threeLate := by
  refine ⟨by decide, fun right => ?_⟩
  have repeats := right.2.2.2.2.1.2 1 5 ⟨⟨by decide, ?_⟩, by decide⟩
    (by decide)
  · exact absurd repeats (by decide)
  · rintro other ⟨_, mem⟩
    exact Nat.le_of_eq (List.mem_singleton.mp mem)

end Fight

end FuryClash.Client
