import FuryClash.Client.SlotInputs
import Mathlib.Order.Bounds.Defs
import Mathlib.Order.Lattice

namespace FuryClash.Client

open FuryClash.Data

variable {S : Type}

/-! Which frames are marked as diverging. A confirmation is compared with what
the slot holds, and that is not the prediction which was simulated. -/

/-- A fight with the remote input that `simulation_tick` last consumed for each
frame, and the confirmations since the last resimulation. -/
structure Detection (S : Type) where
  fight : Fight S
  consumed : Nat → UInt16
  since : List (Nat × UInt16)

namespace Detection

def start (currentFrame : Nat) (engine : Engine S) : Detection S where
  fight := .start currentFrame engine
  consumed := fun _ => 0
  since := []

/-- The rewind of `currentFrame` consumes what the slots hold. -/
def resimulated (currentFrame : Nat) (engine : Engine S)
    (consumed : Nat → UInt16) : Nat → UInt16 :=
  match engine.divergeFrame with
  | none => consumed
  | some diverge => fun frame =>
      if diverge ≤ frame ∧ frame < currentFrame then
        (engine.buf.get frame).remoteInput
      else consumed frame

def step (simulation : Simulation S) (localSlot : Int) :
    Machine (Detection S) FightEvent
  | detection, .tick localInput =>
      let engine := detection.fight.engine
      let frame := detection.fight.currentFrame + 1
      { fight := Fight.step simulation localSlot detection.fight
          (.tick localInput)
        consumed := Function.update
          (resimulated frame engine detection.consumed) frame
          (engine.rollbackGetRemote frame)
        since := if engine.rollbackNeedsResim then [] else detection.since }
  | detection, .confirm frame input =>
      { detection with
        fight := Fight.step simulation localSlot detection.fight
          (.confirm frame input)
        since := detection.since ++ [(frame, input)] }

/-- The frames whose prediction was wrong, as far as that has arrived. -/
def wrong (detection : Detection S) : Set Nat :=
  { frame | ∃ input, (frame, input) ∈ detection.since ∧
    input ≠ detection.consumed frame }

structure Exact (detection : Detection S) : Prop where
  detected : detection.fight.engine.rollbackNeedsResim = true ↔
    ∃ frame, frame ∈ detection.wrong
  smallest : ∀ frame, detection.fight.engine.divergeFrame = some frame →
    IsLeast detection.wrong frame

def Legal (detection : Detection S) (event : FightEvent) : Prop :=
  detection.fight.Legal event

instance (detection : Detection S) (event : FightEvent) :
    Decidable (detection.Legal event) :=
  inferInstanceAs (Decidable (detection.fight.Legal event))

/-- The input left in the slot of a confirmed frame is as good for the
comparison as the one consumed, unless a smaller frame is marked anyway. -/
def SlotFaithful (detection : Detection S) : FightEvent → Prop
  | .tick _ => True
  | .confirm frame input =>
      (∃ marked ∈ detection.fight.engine.divergeFrame, marked < frame) ∨
        ((detection.fight.engine.buf.get frame).remoteInput = input ↔
          detection.consumed frame = input)

instance (detection : Detection S) : (event : FightEvent) →
    Decidable (detection.SlotFaithful event)
  | .tick _ => isTrue trivial
  | .confirm _ _ => inferInstanceAs (Decidable (_ ∨ _))

structure Known (detection : Detection S) : Prop where
  ticked : detection.fight.played.length ≤ detection.fight.currentFrame
  since : ∀ frame input, (frame, input) ∈ detection.since →
    frame ∈ detection.fight.confirmed.map Prod.fst ∧
      frame ≤ detection.fight.currentFrame
  unconfirmed : ∀ frame, detection.fight.baseFrame < frame →
    frame ≤ detection.fight.currentFrame →
    detection.fight.currentFrame < frame + fcRollbackFrames →
    frame ∉ detection.fight.confirmed.map Prod.fst →
    (detection.fight.engine.buf.get frame).remoteConfirmed = false

variable {simulation : Simulation S} {localSlot : Int}
  {detection : Detection S}

theorem start_known (currentFrame : Nat) (engine : Engine S) :
    (start currentFrame engine).Known where
  ticked := Nat.zero_le _
  since _ _ mem := by cases mem
  unconfirmed := by
    intro frame ofFight simulated
    simp only [start, Fight.start, Fight.baseFrame, List.length_nil]
      at ofFight simulated
    omega

theorem tick_known (known : detection.Known) (localInput : UInt16) :
    (step simulation localSlot detection (.tick localInput)).Known where
  ticked := by
    simpa [step, Fight.step] using known.ticked
  since := by
    intro frame input mem
    have before : (frame, input) ∈ detection.since := by
      rw [step] at mem
      dsimp only at mem
      split at mem
      next => cases mem
      next => exact mem
    obtain ⟨confirmed, simulated⟩ := known.since frame input before
    exact ⟨confirmed, Nat.le_add_right_of_le simulated⟩
  unconfirmed := by
    intro frame ofFight simulated recent notConfirmed
    have base := Fight.baseFrame_tick simulation localSlot known.ticked
      localInput
    obtain ⟨_, confirmed⟩ := fightTick_get simulation localSlot
      (detection.fight.currentFrame + 1) frame localInput
      detection.fight.engine
    rw [step] at ofFight simulated recent ⊢
    dsimp only at ofFight simulated recent ⊢
    rw [base] at ofFight
    rw [Fight.step] at simulated recent ⊢
    dsimp only at simulated recent ⊢
    rw [confirmed]
    split
    next => rfl
    next other =>
      have notNew : frame ≠ detection.fight.currentFrame + 1 := by
        rintro rfl
        exact other rfl
      exact known.unconfirmed frame ofFight (by omega) (by omega) notConfirmed

theorem confirm_known (known : detection.Known) {frame : Nat} {input : UInt16}
    (legal : detection.Legal (.confirm frame input)) :
    (step simulation localSlot detection (.confirm frame input)).Known where
  ticked := known.ticked
  since := by
    intro other input' mem
    have confirmed : (step simulation localSlot detection
        (.confirm frame input)).fight.confirmed.map Prod.fst =
          detection.fight.confirmed.map Prod.fst ++ [frame] :=
      List.map_append
    rw [confirmed]
    rcases List.mem_append.mp mem with old | new
    · obtain ⟨known, simulated⟩ := known.since other input' old
      exact ⟨List.mem_append_left _ known, simulated⟩
    · cases List.mem_singleton.mp new
      exact ⟨List.mem_append_right _ List.mem_cons_self, legal.2.1⟩
  unconfirmed := by
    intro other ofFight simulated recent notConfirmed
    have confirmed : (step simulation localSlot detection
        (.confirm frame input)).fight.confirmed.map Prod.fst =
          detection.fight.confirmed.map Prod.fst ++ [frame] :=
      List.map_append
    rw [confirmed, List.mem_append, not_or] at notConfirmed
    have apart : other ≠ frame := fun same =>
      notConfirmed.2 (List.mem_singleton.mpr same)
    obtain ⟨_, simulated', recent', _⟩ := legal
    change other ≤ detection.fight.currentFrame at simulated
    change detection.fight.currentFrame < other + fcRollbackFrames at recent
    have kept := (Engine.rollbackConfirmRemote_get frame other input
      detection.fight.engine).2
    rw [if_neg (Engine.not_sameSlot apart (by omega) (by omega))] at kept
    exact kept.trans
      (known.unconfirmed other ofFight simulated recent notConfirmed.1)

theorem exact_iff_of_unmarked
    (unmarked : detection.fight.engine.divergeFrame = none) :
    detection.Exact ↔ ∀ frame, frame ∉ detection.wrong := by
  have steady := Bool.eq_false_iff.mp
    (Engine.steady_iff_unmarked.mpr unmarked)
  constructor
  · intro exact' frame mem
    exact steady (exact'.detected.mpr ⟨frame, mem⟩)
  · intro right
    refine ⟨iff_of_false steady ?_, ?_⟩
    · rintro ⟨frame, mem⟩
      exact right frame mem
    · intro frame marked
      cases unmarked.symm.trans marked

theorem exact_iff_of_marked {marked : Nat}
    (isMarked : detection.fight.engine.divergeFrame = some marked) :
    detection.Exact ↔ IsLeast detection.wrong marked := by
  constructor
  · intro exact'
    exact exact'.smallest marked isMarked
  · intro least
    have pending := Engine.needsResim_of_marked isMarked
    refine ⟨iff_of_true pending ⟨marked, least.1⟩, ?_⟩
    intro frame isFrame
    cases isMarked.symm.trans isFrame
    exact least

theorem mem_wrong_confirm {frame other : Nat} {input : UInt16} :
    other ∈ (step simulation localSlot detection
        (.confirm frame input)).wrong ↔
      other ∈ detection.wrong ∨
        other = frame ∧ input ≠ detection.consumed frame := by
  constructor
  · rintro ⟨input', mem, apart⟩
    rcases List.mem_append.mp mem with old | new
    · exact .inl ⟨input', old, apart⟩
    · cases List.mem_singleton.mp new
      exact .inr ⟨rfl, apart⟩
  · rintro (⟨input', old, apart⟩ | ⟨rfl, apart⟩)
    · exact ⟨input', List.mem_append_left _ old, apart⟩
    · exact ⟨input, List.mem_append_right _ List.mem_cons_self, apart⟩

theorem isLeast_confirm_iff {frame : Nat} {input : UInt16}
    (below : ∀ other ∈ detection.wrong, frame < other) :
    IsLeast (step simulation localSlot detection
        (.confirm frame input)).wrong frame ↔
      input ≠ detection.consumed frame := by
  constructor
  · intro least
    rcases mem_wrong_confirm.mp least.1 with old | ⟨_, apart⟩
    · exact absurd (below frame old) (Nat.lt_irrefl frame)
    · exact apart
  · intro apart
    refine ⟨mem_wrong_confirm.mpr (.inr ⟨rfl, apart⟩), fun other mem => ?_⟩
    rcases mem_wrong_confirm.mp mem with old | ⟨rfl, _⟩
    · exact Nat.le_of_lt (below other old)
    · exact Nat.le_refl _

theorem confirm_divergeFrame (known : detection.Known) {frame : Nat}
    {input : UInt16} (legal : detection.Legal (.confirm frame input)) :
    (step simulation localSlot detection
        (.confirm frame input)).fight.engine.divergeFrame =
      if (detection.fight.engine.buf.get frame).remoteInput ≠ input then
        Engine.markDivergence frame detection.fight.engine.divergeFrame
      else detection.fight.engine.divergeFrame := by
  obtain ⟨ofFight, simulated, recent, notConfirmed⟩ := legal
  have diverges : detection.fight.engine.Diverges frame input ↔
      (detection.fight.engine.buf.get frame).remoteInput ≠ input :=
    and_iff_right
      (known.unconfirmed frame ofFight simulated recent notConfirmed)
  exact if_congr diverges rfl rfl

theorem confirm_exact_iff_of_smallest (known : detection.Known)
    (isExact : detection.Exact) {frame : Nat} {input : UInt16}
    (legal : detection.Legal (.confirm frame input))
    (smallest : ∀ marked, detection.fight.engine.divergeFrame = some marked →
      frame < marked) :
    (step simulation localSlot detection (.confirm frame input)).Exact ↔
      ((detection.fight.engine.buf.get frame).remoteInput = input ↔
        detection.consumed frame = input) := by
  have below : ∀ other ∈ detection.wrong, frame < other := by
    intro other mem
    obtain ⟨marked, isMarked⟩ :=
      Option.isSome_iff_exists.mp (isExact.detected.mpr ⟨other, mem⟩)
    exact Nat.lt_of_lt_of_le (smallest marked isMarked)
      ((isExact.smallest marked isMarked).2 mem)
  have marker := @confirm_divergeFrame _ simulation localSlot _ known _ _ legal
  by_cases held :
      (detection.fight.engine.buf.get frame).remoteInput = input
  · rw [if_neg (not_not.mpr held)] at marker
    rw [iff_true_left held]
    cases isMarked : detection.fight.engine.divergeFrame with
    | none =>
        rw [exact_iff_of_unmarked (marker.trans isMarked)]
        have noneWrong := (exact_iff_of_unmarked isMarked).mp isExact
        constructor
        · intro right
          by_contra apart
          exact right frame
            (mem_wrong_confirm.mpr (.inr ⟨rfl, Ne.symm apart⟩))
        · intro used other mem
          rcases mem_wrong_confirm.mp mem with old | ⟨_, apart⟩
          · exact noneWrong other old
          · exact apart used.symm
    | some marked =>
        rw [exact_iff_of_marked (marker.trans isMarked)]
        have least := isExact.smallest marked isMarked
        constructor
        · intro least'
          by_contra apart
          exact Nat.not_le_of_lt (smallest marked isMarked) (least'.2
            (mem_wrong_confirm.mpr (.inr ⟨rfl, Ne.symm apart⟩)))
        · intro used
          refine ⟨mem_wrong_confirm.mpr (.inl least.1), fun other mem => ?_⟩
          rcases mem_wrong_confirm.mp mem with old | ⟨_, apart⟩
          · exact least.2 old
          · exact absurd used.symm apart
  · rw [if_pos held] at marker
    rw [iff_false_left held]
    have marks : Engine.markDivergence frame
        detection.fight.engine.divergeFrame = some frame := by
      cases isMarked : detection.fight.engine.divergeFrame with
      | none => rfl
      | some marked => exact if_pos (smallest marked isMarked)
    rw [exact_iff_of_marked (marker.trans marks), isLeast_confirm_iff below]
    exact ne_comm

theorem confirm_exact_of_greater (known : detection.Known)
    (isExact : detection.Exact) {frame marked : Nat} {input : UInt16}
    (legal : detection.Legal (.confirm frame input))
    (isMarked : detection.fight.engine.divergeFrame = some marked)
    (greater : marked < frame) :
    (step simulation localSlot detection (.confirm frame input)).Exact := by
  have marker := @confirm_divergeFrame _ simulation localSlot _ known _ _ legal
  have still : Engine.markDivergence frame (some marked) = some marked :=
    if_neg (Nat.not_lt_of_lt greater)
  rw [isMarked, still, ite_self] at marker
  have least := isExact.smallest marked isMarked
  rw [exact_iff_of_marked marker]
  refine ⟨mem_wrong_confirm.mpr (.inl least.1), fun other mem => ?_⟩
  rcases mem_wrong_confirm.mp mem with old | ⟨rfl, _⟩
  · exact least.2 old
  · exact Nat.le_of_lt greater

theorem confirm_exact_iff (known : detection.Known)
    (isExact : detection.Exact) {frame : Nat} {input : UInt16}
    (legal : detection.Legal (.confirm frame input)) :
    (step simulation localSlot detection (.confirm frame input)).Exact ↔
      detection.SlotFaithful (.confirm frame input) := by
  rw [SlotFaithful]
  by_cases greater :
      ∃ marked ∈ detection.fight.engine.divergeFrame, marked < frame
  · obtain ⟨marked, isMarked, less⟩ := greater
    exact iff_of_true
      (confirm_exact_of_greater known isExact legal isMarked less)
      (.inl ⟨marked, isMarked, less⟩)
  · rw [confirm_exact_iff_of_smallest known isExact legal, or_iff_right greater]
    intro marked isMarked
    -- a frame that is marked has been confirmed before
    obtain ⟨input', mem, _⟩ := (isExact.smallest marked isMarked).1
    have apart : marked ≠ frame := by
      rintro rfl
      exact legal.2.2.2 (known.since marked input' mem).1
    have notLess : ¬ marked < frame :=
      fun less => greater ⟨marked, isMarked, less⟩
    omega

/-- A tick leaves nothing marked, and nothing that was wrong. -/
theorem tick_exact (known : detection.Known) (isExact : detection.Exact)
    (localInput : UInt16) :
    (step simulation localSlot detection (.tick localInput)).Exact := by
  have unmarked : (step simulation localSlot detection
      (.tick localInput)).fight.engine.divergeFrame = none :=
    fightTick_divergeFrame ..
  rw [exact_iff_of_unmarked unmarked]
  rintro frame ⟨input, mem, apart⟩
  rw [step] at mem apart
  dsimp only at mem apart
  split at mem
  next => cases mem
  next steady =>
    have notMarked := Engine.steady_iff_unmarked.mp
      (Bool.eq_false_iff.mpr steady)
    have simulated := (known.since frame input mem).2
    rw [Function.update_of_ne (by omega), resimulated, notMarked] at apart
    exact (exact_iff_of_unmarked notMarked).mp isExact frame
      ⟨input, mem, apart⟩

/-- Detection is exact as long as what is compared with is as good as what was
simulated. -/
theorem exact_iff_slotFaithful (simulation : Simulation S) (localSlot : Int)
    (currentFrame : Nat) (engine : Engine S) {events : List FightEvent}
    (legal : (step simulation localSlot).Along Legal
      (start currentFrame engine) events) :
    (step simulation localSlot).Always Exact (start currentFrame engine)
        events ↔
      engine.divergeFrame = none ∧
        (step simulation localSlot).Along SlotFaithful
          (start currentFrame engine) events := by
  have startExact (unmarked : engine.divergeFrame = none) :
      (start currentFrame engine).Exact := by
    rw [exact_iff_of_unmarked unmarked]
    rintro frame ⟨input, mem, _⟩
    cases mem
  have exactly (unmarked : engine.divergeFrame = none) :
      (step simulation localSlot).Always Exact (start currentFrame engine)
          events ↔
        (step simulation localSlot).Along SlotFaithful
          (start currentFrame engine) events := by
    refine legal.always_iff
      (fun detection => detection.Known ∧ detection.Exact) ?_
      (fun _ both => both.2) ?_
      ⟨start_known currentFrame engine, startExact unmarked⟩
    · rintro detection event ⟨known, isExact⟩ legal faithful
      cases event with
      | tick localInput =>
          exact ⟨tick_known known localInput,
            tick_exact known isExact localInput⟩
      | confirm frame input =>
          exact ⟨confirm_known known legal,
            (confirm_exact_iff known isExact legal).mpr faithful⟩
    · rintro detection event ⟨known, isExact⟩ legal unfaithful isExact'
      cases event with
      | tick localInput => exact unfaithful trivial
      | confirm frame input =>
          exact unfaithful
            ((confirm_exact_iff known isExact legal).mp isExact')
  constructor
  · intro always
    have unmarked : engine.divergeFrame = none := by
      by_contra marked
      obtain ⟨frame, isMarked⟩ := Option.ne_none_iff_exists'.mp marked
      obtain ⟨input, mem, _⟩ :=
        (always.first.smallest frame isMarked).1
      cases mem
    exact ⟨unmarked, (exactly unmarked).mp always⟩
  · rintro ⟨unmarked, along⟩
    exact (exactly unmarked).mpr along

def rightlyPredicted : List FightEvent :=
  [.tick 0, .confirm 1 5, .tick 0, .confirm 2 5]

theorem exact_iff_slotFaithful_rightlyPredicted :
    (step .unit 0).Always Exact (start 0 (.fresh .unit ()))
        rightlyPredicted ↔
      (Engine.fresh .unit ()).divergeFrame = none ∧
        (step .unit 0).Along SlotFaithful (start 0 (.fresh .unit ()))
          rightlyPredicted :=
  exact_iff_slotFaithful .unit 0 0 (.fresh .unit ()) (by decide)

theorem rightlyPredicted_not_exact :
    (step .unit 0).Along Legal (start 0 (.fresh .unit ()))
        rightlyPredicted ∧
      ¬ (step .unit 0).Always Exact (start 0 (.fresh .unit ()))
        rightlyPredicted := by
  refine ⟨by decide, fun always => ?_⟩
  have marked : ((step .unit 0).run (start 0 (.fresh .unit ()))
      rightlyPredicted).fight.engine.divergeFrame = some 2 := by decide
  obtain ⟨input, mem, apart⟩ := (always.last.smallest 2 marked).1
  have since : ((step .unit 0).run (start 0 (.fresh .unit ()))
      rightlyPredicted).since = [(2, 5)] := by decide
  have used : ((step .unit 0).run (start 0 (.fresh .unit ()))
      rightlyPredicted).consumed 2 = 5 := by decide
  rw [since] at mem
  cases List.mem_singleton.mp mem
  exact apart used.symm

end Detection

end FuryClash.Client
