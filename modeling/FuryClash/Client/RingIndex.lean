import FuryClash.Client.InputCodec
import FuryClash.Client.SignedFrames
import FuryClash.Client.Wire

namespace FuryClash.Client

open FuryClash.Data

/-! Which indices of `g_buf` the messages of a peer, and the ticks behind
them, lead to. -/

def InArray (index : Int) : Prop := 0 ≤ index ∧ index < fcRollbackFrames

instance (index : Int) : Decidable (InArray index) :=
  inferInstanceAs (Decidable (_ ∧ _))

theorem ringIndex_inArray_iff (frame : Int) :
    InArray (ringIndex frame) ↔ 0 ≤ frame ∨ (fcRollbackFrames : Int) ∣ frame := by
  have below : ringIndex frame < fcRollbackFrames :=
    Int.tmod_lt_of_pos frame (by decide)
  constructor
  · rintro ⟨positive, _⟩
    rw [Int.dvd_iff_tmod_eq_zero]
    by_contra neither
    obtain ⟨negative, rest⟩ := not_or.mp neither
    have opposite : 0 ≤ (-frame).tmod fcRollbackFrames :=
      Int.tmod_nonneg _ (by omega)
    rw [Int.neg_tmod] at opposite
    rw [ringIndex] at positive
    omega
  · rintro (positive | divides)
    · exact ⟨Int.tmod_nonneg _ positive, below⟩
    · refine ⟨?_, below⟩
      rw [ringIndex, Int.tmod_eq_zero_of_dvd divides]

theorem ringIndex_natCast_inArray (frame : Nat) : InArray (ringIndex frame) :=
  (ringIndex_inArray_iff frame).mpr (.inl (Int.natCast_nonneg frame))

namespace SignedEngine

variable {S : Type} {engine engine' : SignedEngine S}

/-- What has been formed since is in the array. -/
def FormsInArray (engine engine' : SignedEngine S) : Prop :=
  ∀ index ∈ engine'.formed, index ∈ engine.formed ∨ InArray index

theorem FormsInArray.refl (engine : SignedEngine S) :
    FormsInArray engine engine :=
  fun _ mem => .inl mem

theorem FormsInArray.trans {engine'' : SignedEngine S}
    (first : FormsInArray engine engine')
    (second : FormsInArray engine' engine'') :
    FormsInArray engine engine'' := by
  intro index mem
  rcases second index mem with before | inArray
  · exact first index before
  · exact .inr inArray

theorem FormsInArray.of_eq (same : engine'.formed = engine.formed) :
    FormsInArray engine engine' := by
  intro index mem
  rw [same] at mem
  exact .inl mem

theorem form_formsInArray (frame : Nat) (engine : SignedEngine S) :
    FormsInArray engine (engine.form frame) := by
  intro index mem
  rcases List.mem_cons.mp mem with rfl | before
  · exact .inr (ringIndex_natCast_inArray frame)
  · exact .inl before

theorem rollbackGetRemote_formsInArray (frame : Nat)
    (engine : SignedEngine S) :
    FormsInArray engine (engine.rollbackGetRemote frame).2 := by
  have first := form_formsInArray frame engine
  rw [rollbackGetRemote]
  dsimp only
  split
  next => exact first
  next =>
    split
    next positive =>
      obtain ⟨prev, isPrev⟩ := Int.eq_ofNat_of_zero_le positive
      rw [isPrev]
      exact first.trans (form_formsInArray prev _)
    next => exact first

theorem resimulate_formsInArray (simulation : Simulation S)
    (frame count : Nat) (engine : SignedEngine S) :
    FormsInArray engine (resimulate simulation frame count engine) := by
  induction count generalizing frame engine with
  | zero => exact .refl engine
  | succ count ih =>
      have next : (frame : Int) + 1 = (frame + 1 : Nat) := by omega
      have formed := form_formsInArray frame engine
      rw [resimulate, next]
      refine formed.trans (FormsInArray.trans ?_ (ih (frame + 1) _))
      exact .of_eq rfl

theorem rollbackRewindAndResim_formsInArray (simulation : Simulation S)
    (currentFrame : Int) (engine : SignedEngine S) :
    FormsInArray engine
      (engine.rollbackRewindAndResim simulation currentFrame) := by
  rw [rollbackRewindAndResim]
  split
  next => exact .refl engine
  next marked =>
    obtain ⟨diverge, isDiverge⟩ :=
      Int.eq_ofNat_of_zero_le (Int.not_lt.mp marked)
    rw [isDiverge]
    have formed := form_formsInArray diverge engine
    have restored : FormsInArray (engine.form diverge)
        { engine.form diverge with
          sim := (engine.entryAt diverge).snapshot } := .of_eq rfl
    exact (formed.trans restored).trans
      (resimulate_formsInArray simulation diverge _ _)

theorem fightTick_formsInArray (simulation : Simulation S) (localSlot : Int)
    (currentFrame : Nat) (localInput : UInt16) (engine : SignedEngine S) :
    FormsInArray engine
      (fightTick simulation localSlot currentFrame localInput engine) := by
  have read := rollbackGetRemote_formsInArray currentFrame engine
  rw [fightTick]
  dsimp only
  refine read.trans (FormsInArray.trans ?_ (form_formsInArray currentFrame _))
  split
  next =>
    exact (rollbackRewindAndResim_formsInArray simulation currentFrame _).trans
      (.of_eq rfl)
  next => exact .of_eq rfl

theorem rollbackConfirmRemote_formed (frame : Int) (input : UInt16)
    (engine : SignedEngine S) :
    (engine.rollbackConfirmRemote frame input).formed =
      ringIndex frame :: engine.formed := by
  rw [rollbackConfirmRemote]
  dsimp only [setEntry]
  split
  next =>
    split
    next => rfl
    next => rfl
  next => rfl

end SignedEngine

namespace Payload

def wireFrame (payload : Payload) (p : Nat) : Nat :=
  leNat [payload.memory p, payload.memory (p + 1), payload.memory (p + 2),
    payload.memory (p + 3)]

def WholeBatch (payload : Payload) : Prop :=
  1 ≤ payload.plen ∧ payload.memory 0 = msgInputBatch ∧
    4 + (payload.memory 3).toNat * 6 ≤ payload.plen

instance (payload : Payload) : Decidable payload.WholeBatch :=
  inferInstanceAs (Decidable (_ ∧ _))

theorem wireFrame_lt (payload : Payload) (p : Nat) :
    payload.wireFrame p < 2 ^ 32 := by
  have bound := leNat_lt [payload.memory p, payload.memory (p + 1),
    payload.memory (p + 2), payload.memory (p + 3)]
  rw [wireFrame]
  simp only [List.length_cons, List.length_nil] at bound
  omega

def batch (payload : Payload) : List (Int × UInt16) :=
  if payload.WholeBatch then
    (List.range (payload.memory 3).toNat).map fun i => payload.entry (4 + i * 6)
  else []

theorem entry_frame (payload : Payload) (p : Nat) :
    (payload.entry p).1 = toInt (payload.wireFrame p) := by
  rw [entry, wireFrame, ← toNat_word]
  rfl

end Payload

namespace Net

variable {os : Os} {net : Net} {payload : Payload}

theorem wsSend_confirmed (bytes : List UInt8) :
    (net.wsSend os bytes).confirmed = net.confirmed := by
  have wrote (calls : Nat) (chunks : List (List UInt8)) :
      (net.wrote calls chunks).confirmed = net.confirmed := by
    have none : (chunks.map NetEffect.sent).filterMap NetEffect.confirmed =
        [] := by
      rw [List.filterMap_eq_nil_iff]
      intro effect mem
      obtain ⟨chunk, _, rfl⟩ := List.mem_map.mp mem
      rfl
    rw [confirmed, Net.wrote, List.filterMap_append, none, List.append_nil]
    rfl
  rw [wsSend]
  split
  next => rfl
  next =>
    split
    next => rfl
    next =>
      have loop := sendLoop_wrote os net
        (wsEncodeFrame (os.ticks net.calls) bytes).length (Nat.le_refl _)
      dsimp only
      rw [effect_confirmed]
      generalize net.sendLoop os _ _ = result at loop
      cases loop with
      | whole calls chunks => exact (List.append_nil _).trans (wrote ..)
      | again calls chunks => exact (List.append_nil _).trans (wrote ..)
      | failed calls chunks =>
          refine (List.append_nil _).trans ?_
          rw [setState, effect_confirmed]
          exact (List.append_nil _).trans (wrote calls chunks)

theorem confirmEntries_confirmed_range (count p : Nat) :
    (net.confirmEntries payload count p).confirmed =
      net.confirmed ++
        (List.range count).map fun i => payload.entry (p + i * 6) := by
  induction count generalizing net p with
  | zero => exact (List.append_nil _).symm
  | succ count ih =>
      have shifted : (List.range count).map
            (fun i => payload.entry (p + 6 + i * 6)) =
          ((List.range count).map Nat.succ).map
            (fun i => payload.entry (p + i * 6)) := by
        rw [List.map_map]
        apply List.map_congr_left
        intro i _
        rw [Function.comp_apply]
        exact congrArg payload.entry (by omega)
      rw [confirmEntries]
      dsimp only
      rw [ih, effect_confirmed, List.range_succ_eq_map, List.map_cons,
        shifted, List.append_assoc, Nat.zero_mul]
      rfl

theorem setState_confirmed (state : NetState) :
    (net.setState state).confirmed = net.confirmed := by
  rw [setState, effect_confirmed]
  exact List.append_nil _

theorem dispatched_confirmed (bytes : List UInt8) :
    (net.effect (.dispatched bytes)).confirmed = net.confirmed := by
  rw [effect_confirmed]
  exact List.append_nil _

theorem dispatchMessage_confirmed_other
    (other : payload.memory 0 ≠ msgInputBatch) :
    (net.dispatchMessage os payload).confirmed = net.confirmed := by
  have begun : (net.effect (.dispatched payload.bytes)).confirmed =
      net.confirmed := dispatched_confirmed payload.bytes
  rw [dispatchMessage, ← begun]
  generalize net.effect (.dispatched payload.bytes) = net
  have ways {c : Prop} [Decidable c] {a b : Net}
      (pos : c → a.confirmed = net.confirmed)
      (neg : ¬ c → b.confirmed = net.confirmed) :
      (if c then a else b).confirmed = net.confirmed :=
    iteInduction (motive := fun after => confirmed after = net.confirmed)
      pos neg
  refine ways (fun _ => rfl) fun _ => ?_
  refine ways (fun _ => setState_confirmed _) fun _ => ?_
  refine ways (fun _ => setState_confirmed _) fun _ => ?_
  refine ways (fun batch => absurd batch other) fun _ => ?_
  refine ways (fun _ => ?_) fun _ => ?_
  · exact ways (fun _ => rfl) fun _ => wsSend_confirmed _
  refine ways (fun _ => setState_confirmed _) fun _ => ?_
  refine ways (fun _ => setState_confirmed _) fun _ => ?_
  refine ways (fun _ => ?_) fun _ => rfl
  exact ways (fun _ => rfl) fun _ => rfl

/-- For any bytes. -/
theorem dispatchMessage_confirmed :
    (net.dispatchMessage os payload).confirmed =
      net.confirmed ++ payload.batch := by
  by_cases some_there : 1 ≤ payload.plen
  · by_cases type : payload.memory 0 = msgInputBatch
    · rw [dispatchMessage_batch some_there type, Payload.batch]
      dsimp only
      by_cases whole : payload.WholeBatch
      · have long := whole.2.2
        rw [if_neg (by omega), if_neg (by omega), if_pos whole,
          confirmEntries_confirmed_range, dispatched_confirmed]
      · have short : ¬ 4 + (payload.memory 3).toNat * 6 ≤ payload.plen :=
          fun long => whole ⟨some_there, type, long⟩
        rw [if_neg whole, List.append_nil]
        split
        next => exact dispatched_confirmed _
        next =>
          rw [if_pos (by omega)]
          exact dispatched_confirmed _
    · have whole : ¬ payload.WholeBatch := fun whole => type whole.2.1
      rw [dispatchMessage_confirmed_other type, Payload.batch, if_neg whole,
        List.append_nil]
  · have whole : ¬ payload.WholeBatch := fun whole => some_there whole.1
    rw [dispatchMessage, if_pos (by omega), effect_confirmed, Payload.batch,
      if_neg whole]
    rfl

end Net

structure RelayedFight (S : Type) where
  net : Net
  fight : SignedFight S

inductive RelayedEvent where
  | dispatch (payload : Payload)
  | tick (localInput : UInt16)

namespace RelayedFight

variable {S : Type} (os : Os) (simulation : Simulation S) (localSlot : Int)

/-- `dispatch_message` calls `rollback_confirm_remote` entry by entry. -/
def step : Machine (RelayedFight S) RelayedEvent
  | client, .dispatch payload =>
      let net := client.net.dispatchMessage os payload
      let calls := net.confirmed.drop client.net.confirmed.length
      { net := net
        fight := (SignedFight.step simulation localSlot).run client.fight
          (calls.map fun (frame, input) => .confirm frame input) }
  | client, .tick localInput =>
      { client with
        fight := SignedFight.step simulation localSlot client.fight
          (.tick localInput) }

def FormsInArray (client : RelayedFight S) : Prop :=
  ∀ index ∈ client.fight.engine.formed, InArray index

/-- The numbers of a whole batch are nonnegative as an `int`, or negative and
a multiple of the ring's size. -/
def FramesFit (_client : RelayedFight S) : RelayedEvent → Prop
  | .dispatch payload => payload.WholeBatch →
      ∀ i < (payload.memory 3).toNat,
        payload.wireFrame (4 + i * 6) < 2 ^ 31 ∨
          fcRollbackFrames ∣ payload.wireFrame (4 + i * 6)
  | .tick _ => True

theorem confirms_formed (fight : SignedFight S)
    (entries : List (Int × UInt16)) :
    ((SignedFight.step simulation localSlot).run fight
        (entries.map fun (frame, input) => .confirm frame input)).engine.formed =
      (entries.map fun entry => ringIndex entry.1).reverse ++
        fight.engine.formed := by
  induction entries generalizing fight with
  | nil => rfl
  | cons entry rest ih =>
      rw [List.map_cons, Machine.run_cons, ih]
      simp [SignedFight.step, SignedEngine.rollbackConfirmRemote_formed]

theorem dispatch_formed (client : RelayedFight S) (payload : Payload) :
    (step os simulation localSlot client
        (.dispatch payload)).fight.engine.formed =
      (payload.batch.map fun entry => ringIndex entry.1).reverse ++
        client.fight.engine.formed := by
  rw [step]
  dsimp only
  rw [Net.dispatchMessage_confirmed, List.drop_left, confirms_formed]

theorem toInt_fits_iff {wire : Nat} (word : wire < 2 ^ 32) :
    0 ≤ toInt wire ∨ (fcRollbackFrames : Int) ∣ toInt wire ↔
      wire < 2 ^ 31 ∨ fcRollbackFrames ∣ wire := by
  rw [toInt, Nat.mod_eq_of_lt word]
  change _ ∨ (128 : Int) ∣ _ ↔ _ ∨ 128 ∣ wire
  split <;> omega

theorem batch_inArray_iff (payload : Payload) :
    (∀ entry ∈ payload.batch, InArray (ringIndex entry.1)) ↔
      (payload.WholeBatch → ∀ i < (payload.memory 3).toNat,
        payload.wireFrame (4 + i * 6) < 2 ^ 31 ∨
          fcRollbackFrames ∣ payload.wireFrame (4 + i * 6)) := by
  have each (i : Nat) :
      InArray (ringIndex (payload.entry (4 + i * 6)).1) ↔
        payload.wireFrame (4 + i * 6) < 2 ^ 31 ∨
          fcRollbackFrames ∣ payload.wireFrame (4 + i * 6) := by
    rw [ringIndex_inArray_iff, Payload.entry_frame]
    exact toInt_fits_iff (payload.wireFrame_lt _)
  rw [Payload.batch]
  split
  next whole =>
    simp only [List.forall_mem_map, List.mem_range, each, whole, true_imp_iff]
  next notWhole =>
    exact iff_of_true (fun _ mem => by cases mem) fun whole => absurd whole notWhole

variable {os simulation localSlot} in
/-- The ticks never leave the array, whatever is marked. -/
theorem step_formsInArray_iff {client : RelayedFight S}
    (inArray : client.FormsInArray) (event : RelayedEvent) :
    (step os simulation localSlot client event).FormsInArray ↔
      client.FramesFit event := by
  cases event with
  | dispatch payload =>
      rw [FormsInArray, dispatch_formed, FramesFit, ← batch_inArray_iff]
      constructor
      · intro all entry mem
        apply all
        exact List.mem_append_left _
          (List.mem_reverse.mpr (List.mem_map.mpr ⟨entry, mem, rfl⟩))
      · intro batch index mem
        rcases List.mem_append.mp mem with new | old
        · obtain ⟨entry, listed, rfl⟩ :=
            List.mem_map.mp (List.mem_reverse.mp new)
          exact batch entry listed
        · exact inArray index old
  | tick localInput =>
      refine iff_of_true (fun index mem => ?_) trivial
      rcases SignedEngine.fightTick_formsInArray simulation localSlot
        (client.fight.currentFrame + 1) localInput client.fight.engine index
        mem with old | new
      · exact inArray index old
      · exact new

def start (net : Net) (currentFrame : Nat) (engine : SignedEngine S) :
    RelayedFight S :=
  ⟨net, .start currentFrame engine⟩

theorem formsInArray_iff_framesFit (net : Net) (currentFrame : Nat)
    (engine : SignedEngine S) (events : List RelayedEvent) :
    (step os simulation localSlot).Always FormsInArray
        (start net currentFrame engine) events ↔
      (step os simulation localSlot).Along FramesFit
        (start net currentFrame engine) events := by
  refine Machine.always_iff_along FormsInArray ?_ (fun _ all => all) ?_ ?_
  · intro client event inArray fits
    exact (step_formsInArray_iff inArray event).mpr fits
  · intro client event inArray unfit inArray'
    exact unfit ((step_formsInArray_iff inArray event).mp inArray')
  · intro index mem
    cases mem

/-- A batch of one entry, for the frame `0xFFFFFFFF`. -/
def minusOne : Payload where
  memory i :=
    ([0x12, 0, 0, 1, 0xFF, 0xFF, 0xFF, 0xFF, 0, 0] : List UInt8)[i]?.getD 0
  room := 10
  plen := 10

theorem minusOne_not_formsInArray :
    ¬ (step fullOnce .unit 0).Always FormsInArray
      (start .initial 0 (.fresh .unit ())) [.dispatch minusOne] := by
  intro always
  have formed : FormsInArray (step fullOnce .unit 0
      (start .initial 0 (.fresh .unit ())) (.dispatch minusOne)) := always.2
  rw [FormsInArray, dispatch_formed] at formed
  exact absurd (formed (-1) (by decide)) (by decide)

end RelayedFight

end FuryClash.Client
