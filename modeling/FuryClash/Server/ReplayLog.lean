import FuryClash.Data.MergedLog
import FuryClash.Server.InputLog
import FuryClash.Slot

namespace FuryClash.Server

open FuryClash.Data

/-! The log that is kept for the replay: what the two players' inputs leave in
it, by the order in which they arrive. -/

abbrev InputCall := Report Slot Nat Nat

abbrev FrameLog := MergedLog Slot Nat Nat

namespace InputLog

def toArray (log : InputLog) : List InputEntry := log.entries

def record (runtime : JsRuntime) (log : InputLog) (call : InputCall) :
    Except JsError InputLog :=
  match call.source with
  | .p1 =>
      log.recordP1 runtime (some (.nat call.key)) (some (.nat call.value))
  | .p2 =>
      log.recordP2 runtime (some (.nat call.key)) (some (.nat call.value))

def recordCalls (runtime : JsRuntime) (calls : List InputCall) :
    Except JsError InputLog :=
  calls.foldlM (record runtime) empty

end InputLog

/-- That player's input for the frame, or the one for the latest earlier frame
that the player sent, or 0. -/
def inputAt (calls : List InputCall) (player : Slot) (frame : Nat) : Nat :=
  MergedLog.valueAt 0 calls player frame

structure RightEntries (calls : List InputCall) (entries : List InputEntry) :
    Prop where
  once : ∀ call ∈ calls, entries.countP (fun entry =>
    JsVal.strictEq entry.frame (some (.nat call.key))) = 1
  only : ∀ entry ∈ entries, ∃ call ∈ calls,
    entry.frame = some (.nat call.key)
  inputs : ∀ entry ∈ entries, ∀ frame, entry.frame = some (.nat frame) →
    entry.p1 = some (.nat (inputAt calls .p1 frame)) ∧
      entry.p2 = some (.nat (inputAt calls .p2 frame))

def RightLog (runtime : JsRuntime) (calls : List InputCall) : Prop :=
  ∃ log, InputLog.recordCalls runtime calls = .ok log ∧
    RightEntries calls log.toArray

def callsOf (inputs : Slot → Nat → Nat) (order : List (Slot × Nat)) :
    List InputCall :=
  order.map fun call => ⟨call.1, call.2, inputs call.1 call.2⟩

def OwnFramesIncrease (order : List (Slot × Nat)) : Prop :=
  ∀ player, (order.filter fun call => decide (call.1 = player)).Pairwise
    fun earlier later => earlier.2 < later.2

instance (order : List (Slot × Nat)) : Decidable (OwnFramesIncrease order) :=
  decidable_of_iff
    (∀ player ∈ [Slot.p1, .p2],
      (order.filter fun call => decide (call.1 = player)).Pairwise
        fun earlier later => earlier.2 < later.2)
    ⟨fun both player => both player (by cases player <;> simp),
      fun all player _ => all player⟩

/-- No call names a smaller frame than an earlier one. -/
def InFrameOrder (order : List (Slot × Nat)) : Prop :=
  order.Pairwise fun earlier later => earlier.2 ≤ later.2

def entryOf (row : LogRow Slot Nat Nat) : InputEntry :=
  ⟨some (.nat row.key), some (.nat (row.values .p1)),
    some (.nat (row.values .p2))⟩

def InputLog.ofFrames (log : FrameLog) : InputLog :=
  ⟨log.rows.map entryOf, some (.nat (log.latest .p1)),
    some (.nat (log.latest .p2))⟩

theorem strictEq_nat (left right : Nat) :
    JsVal.strictEq (some (.nat left)) (some (.nat right)) =
      decide (left = right) := by
  rw [Bool.eq_iff_iff, JsVal.strictEq_nat_iff, decide_eq_true_iff,
    Option.some.injEq, Json.nat_injective.eq_iff]

/-- What `upsert` does for a frame that is a number. -/
theorem upsert_eq {runtime : JsRuntime} {p1 p2 : JsVal}
    {takesP1 takesP2 : Bool} (first : p1.isNonnegative runtime = .ok takesP1)
    (second : p2.isNonnegative runtime = .ok takesP2) (frame : Nat)
    (log : InputLog) :
    log.upsert runtime (some (.nat frame)) p1 p2 = .ok { log with
      entries := match log.entries.getLast? with
        | none => [⟨some (.nat frame), if takesP1 then p1 else log.p1Latest,
            if takesP2 then p2 else log.p2Latest⟩]
        | some last =>
            if JsVal.strictEq last.frame (some (.nat frame)) then
              log.entries.dropLast ++ [⟨last.frame,
                if takesP1 then p1 else last.p1,
                if takesP2 then p2 else last.p2⟩]
            else
              log.entries ++ [⟨some (.nat frame),
                if takesP1 then p1 else log.p1Latest,
                if takesP2 then p2 else log.p2Latest⟩] } := by
  rw [InputLog.upsert, first, second]
  cases last : log.entries.getLast? with
  | none => rfl
  | some entry =>
      cases same : JsVal.strictEq entry.frame (some (.nat frame)) with
      | true => simp [same, Bind.bind, Except.bind, Pure.pure, Except.pure]
      | false => simp [same, Bind.bind, Except.bind, Pure.pure, Except.pure]

theorem record_ofFrames (runtime : JsRuntime) (log : FrameLog)
    (call : InputCall) :
    (InputLog.ofFrames log).record runtime call =
      .ok (.ofFrames (log.record call)) := by
  obtain ⟨player, frame, input⟩ := call
  have taken := InputLog.isNonnegative_nat runtime input
  have skipped := InputLog.isNonnegative_noInput runtime
  cases player with
  | p1 =>
      rw [InputLog.record, InputLog.recordP1, upsert_eq taken skipped,
        MergedLog.record]
      cases held : log.rows.getLast? with
      | none => simp [InputLog.ofFrames, held, entryOf]
      | some last =>
          by_cases same : last.key = frame <;>
            simp [InputLog.ofFrames, held, entryOf, strictEq_nat, same]
  | p2 =>
      rw [InputLog.record, InputLog.recordP2, upsert_eq skipped taken,
        MergedLog.record]
      cases held : log.rows.getLast? with
      | none => simp [InputLog.ofFrames, held, entryOf]
      | some last =>
          by_cases same : last.key = frame <;>
            simp [InputLog.ofFrames, held, entryOf, strictEq_nat, same]

theorem recordCalls_eq (runtime : JsRuntime) (calls : List InputCall) :
    InputLog.recordCalls runtime calls =
      .ok (.ofFrames (MergedLog.recordAll 0 calls)) := by
  induction calls using List.reverseRecOn with
  | nil => rfl
  | append_singleton calls call ih =>
      rw [InputLog.recordCalls] at ih
      rw [InputLog.recordCalls, List.foldlM_append, ih]
      simp [Bind.bind, Except.bind, Pure.pure, Except.pure, record_ofFrames]

theorem entryOf_frame_iff (row : LogRow Slot Nat Nat) (frame : Nat) :
    (entryOf row).frame = some (.nat frame) ↔ row.key = frame := by
  rw [entryOf, Option.some.injEq, Json.nat_injective.eq_iff]

theorem rightEntries_iff {calls : List InputCall}
    {rows : List (LogRow Slot Nat Nat)} :
    RightEntries calls (rows.map entryOf) ↔
      MergedLog.Right 0 calls rows := by
  have counts (frame : Nat) :
      (rows.map entryOf).countP (fun entry =>
          JsVal.strictEq entry.frame (some (.nat frame))) =
        rows.countP fun row => decide (row.key = frame) := by
    rw [List.countP_map]
    exact List.countP_congr fun row _ => by simp [entryOf, strictEq_nat]
  constructor
  · intro right
    refine ⟨fun call mem => ?_, fun row mem => ?_, fun row mem player => ?_⟩
    · rw [← counts]
      exact right.once call mem
    · obtain ⟨call, sent, frame⟩ :=
        right.only _ (List.mem_map_of_mem mem)
      exact ⟨call, sent, ((entryOf_frame_iff ..).mp frame).symm⟩
    · obtain ⟨first, second⟩ :=
        right.inputs _ (List.mem_map_of_mem mem) row.key rfl
      cases player with
      | p1 => exact Json.nat_injective (Option.some.inj first)
      | p2 => exact Json.nat_injective (Option.some.inj second)
  · intro right
    refine ⟨fun call mem => ?_, fun entry mem => ?_, ?_⟩
    · rw [counts]
      exact right.once call mem
    · obtain ⟨row, held, rfl⟩ := List.mem_map.mp mem
      obtain ⟨call, sent, frame⟩ := right.only row held
      exact ⟨call, sent, (entryOf_frame_iff ..).mpr frame.symm⟩
    · intro entry mem frame isFrame
      obtain ⟨row, held, rfl⟩ := List.mem_map.mp mem
      cases (entryOf_frame_iff ..).mp isFrame
      rw [inputAt, inputAt, ← right.values row held, ← right.values row held]
      exact ⟨rfl, rfl⟩

theorem inOrder_callsOf_iff (inputs : Slot → Nat → Nat)
    (order : List (Slot × Nat)) :
    MergedLog.InOrder (callsOf inputs order) ↔ InFrameOrder order := by
  rw [MergedLog.InOrder, callsOf, List.pairwise_map]
  rfl

/-- An input that comes after another one of the same player has a later
frame. -/
theorem OwnFramesIncrease.lt {before after : List (Slot × Nat)}
    {earlier later : Slot × Nat}
    (increase : OwnFramesIncrease (before ++ earlier :: after))
    (mem : later ∈ after) (same : later.1 = earlier.1) :
    earlier.2 < later.2 := by
  have own := increase earlier.1
  rw [List.filter_append, List.filter_cons_of_pos (by simp)] at own
  obtain ⟨_, behind, _⟩ := List.pairwise_append.mp own
  refine (List.pairwise_cons.mp behind).1 later ?_
  exact List.mem_filter.mpr ⟨mem, by simp [same]⟩

def onlyAt (call : Slot × Nat) (player : Slot) (frame : Nat) : Nat :=
  if (player, frame) = call then 1 else 0

/-- An input that overtakes one for an earlier frame is logged for that frame,
where the player has pressed nothing yet. -/
theorem not_timely_of_swap {before after : List (Slot × Nat)}
    {early late : Slot × Nat} (swapped : early.2 < late.2)
    (increase : OwnFramesIncrease (before ++ late :: early :: after)) :
    ¬ MergedLog.Timely 0
      (callsOf (onlyAt late) (before ++ late :: early :: after)) := by
  intro timely
  have sources : early.1 ≠ late.1 := by
    intro same
    have increases := increase.lt List.mem_cons_self same
    omega
  have others (call : InputCall) (mem : call ∈ callsOf (onlyAt late) after)
      (own : call.source = late.1) : call.key ≠ early.2 := by
    obtain ⟨sent, held, rfl⟩ := List.mem_map.mp mem
    have increases := increase.lt (.tail _ held) own
    dsimp only
    omega
  have silent : MergedLog.valueAt 0
      (callsOf (onlyAt late) (before ++ late :: early :: after)) late.1
        early.2 = 0 := by
    refine MergedLog.valueAt_eq_zero fun call sent own bound => ?_
    obtain ⟨_, _, rfl⟩ := List.mem_map.mp sent
    refine if_neg fun isLate => ?_
    rw [← isLate] at swapped
    dsimp only at bound swapped
    omega
  have shape : callsOf (onlyAt late) (before ++ late :: early :: after) =
      callsOf (onlyAt late) before ++
        ⟨late.1, late.2, onlyAt late late.1 late.2⟩ ::
        ⟨early.1, early.2, onlyAt late early.1 early.2⟩ ::
        callsOf (onlyAt late) after := by
    simp [callsOf]
  rw [shape] at timely silent
  have value : 0 = onlyAt late late.1 late.2 :=
    silent.symm.trans (timely.overtaken sources others)
  simp [onlyAt] at value

theorem rightLog_iff_timely {runtime : JsRuntime} {calls : List InputCall} :
    RightLog runtime calls ↔ MergedLog.Timely 0 calls := by
  rw [RightLog, recordCalls_eq, ← MergedLog.right_iff_timely,
    ← rightEntries_iff]
  constructor
  · rintro ⟨log, isLog, right⟩
    cases isLog
    exact right
  · exact fun right => ⟨_, rfl, right⟩

theorem rightLog_of_inFrameOrder (runtime : JsRuntime)
    {order : List (Slot × Nat)} (inFrameOrder : InFrameOrder order)
    (inputs : Slot → Nat → Nat) : RightLog runtime (callsOf inputs order) := by
  have inOrder := (inOrder_callsOf_iff inputs order).mpr inFrameOrder
  exact rightLog_iff_timely.mpr (MergedLog.timely_of_inOrder inOrder)

theorem sameStreams_callsOf {order order' : List (Slot × Nat)}
    (same : ∀ player, order.filter (fun call => decide (call.1 = player)) =
      order'.filter fun call => decide (call.1 = player))
    (inputs : Slot → Nat → Nat) :
    MergedLog.SameStreams (callsOf inputs order) (callsOf inputs order') := by
  intro player
  have pulled (list : List (Slot × Nat)) :
      (callsOf inputs list).filter
          (fun call => decide (call.source = player)) =
        callsOf inputs (list.filter fun call => decide (call.1 = player)) :=
    List.filter_map
  rw [pulled, pulled, same]

/-- The log of a run is right exactly if its calls come in time; whatever the
players press, exactly if the calls come in the order of their frames. Two such
orders of the same frames leave the same log. -/
theorem rightLog_iff_inFrameOrder (runtime : JsRuntime)
    (order : List (Slot × Nat)) (increase : OwnFramesIncrease order) :
    (∀ inputs, RightLog runtime (callsOf inputs order) ↔
      MergedLog.Timely 0 (callsOf inputs order)) ∧
    ((∀ inputs, RightLog runtime (callsOf inputs order)) ↔
      InFrameOrder order) ∧
    ∀ order', InFrameOrder order → InFrameOrder order' →
      (∀ player, order.filter (fun call => decide (call.1 = player)) =
        order'.filter fun call => decide (call.1 = player)) →
      ∀ inputs, (InputLog.recordCalls runtime (callsOf inputs order)).map
          InputLog.toArray =
        (InputLog.recordCalls runtime (callsOf inputs order')).map
          InputLog.toArray := by
  refine ⟨fun _ => rightLog_iff_timely,
    ⟨fun right => ?_, rightLog_of_inFrameOrder runtime⟩, ?_⟩
  · by_contra outOfOrder
    obtain ⟨before, late, early, after, rfl, swapped⟩ :=
      exists_descent Prod.snd outOfOrder
    exact not_timely_of_swap swapped increase
      (rightLog_iff_timely.mp (right _))
  · intro order' inFrameOrder inFrameOrder' same inputs
    have rows : (MergedLog.recordAll 0 (callsOf inputs order)).rows =
        (MergedLog.recordAll 0 (callsOf inputs order')).rows :=
      MergedLog.rows_eq_of_sameStreams (sameStreams_callsOf same inputs)
        ((inOrder_callsOf_iff inputs order).mpr inFrameOrder)
        ((inOrder_callsOf_iff inputs order').mpr inFrameOrder')
    rw [recordCalls_eq, recordCalls_eq, Except.map, Except.map,
      InputLog.toArray, InputLog.toArray, InputLog.ofFrames,
      InputLog.ofFrames, rows]

theorem rightLog_iff_inFrameOrder_two_frames :
    RightLog (.ofTexts []) (callsOf (fun _ frame => frame)
      [(.p1, 1), (.p2, 1), (.p2, 2), (.p1, 2)]) :=
  (rightLog_iff_inFrameOrder (.ofTexts [])
    [(.p1, 1), (.p2, 1), (.p2, 2), (.p1, 2)] (by decide)).2.1.mpr
      (by simp [InFrameOrder]) _

/-- The first player is one frame ahead, and frame 1 gets two entries. -/
theorem not_rightLog_one_ahead :
    OwnFramesIncrease [(.p1, 1), (.p1, 2), (.p2, 1)] ∧
      ¬ RightLog (.ofTexts []) (callsOf (fun _ frame => frame)
        [(.p1, 1), (.p1, 2), (.p2, 1)]) := by
  refine ⟨by decide, fun right => ?_⟩
  have together := (rightLog_iff_timely.mp right).adjoining ⟨.p1, 1, 1⟩
    ⟨.p1, 2, 2⟩ ⟨.p2, 1, 1⟩ (.refl _) rfl
  cases together

end FuryClash.Server
