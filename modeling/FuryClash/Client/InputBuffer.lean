import FuryClash.Data.Ring
import FuryClash.Data.Run

namespace FuryClash.Client

open FuryClash.Data

/-! `input_buffer.c`. A slot does not know which frame it has been filled
for. -/

def inputBufSize : Nat := 256

structure InputBuffer where
  inputs : Ring 256 UInt16
  confirmed : Ring 256 Bool
  baseFrame : Int

structure Put where
  frame : Int
  input : UInt16

/-- `(frame - base_frame) % INPUT_BUF_SIZE`. -/
def slotOf (baseFrame frame : Int) : Int :=
  (frame - baseFrame).tmod inputBufSize

namespace InputBuffer

def ibufInit (startFrame : Int) : InputBuffer where
  inputs := ⟨fun _ => 0⟩
  confirmed := ⟨fun _ => false⟩
  baseFrame := startFrame

def ibufPut (frame : Int) (input : UInt16) (ib : InputBuffer) :
    InputBuffer :=
  let slot := slotOf ib.baseFrame frame
  if slot < 0 then ib
  else
    { ib with
      inputs := ib.inputs.set slot.toNat input
      confirmed := ib.confirmed.set slot.toNat true }

def ibufGet (frame : Int) (ib : InputBuffer) : UInt16 :=
  let slot := slotOf ib.baseFrame frame
  if slot < 0 then 0 else ib.inputs.get slot.toNat

def ibufIsConfirmed (frame : Int) (ib : InputBuffer) : Bool :=
  let slot := slotOf ib.baseFrame frame
  if slot < 0 then false else ib.confirmed.get slot.toNat

def step : Machine InputBuffer Put
  | ib, put => ib.ibufPut put.frame put.input

/-- The last input put for the frame. -/
def lastFor (frame : Int) (puts : List Put) : Option UInt16 :=
  ((puts.filter fun put => put.frame = frame).getLast?).map Put.input

def lastIn (startFrame frame : Int) (puts : List Put) : Option UInt16 :=
  ((puts.filter fun put => slotOf startFrame put.frame =
    slotOf startFrame frame).getLast?).map Put.input

/-- What is confirmed for the frame has been put for it, and is the last that
has been. -/
def Faithful (startFrame : Int) (puts : List Put) (frame : Int) : Prop :=
  (step.run (ibufInit startFrame) puts).ibufIsConfirmed frame = true →
    lastFor frame puts =
      some ((step.run (ibufInit startFrame) puts).ibufGet frame)

def Unaliased (startFrame : Int) (puts : List Put) (frame : Int) : Prop :=
  0 ≤ slotOf startFrame frame → ∀ input ∈ lastIn startFrame frame puts,
    lastFor frame puts = some input

variable {ib : InputBuffer} {puts : List Put} {startFrame frame : Int}

theorem slotOf_lt (baseFrame frame : Int) : slotOf baseFrame frame < 256 :=
  Int.tmod_lt_of_pos _ (by decide)

theorem sameCell_iff {frame other : Int} (baseFrame : Int)
    (inside : 0 ≤ slotOf baseFrame frame)
    (inside' : 0 ≤ slotOf baseFrame other) :
    Fin.ofNat 256 (slotOf baseFrame frame).toNat =
        Fin.ofNat 256 (slotOf baseFrame other).toNat ↔
      slotOf baseFrame frame = slotOf baseFrame other := by
  have below := slotOf_lt baseFrame frame
  have below' := slotOf_lt baseFrame other
  constructor
  · intro same
    have toNat := Ring.eq_of_sameCell (by omega) (by omega) same
    omega
  · intro same
    rw [same]

theorem step_baseFrame (ib : InputBuffer) (put : Put) :
    (step ib put).baseFrame = ib.baseFrame := by
  rw [step, ibufPut]
  split <;> rfl

theorem run_baseFrame (ib : InputBuffer) (puts : List Put) :
    (step.run ib puts).baseFrame = ib.baseFrame :=
  Machine.run_invariant
    (fun ib' : InputBuffer => ib'.baseFrame = ib.baseFrame)
    (fun ib' put same => (step_baseFrame ib' put).trans same) rfl puts

theorem step_read (inside : 0 ≤ slotOf ib.baseFrame frame) (put : Put) :
    (step ib put).ibufGet frame =
        (if slotOf ib.baseFrame put.frame = slotOf ib.baseFrame frame then
          put.input else ib.ibufGet frame) ∧
      (step ib put).ibufIsConfirmed frame =
        (if slotOf ib.baseFrame put.frame = slotOf ib.baseFrame frame then
          true else ib.ibufIsConfirmed frame) := by
  have read := inside.not_gt
  rw [ibufGet, ibufIsConfirmed, step_baseFrame, step, ibufPut]
  by_cases ignored : slotOf ib.baseFrame put.frame < 0
  · have apart : slotOf ib.baseFrame put.frame ≠ slotOf ib.baseFrame frame := by
      omega
    simp only [if_pos ignored, if_neg apart]
    exact ⟨rfl, rfl⟩
  · have inside' := Int.not_lt.mp ignored
    have cell := sameCell_iff ib.baseFrame inside inside'
    simp only [if_neg ignored, if_neg read, Ring.get_set, cell, ibufGet,
      ibufIsConfirmed, eq_comm, and_self]

theorem lastIn_cons (put : Put) (rest : List Put) :
    lastIn startFrame frame (put :: rest) =
      (lastIn startFrame frame rest).or
        (if slotOf startFrame put.frame = slotOf startFrame frame then
          some put.input else none) := by
  rw [lastIn, List.filter_cons, lastIn]
  simp only [decide_eq_true_eq]
  split
  next same =>
    rw [List.getLast?_cons, Option.map_some]
    cases (rest.filter _).getLast? with
    | none => rfl
    | some last => rfl
  next apart => rw [Option.or_none]

theorem run_read (inside : 0 ≤ slotOf ib.baseFrame frame)
    (puts : List Put) :
    (step.run ib puts).ibufGet frame =
        (lastIn ib.baseFrame frame puts).getD (ib.ibufGet frame) ∧
      (step.run ib puts).ibufIsConfirmed frame =
        ((lastIn ib.baseFrame frame puts).isSome ||
          ib.ibufIsConfirmed frame) := by
  induction puts generalizing ib with
  | nil => exact ⟨rfl, rfl⟩
  | cons put rest ih =>
      have same := step_baseFrame ib put
      obtain ⟨get, confirmed⟩ := step_read inside put
      rw [← same] at inside
      obtain ⟨getRest, confirmedRest⟩ := ih inside
      rw [Machine.run_cons, getRest, confirmedRest, get, confirmed, same,
        lastIn_cons]
      cases lastIn ib.baseFrame frame rest with
      | none =>
          split
          next => exact ⟨rfl, rfl⟩
          next => exact ⟨rfl, rfl⟩
      | some input => exact ⟨rfl, rfl⟩

theorem faithful_iff (startFrame : Int) (puts : List Put) (frame : Int) :
    Faithful startFrame puts frame ↔ Unaliased startFrame puts frame := by
  rw [Faithful, Unaliased]
  by_cases inside : 0 ≤ slotOf startFrame frame
  · obtain ⟨get, confirmed⟩ :=
      @run_read (ibufInit startFrame) frame inside puts
    have empty : (ibufInit startFrame).ibufIsConfirmed frame = false :=
      if_neg inside.not_gt
    rw [get, confirmed, empty, Bool.or_false]
    change ((lastIn startFrame frame puts).isSome = true →
      lastFor frame puts = some ((lastIn startFrame frame puts).getD _)) ↔ _
    cases lastIn startFrame frame puts with
    | none =>
        exact iff_of_true (fun filled => by cases filled)
          fun _ _ mem => by cases mem
    | some input =>
        constructor
        · rintro faithful _ _ ⟨⟩
          exact faithful rfl
        · exact fun unaliased _ => unaliased inside input rfl
  · have outside : slotOf
        (step.run (ibufInit startFrame) puts).baseFrame frame < 0 := by
      rw [run_baseFrame]
      exact Int.not_le.mp inside
    rw [ibufIsConfirmed, if_pos outside]
    exact iff_of_true (fun confirmed => by cases confirmed)
      fun inside' => absurd inside' inside

/-- A frame that has not arrived yet is taken for the one that was in its slot
256 frames before. -/
theorem not_faithful :
    ¬ ∀ (startFrame : Int) (puts : List Put) (frame : Int),
      Faithful startFrame puts frame := by
  intro faithful
  cases faithful 0 [⟨0, 5⟩] 256 (by decide)

end InputBuffer

end FuryClash.Client
