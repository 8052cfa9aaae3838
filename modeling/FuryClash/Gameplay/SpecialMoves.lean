import FuryClash.Data.Ring
import FuryClash.Data.Run
import FuryClash.Gameplay.Fighter

namespace FuryClash.Gameplay

open FuryClash.Data

/-! `special_moves.c`. The history of directions is a ring, which is read
backwards from its head. -/

inductive MotionCmd where
  | none
  | qcf
  | qcb
  | dp
  | rdp
  | chargeF
  | chargeU
  | mc360
  deriving DecidableEq

/-- The direction on the number pad, for a fighter who faces right. -/
def inputToNumpad (input : UInt16) (facing : Int) : UInt8 :=
  let up := Fighter.pressed input 0
  let down := Fighter.pressed input 1
  let back := if facing > 0 then Fighter.pressed input 2
    else Fighter.pressed input 3
  let fwd := if facing > 0 then Fighter.pressed input 3
    else Fighter.pressed input 2
  if down && fwd then 3
  else if down && back then 1
  else if up && fwd then 9
  else if up && back then 7
  else if down then 2
  else if up then 8
  else if fwd then 6
  else if back then 4
  else 5

structure MotionDetector where
  dirHistory : Ring 30 UInt8
  head : Int
  chargeLeftFrames : Int
  chargeDownFrames : Int

namespace MotionDetector

def motionDetectorInit : MotionDetector where
  dirHistory := ⟨fun _ => 5⟩
  head := 0
  chargeLeftFrames := 0
  chargeDownFrames := 0

def motionDetectorPush (input : UInt16) (facing : Int)
    (md : MotionDetector) : MotionDetector :=
  let np := inputToNumpad input facing
  { dirHistory := md.dirHistory.set md.head.toNat np
    head := (md.head + 1).tmod 30
    chargeLeftFrames :=
      if np = 4 ∨ np = 1 ∨ np = 7 then md.chargeLeftFrames + 1 else 0
    chargeDownFrames :=
      if np = 2 ∨ np = 1 ∨ np = 3 then md.chargeDownFrames + 1 else 0 }

/-- `dir_history[((head - 1 - i) + 30) % 30]`. -/
def back (md : MotionDetector) (i : Nat) : UInt8 :=
  md.dirHistory.get (((md.head - 1 - i) + 30).tmod 30).toNat

/-- The loop of `find_sequence`, `left` frames before the end of the window. -/
def matchedFrom (md : MotionDetector) (seq : List UInt8) :
    (left i matched : Nat) → Nat
  | 0, _, matched => matched
  | left + 1, i, matched =>
      if matched < seq.length then
        if seq[seq.length - 1 - matched]? = some (md.back i) then
          matchedFrom md seq left (i + 1) (matched + 1)
        else matchedFrom md seq left (i + 1) matched
      else matched

def findSequence (seq : List UInt8) (window : Nat) (md : MotionDetector) :
    Bool :=
  decide (md.matchedFrom seq window 0 0 = seq.length)

def qcf : List UInt8 := [2, 3, 6]
def qcb : List UInt8 := [2, 1, 4]
def dp : List UInt8 := [6, 2, 3]
def rdp : List UInt8 := [4, 2, 1]

def motionDetectorCheck (md : MotionDetector) : MotionCmd :=
  if md.findSequence qcf 12 then .qcf
  else if md.findSequence dp 15 then .dp
  else if md.findSequence qcb 12 then .qcb
  else if md.findSequence rdp 15 then .rdp
  else if md.chargeLeftFrames = 0 then
    if md.back 1 = 6 then .chargeF else .none
  else .none

structure Push where
  input : UInt16
  facing : Int

def Push.direction (push : Push) : UInt8 :=
  inputToNumpad push.input push.facing

def step : Machine MotionDetector Push
  | md, push => md.motionDetectorPush push.input push.facing

def after (pushes : List Push) : MotionDetector :=
  step.run motionDetectorInit pushes

def directions (pushes : List Push) : List UInt8 :=
  pushes.map Push.direction

/-- The last `window` directions, with neutral before the first. -/
def lastDirections (window : Nat) (dirs : List UInt8) : List UInt8 :=
  (List.replicate window 5 ++ dirs).drop dirs.length

def IsBack (direction : UInt8) : Prop :=
  direction = 4 ∨ direction = 1 ∨ direction = 7

instance (direction : UInt8) : Decidable (IsBack direction) :=
  inferInstanceAs (Decidable (_ ∨ _))

def IsForward (direction : UInt8) : Prop :=
  direction = 6 ∨ direction = 3 ∨ direction = 9

/-- The sequence is in the window, with other directions between. -/
def Found (seq : List UInt8) (window : Nat) (dirs : List UInt8) : Prop :=
  seq.Sublist (lastDirections window dirs)

instance (seq : List UInt8) (window : Nat) (dirs : List UInt8) :
    Decidable (Found seq window dirs) :=
  inferInstanceAs (Decidable (List.Sublist _ _))

/-- Forty frames of holding back, and directly behind them forward. -/
def Charged (dirs : List UInt8) : Prop :=
  ∃ before held dir rest, dirs = before ++ held ++ dir :: rest ∧
    40 ≤ held.length ∧ (∀ dir ∈ held, IsBack dir) ∧ IsForward dir

/-- Not back, forward one frame before, and none of the motions. How long back
has been held before that does not matter. -/
structure Released (dirs : List UInt8) : Prop where
  motionless : ¬ Found qcf 12 dirs ∧ ¬ Found dp 15 dirs ∧
    ¬ Found qcb 12 dirs ∧ ¬ Found rdp 15 dirs
  last : ∀ dir ∈ dirs.getLast?, ¬ IsBack dir
  forward : dirs.reverse[1]? = some 6

/-- What the detector knows about the directions. -/
structure Recalls (md : MotionDetector) (dirs : List UInt8) : Prop where
  head : md.head = (dirs.length % 30 : Nat)
  back : ∀ i < 30, md.back i = dirs.reverse[i]?.getD 5
  charge : 0 ≤ md.chargeLeftFrames
  charging : md.chargeLeftFrames = 0 ↔ ∀ dir ∈ dirs.getLast?, ¬ IsBack dir

variable {md : MotionDetector} {dirs : List UInt8}

theorem back_of_head {count : Nat} (head : md.head = (count % 30 : Nat))
    {i : Nat} (recent : i < 30) :
    md.back i = md.dirHistory.get (count + 29 - i) := by
  have index : (((md.head - 1 - i) + 30).tmod 30).toNat =
      (count + 29 - i) % 30 := by
    rw [head, Int.tmod_eq_emod_of_nonneg (by omega)]
    omega
  rw [back, index]
  exact congrArg md.dirHistory.cells (Fin.ext (Nat.mod_mod _ _))

theorem motionDetectorInit_recalls : motionDetectorInit.Recalls [] where
  head := rfl
  back _ _ := rfl
  charge := le_rfl
  charging := iff_of_true rfl fun _ mem => by cases mem

theorem motionDetectorPush_recalls (recalls : md.Recalls dirs)
    (input : UInt16) (facing : Int) :
    (md.motionDetectorPush input facing).Recalls
      (dirs ++ [inputToNumpad input facing]) := by
  have next : (md.motionDetectorPush input facing).head =
      ((dirs.length + 1) % 30 : Nat) := by
    change (md.head + 1).tmod 30 = _
    rw [recalls.head, Int.tmod_eq_emod_of_nonneg (by omega)]
    omega
  have here : Fin.ofNat 30 md.head.toNat = Fin.ofNat 30 dirs.length := by
    rw [recalls.head]
    exact Fin.ext (Nat.mod_mod _ _)
  refine ⟨?_, fun i recent => ?_, ?_, ?_⟩
  · rw [next, List.length_append, List.length_singleton]
  · rw [back_of_head next recent, motionDetectorPush]
    dsimp only
    rw [Ring.get_set, here, List.reverse_concat]
    cases i with
    | zero =>
        rw [if_pos (Fin.ext (by simp [Fin.ofNat]; omega))]
        rfl
    | succ i =>
        have other : Fin.ofNat 30 (dirs.length + 1 + 29 - (i + 1)) ≠
            Fin.ofNat 30 dirs.length := by
          intro same
          have values := congrArg Fin.val same
          simp only [Fin.ofNat] at values
          omega
        have before := recalls.back i (by omega)
        rw [back_of_head recalls.head (by omega)] at before
        rw [if_neg other, List.getElem?_cons_succ, ← before]
        congr 1
        omega
  · have charge := recalls.charge
    rw [motionDetectorPush]
    dsimp only
    split
    next => omega
    next => exact le_rfl
  · have charge := recalls.charge
    rw [motionDetectorPush, List.getLast?_concat]
    simp only [Option.mem_some_iff, forall_eq']
    split
    next held => exact iff_of_false (by omega) fun other => other held
    next other => exact iff_of_true rfl other

theorem after_recalls (pushes : List Push) :
    (after pushes).Recalls (directions pushes) :=
  Machine.run_history Recalls Push.direction
    (fun _ _ push recalls =>
      motionDetectorPush_recalls recalls push.input push.facing)
    motionDetectorInit_recalls pushes

/-! The scan takes what it finds first, which leaves the most for the rest of
the sequence. -/

theorem matchedFrom_eq_iff (md : MotionDetector) (seq : List UInt8)
    (left i : Nat) {matched : Nat} (within : matched ≤ seq.length) :
    md.matchedFrom seq left i matched = seq.length ↔
      (seq.reverse.drop matched).Sublist
        ((List.range' i left).map md.back) := by
  induction left generalizing i matched with
  | zero =>
      rw [matchedFrom, List.range'_zero, List.map_nil, List.sublist_nil,
        List.drop_eq_nil_iff, List.length_reverse]
      omega
  | succ left ih =>
      rw [matchedFrom]
      split
      next more =>
        have wanted : seq.reverse.drop matched =
            seq[seq.length - 1 - matched] :: seq.reverse.drop (matched + 1) := by
          have more' : matched < seq.reverse.length := by
            rwa [List.length_reverse]
          rw [List.drop_eq_getElem_cons more', List.getElem_reverse]
        rw [wanted, List.range'_succ, List.map_cons]
        split
        next found =>
          obtain ⟨_, same⟩ := List.getElem?_eq_some_iff.mp found
          rw [ih (i + 1) more, same, List.cons_sublist_cons]
        next missed =>
          rw [ih (i + 1) within, wanted, List.sublist_cons_iff]
          refine (or_iff_left fun starts => ?_).symm
          obtain ⟨rest, starts, _⟩ := starts
          injection starts with same
          exact missed (List.getElem?_eq_some_iff.mpr ⟨by omega, same⟩)
      next done =>
        have all : matched = seq.length := by omega
        have none : seq.reverse.drop matched = [] := by
          rw [List.drop_eq_nil_iff, List.length_reverse]
          omega
        rw [none]
        exact iff_of_true all (List.nil_sublist _)

theorem reverse_lastDirections (window : Nat) (dirs : List UInt8) :
    (lastDirections window dirs).reverse =
      (dirs.reverse ++ List.replicate window 5).take window := by
  rw [lastDirections, List.reverse_drop, List.reverse_append,
    List.reverse_replicate, List.length_append, List.length_replicate,
    Nat.add_sub_cancel]

theorem Recalls.window (recalls : md.Recalls dirs) {window : Nat}
    (held : window ≤ 30) :
    (List.range' 0 window).map md.back =
      (lastDirections window dirs).reverse := by
  rw [reverse_lastDirections]
  apply List.ext_getElem?
  intro i
  rw [List.getElem?_map, List.getElem?_take]
  split
  next within =>
    rw [List.getElem?_range' within, Nat.zero_add, Nat.one_mul,
      Option.map_some, recalls.back i (by omega), List.getElem?_append]
    split
    next recent => rw [List.getElem?_eq_getElem recent, Option.getD_some]
    next older =>
      rw [List.getElem?_eq_none (by omega), List.getElem?_replicate,
        if_pos (by omega), Option.getD_none]
  next beyond =>
    rw [List.getElem?_eq_none (by rw [List.length_range']; omega)]
    rfl

theorem Recalls.findSequence_iff (recalls : md.Recalls dirs)
    (seq : List UInt8) {window : Nat} (held : window ≤ 30) :
    md.findSequence seq window = true ↔ Found seq window dirs := by
  rw [Found, findSequence, decide_eq_true_iff,
    matchedFrom_eq_iff md seq window 0 (Nat.zero_le _), List.drop_zero,
    recalls.window held, List.reverse_sublist]

theorem Recalls.check (recalls : md.Recalls dirs) :
    (md.motionDetectorCheck = .qcf ↔ Found qcf 12 dirs) ∧
      (md.motionDetectorCheck = .dp ↔
        ¬ Found qcf 12 dirs ∧ Found dp 15 dirs) ∧
      (md.motionDetectorCheck = .qcb ↔
        ¬ Found qcf 12 dirs ∧ ¬ Found dp 15 dirs ∧ Found qcb 12 dirs) ∧
      (md.motionDetectorCheck = .rdp ↔
        ¬ Found qcf 12 dirs ∧ ¬ Found dp 15 dirs ∧ ¬ Found qcb 12 dirs ∧
          Found rdp 15 dirs) ∧
      (md.motionDetectorCheck = .chargeF ↔ Released dirs) := by
  have forward : md.back 1 = 6 ↔ dirs.reverse[1]? = some 6 := by
    rw [recalls.back 1 (by decide)]
    cases dirs.reverse[1]? with
    | none => exact iff_of_false (by decide) fun six => by cases six
    | some dir => rw [Option.getD_some, Option.some_inj]
  have released : Released dirs ↔
      (¬ Found qcf 12 dirs ∧ ¬ Found dp 15 dirs ∧ ¬ Found qcb 12 dirs ∧
        ¬ Found rdp 15 dirs) ∧ md.chargeLeftFrames = 0 ∧ md.back 1 = 6 := by
    rw [recalls.charging, forward]
    exact ⟨fun ⟨motionless, last, forward⟩ => ⟨motionless, last, forward⟩,
      fun ⟨motionless, last, forward⟩ => ⟨motionless, last, forward⟩⟩
  rw [released, motionDetectorCheck]
  simp only [recalls.findSequence_iff _ (by decide : 12 ≤ 30),
    recalls.findSequence_iff _ (by decide : 15 ≤ 30)]
  split_ifs with first second third fourth uncharged six
  all_goals simp_all

/-- Of the motions in their windows the first one is reported. -/
theorem motionDetectorCheck_iff (pushes : List Push) :
    ((after pushes).motionDetectorCheck = .qcf ↔
        Found qcf 12 (directions pushes)) ∧
      ((after pushes).motionDetectorCheck = .dp ↔
        ¬ Found qcf 12 (directions pushes) ∧
          Found dp 15 (directions pushes)) ∧
      ((after pushes).motionDetectorCheck = .qcb ↔
        ¬ Found qcf 12 (directions pushes) ∧
          ¬ Found dp 15 (directions pushes) ∧
          Found qcb 12 (directions pushes)) ∧
      ((after pushes).motionDetectorCheck = .rdp ↔
        ¬ Found qcf 12 (directions pushes) ∧
          ¬ Found dp 15 (directions pushes) ∧
          ¬ Found qcb 12 (directions pushes) ∧
          Found rdp 15 (directions pushes)) := by
  obtain ⟨qcf, dp, qcb, rdp, _⟩ := (after_recalls pushes).check
  exact ⟨qcf, dp, qcb, rdp⟩

example : (after [⟨2, 1⟩, ⟨0, 1⟩, ⟨10, 1⟩, ⟨8, 1⟩]).motionDetectorCheck =
    .qcf := by decide

/-- `charge_left_frames` is compared with `0` only. -/
theorem chargeF_charged_iff (pushes : List Push) :
    ((after pushes).motionDetectorCheck = .chargeF →
        Charged (directions pushes)) ↔
      (Released (directions pushes) → Charged (directions pushes)) := by
  obtain ⟨_, _, _, _, chargeF⟩ := (after_recalls pushes).check
  rw [chargeF]

theorem Charged.length_le (charged : Charged dirs) : 41 ≤ dirs.length := by
  obtain ⟨before, held, dir, rest, rfl, enough, _⟩ := charged
  simp only [List.length_append, List.length_cons]
  omega

/-- Forward, and back to neutral. -/
theorem not_chargeF_charged :
    ¬ ∀ pushes : List Push,
      (after pushes).motionDetectorCheck = .chargeF →
        Charged (directions pushes) := by
  intro charged
  have short := (charged [⟨8, 1⟩, ⟨0, 1⟩] (by decide)).length_le
  exact absurd short (by decide)

end MotionDetector

end FuryClash.Gameplay
