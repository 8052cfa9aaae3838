import FuryClash.Data.Run
import FuryClash.Gameplay.Fighter
import Mathlib.Algebra.Order.Field.Basic
import Mathlib.Tactic.Linarith

namespace FuryClash.Client

open FuryClash.Data FuryClash.Gameplay

/-! `gameloop.c` and the fixed-step loop of `main.c`. The times are exact: a
`double` is the rational number that the source computes. -/

def fcMaxFrameSkip : Nat := 5

structure GameLoop where
  accumulator : ℚ
  tickDt : ℚ
  lastCounter : UInt64
  perfFreq : UInt64
  currentFrame : Nat
  running : Bool

namespace GameLoop

def gameloopInit (counter freq : UInt64) : GameLoop where
  accumulator := 0
  tickDt := fcTickDt
  lastCounter := counter
  perfFreq := freq
  currentFrame := 0
  running := true

def gameloopBeginFrame (now : UInt64) (gl : GameLoop) : GameLoop × ℚ :=
  let dt := ((now - gl.lastCounter).toNat : ℚ) / (gl.perfFreq.toNat : ℚ)
  let dt := if dt > 1 / 20 then 1 / 20 else dt
  ({ gl with lastCounter := now, accumulator := gl.accumulator + dt }, dt)

def gameloopShouldTick (gl : GameLoop) : Bool × GameLoop :=
  if gl.accumulator ≥ gl.tickDt then
    (true,
      { gl with
        accumulator := gl.accumulator - gl.tickDt
        currentFrame := gl.currentFrame + 1 })
  else (false, gl)

def gameloopRenderAlpha (gl : GameLoop) : ℚ := gl.accumulator / gl.tickDt

end GameLoop

/-- The frames for which the body of the fixed-step loop has been executed, and
those for which it has not, although `gameloop_should_tick` has counted them. -/
structure Host where
  gameLoop : GameLoop
  simulated : List Nat
  skipped : List Nat

namespace Host

def start (counter freq : UInt64) : Host where
  gameLoop := .gameloopInit counter freq
  simulated := []
  skipped := []

/-- `while (gameloop_should_tick(&g_loop) && ticks < FC_MAX_FRAME_SKIP)`, when
`FC_MAX_FRAME_SKIP - ticks` is `left`. -/
def fixedStep : (left : Nat) → Host → Host
  | left, host =>
      match host.gameLoop.gameloopShouldTick with
      | (false, gl) => { host with gameLoop := gl }
      | (true, gl) =>
          match left with
          | 0 =>
              { host with
                gameLoop := gl
                skipped := host.skipped ++ [gl.currentFrame] }
          | left + 1 =>
              fixedStep left
                { host with
                  gameLoop := gl
                  simulated := host.simulated ++ [gl.currentFrame] }

/-- One turn of the main loop, at a reading of the performance counter. -/
def step : Machine Host UInt64
  | host, now =>
      fixedStep fcMaxFrameSkip
        { host with gameLoop := (host.gameLoop.gameloopBeginFrame now).1 }

/-- Every frame that has been counted has been simulated, and less than a tick
is left to be blended. -/
structure EveryFrame (host : Host) : Prop where
  simulated : host.simulated = List.range' 1 host.gameLoop.currentFrame
  skipped : host.skipped = []
  nonneg : 0 ≤ host.gameLoop.accumulator
  less : host.gameLoop.accumulator < host.gameLoop.tickDt
  alpha : 0 ≤ host.gameLoop.gameloopRenderAlpha ∧
    host.gameLoop.gameloopRenderAlpha < 1

/-- Inside of a turn of the main loop, `left` ticks before the limit. -/
structure Counting (left : Nat) (host : Host) : Prop where
  simulated : host.simulated = List.range' 1 host.gameLoop.currentFrame
  skipped : host.skipped = []
  nonneg : 0 ≤ host.gameLoop.accumulator
  less : host.gameLoop.accumulator < (left + 1) * host.gameLoop.tickDt
  tickDt : host.gameLoop.tickDt = fcTickDt

variable {host : Host} {left : Nat}

theorem Counting.everyFrame (counting : host.Counting 0) :
    host.EveryFrame := by
  have positive : 0 < host.gameLoop.tickDt := by
    rw [counting.tickDt, fcTickDt]
    norm_num
  have less := counting.less
  rw [Nat.cast_zero, zero_add, one_mul] at less
  refine ⟨counting.simulated, counting.skipped, counting.nonneg, less, ?_, ?_⟩
  · exact div_nonneg counting.nonneg positive.le
  · exact (div_lt_one positive).mpr less

theorem fixedStep_counting (counting : host.Counting left) :
    (fixedStep left host).Counting 0 := by
  induction left generalizing host with
  | zero =>
      have less := counting.less
      rw [Nat.cast_zero, zero_add, one_mul] at less
      rw [fixedStep, GameLoop.gameloopShouldTick, if_neg less.not_ge]
      exact counting
  | succ left ih =>
      rw [fixedStep, GameLoop.gameloopShouldTick]
      by_cases due : host.gameLoop.accumulator ≥ host.gameLoop.tickDt
      · rw [if_pos due]
        have less := counting.less
        rw [Nat.cast_succ] at less
        refine ih ⟨?_, counting.skipped, sub_nonneg.mpr due, ?_,
          counting.tickDt⟩
        · dsimp only
          rw [counting.simulated, List.range'_1_concat, Nat.add_comm 1]
        · dsimp only
          linarith
      · rw [if_neg due]
        have less := not_le.mp due
        refine { counting with less := ?_ }
        dsimp only
        rwa [Nat.cast_zero, zero_add, one_mul]

/-- The unsigned difference is never negative, and a spike lasts three ticks
at most. -/
theorem gameloopBeginFrame_dt (now : UInt64) (gl : GameLoop) :
    0 ≤ (gl.gameloopBeginFrame now).2 ∧
      (gl.gameloopBeginFrame now).2 ≤ 3 * fcTickDt := by
  rw [GameLoop.gameloopBeginFrame, fcTickDt]
  dsimp only
  split
  next => norm_num
  next short =>
    refine ⟨div_nonneg (Nat.cast_nonneg _) (Nat.cast_nonneg _), ?_⟩
    exact (not_lt.mp short).trans (by norm_num)

theorem gameloopBeginFrame_counting (counting : host.Counting 0)
    (now : UInt64) :
    Counting fcMaxFrameSkip
      { host with
        gameLoop := (host.gameLoop.gameloopBeginFrame now).1 } := by
  obtain ⟨nonneg, short⟩ := gameloopBeginFrame_dt now host.gameLoop
  have less := counting.less
  have tickDt := counting.tickDt
  rw [Nat.cast_zero, zero_add, one_mul, tickDt] at less
  have some : 0 < fcTickDt := by norm_num [fcTickDt]
  have added : (host.gameLoop.gameloopBeginFrame now).1.accumulator =
      host.gameLoop.accumulator + (host.gameLoop.gameloopBeginFrame now).2 :=
    rfl
  refine ⟨counting.simulated, counting.skipped, ?_, ?_, tickDt⟩
  · exact add_nonneg counting.nonneg nonneg
  · dsimp only
    rw [added]
    change _ < ((fcMaxFrameSkip : ℚ) + 1) * host.gameLoop.tickDt
    rw [tickDt, fcMaxFrameSkip]
    push_cast
    linarith

theorem start_counting (counter freq : UInt64) :
    (start counter freq).Counting 0 := by
  refine ⟨rfl, rfl, le_rfl, ?_, rfl⟩
  norm_num [start, GameLoop.gameloopInit, fcTickDt]

theorem always_everyFrame (counter freq : UInt64) (counters : List UInt64) :
    step.Always EveryFrame (start counter freq) counters :=
  Machine.always_of_invariant (Counting 0)
    (fun _ now counting =>
      fixedStep_counting (gameloopBeginFrame_counting counting now))
    (fun _ counting => counting.everyFrame) (start_counting counter freq)
    counters

end Host

end FuryClash.Client
