import FuryClash.Data.Alignment
import FuryClash.Data.Run

namespace FuryClash.Client

open FuryClash.Data

/-! `memory.c`. A `size_t` has 64 bits, and a block is named by its offset from
`base`. -/

/-- `base` is whether `SDL_malloc` has returned memory. -/
structure Arena where
  base : Bool
  offset : UInt64
  capacity : UInt64
  deriving DecidableEq

structure PowerOfTwo where
  value : UInt64
  isPower : ∃ k, value.toNat = 2 ^ k

def eight : PowerOfTwo := ⟨8, 3, rfl⟩

namespace Arena

def arenaInit (capacity : UInt64) (base : Bool) : Arena where
  base := base
  offset := 0
  capacity := if base then capacity else 0

/-- `(offset + align - 1) & ~(align - 1)`. -/
def alignUp (align : UInt64) (a : Arena) : UInt64 :=
  (a.offset + align - 1) &&& ~~~(align - 1)

/-- There is no `NULL` for want of room. -/
def fits (size align : UInt64) (a : Arena) : Bool :=
  !decide (a.alignUp align + size > a.capacity)

/-- Every byte that `memset` writes is one of the arena. -/
def Inside (start size : UInt64) (a : Arena) : Prop :=
  size = 0 ∨ start.toNat + size.toNat ≤ a.capacity.toNat

instance (start size : UInt64) (a : Arena) : Decidable (a.Inside start size) :=
  inferInstanceAs (Decidable (_ ∨ _))

/-- `none` is a call that does not return: its `memset` has left the arena. -/
def arenaAllocAligned (size align : UInt64) (a : Arena) :
    Option (Option UInt64 × Arena) :=
  let aligned := a.alignUp align
  if a.fits size align then
    if a.Inside aligned size then
      some (if a.base then some aligned else none,
        { a with offset := aligned + size })
    else none
  else some (none, a)

def arenaAlloc (size : UInt64) (a : Arena) : Option (Option UInt64 × Arena) :=
  a.arenaAllocAligned size 8

def arenaReset (a : Arena) : Arena := { a with offset := 0 }

end Arena

structure Block where
  start : Nat
  size : Nat
  deriving DecidableEq

def Block.Overlaps (first second : Block) : Prop :=
  ∃ byte, (first.start ≤ byte ∧ byte < first.start + first.size) ∧
    second.start ≤ byte ∧ byte < second.start + second.size

inductive ArenaCall where
  | alloc (size : UInt64)
  | allocAligned (size : UInt64) (align : PowerOfTwo)
  | reset

def ArenaCall.request : ArenaCall → Option (UInt64 × PowerOfTwo)
  | alloc size => some (size, eight)
  | allocAligned size align => some (size, align)
  | reset => none

/-- The arena with the blocks since the last reset. Behind a call that does not
return there are no others. -/
structure ArenaRun where
  arena : Arena
  blocks : List Block
  crashed : Bool

namespace ArenaRun

def start (capacity : UInt64) (base : Bool) : ArenaRun :=
  ⟨.arenaInit capacity base, [], false⟩

def allocated (size : UInt64) (answer : Option (Option UInt64 × Arena))
    (run : ArenaRun) : ArenaRun :=
  match answer with
  | some (some offset, arena) =>
      { run with
        arena := arena, blocks := ⟨offset.toNat, size.toNat⟩ :: run.blocks }
  | some (none, arena) => { run with arena := arena }
  | none => { run with crashed := true }

def call (run : ArenaRun) : ArenaCall → ArenaRun
  | .alloc size => run.allocated size (run.arena.arenaAlloc size)
  | .allocAligned size align =>
      run.allocated size (run.arena.arenaAllocAligned size align.value)
  | .reset => { run with arena := run.arena.arenaReset, blocks := [] }

def step : Machine ArenaRun ArenaCall := fun run call =>
  if run.crashed then run else run.call call

def SoundAnswer (size : UInt64) (align : PowerOfTwo) (run : ArenaRun) :
    Option UInt64 × Arena → Prop
  | (some offset, arena) =>
      align.value.toNat ∣ offset.toNat ∧
        offset.toNat + size.toNat ≤ arena.capacity.toNat ∧
        ∀ block ∈ run.blocks,
          ¬ Block.Overlaps ⟨offset.toNat, size.toNat⟩ block
  | (none, arena) => arena = run.arena

def Returns (run : ArenaRun) (call : ArenaCall) : Prop :=
  run.crashed = false → ∀ size align, call.request = some (size, align) →
    run.arena.arenaAllocAligned size align.value ≠ none

def SoundIfReturned (run : ArenaRun) (call : ArenaCall) : Prop :=
  run.crashed = false → ∀ size align, call.request = some (size, align) →
    ∀ answer, run.arena.arenaAllocAligned size align.value = some answer →
      run.SoundAnswer size align answer

def Sound (run : ArenaRun) (call : ArenaCall) : Prop :=
  run.Returns call ∧ run.SoundIfReturned call

/-- The start of the block, as an unbounded integer. -/
def trueStart (align : PowerOfTwo) (run : ArenaRun) : Nat :=
  roundUp run.arena.offset.toNat align.value.toNat

/-- An empty block whose start has been rounded up to `2^64` sets the arena
back to its start, with all other blocks still in use. -/
def SetBack (run : ArenaRun) : Prop :=
  run.arena.offset = 0 ∧ ∃ block ∈ run.blocks, block.size ≠ 0

/-- The start of the block does not wrap, unless it is empty or refused. -/
def Forward (run : ArenaRun) (call : ArenaCall) : Prop :=
  run.crashed = false → ∀ size align, call.request = some (size, align) →
    size ≠ 0 → run.arena.fits size align.value = true →
      run.trueStart align < 2 ^ 64 ∧ ¬ run.SetBack

/-- Nor does its end. -/
def Unwrapped (run : ArenaRun) (call : ArenaCall) : Prop :=
  run.crashed = false → ∀ size align, call.request = some (size, align) →
    size ≠ 0 → run.arena.fits size align.value = true →
      run.trueStart align + size.toNat < 2 ^ 64 ∧ ¬ run.SetBack

end ArenaRun

namespace Arena

variable {a : Arena} {size : UInt64} {align : PowerOfTwo}

theorem align_pos (align : PowerOfTwo) : 0 < align.value.toNat := by
  obtain ⟨k, power⟩ := align.isPower
  rw [power]
  exact Nat.two_pow_pos k

theorem align_dvd (align : PowerOfTwo) : align.value.toNat ∣ 2 ^ 64 := by
  obtain ⟨k, power⟩ := align.isPower
  have small := align.value.toNat_lt
  rw [power] at small ⊢
  exact Nat.pow_dvd_pow 2 ((Nat.pow_lt_pow_iff_right (by decide)).mp small).le

/-- The offset is rounded up, or wraps around to the start. -/
theorem toNat_alignUp (align : PowerOfTwo) (a : Arena) :
    (a.alignUp align.value).toNat =
      if roundUp a.offset.toNat align.value.toNat < 2 ^ 64 then
        roundUp a.offset.toNat align.value.toNat
      else 0 := by
  obtain ⟨k, power⟩ := align.isPower
  have positive := align_pos align
  have small := a.offset.toNat_lt
  have one : (1 : UInt64).toNat = 1 := rfl
  have mask : (align.value - 1).toBitVec.toNat = 2 ^ k - 1 := by
    have representable := align.value.toNat_lt
    rw [UInt64.toNat_toBitVec, UInt64.toNat_sub, one]
    omega
  have sum : (a.offset + align.value - 1).toNat =
      (a.offset.toNat + align.value.toNat - 1) % 2 ^ 64 := by
    rw [UInt64.toNat_sub, UInt64.toNat_add, one]
    omega
  have cleared : (a.alignUp align.value).toNat =
      (a.offset.toNat + align.value.toNat - 1) % 2 ^ 64 / 2 ^ k * 2 ^ k := by
    rw [alignUp, ← UInt64.toNat_toBitVec, UInt64.toBitVec_and,
      UInt64.toBitVec_not, toNat_and_not_mask mask, UInt64.toNat_toBitVec, sum]
  rw [cleared, ← power]
  by_cases wraps : 2 ^ 64 ≤ a.offset.toNat + align.value.toNat - 1
  · have beyond := le_roundUp_of_dvd (align_dvd align) wraps
    have rest : (a.offset.toNat + align.value.toNat - 1) % 2 ^ 64 <
        align.value.toNat := by
      omega
    rw [if_neg beyond.not_gt, Nat.div_eq_of_lt rest, Nat.zero_mul]
  · have inside := Nat.not_le.mp wraps
    have below := (roundUp_le a.offset.toNat align.value.toNat).trans_lt inside
    rw [if_pos below, Nat.mod_eq_of_lt inside]
    rfl

theorem dvd_alignUp (align : PowerOfTwo) (a : Arena) :
    align.value.toNat ∣ (a.alignUp align.value).toNat := by
  rw [toNat_alignUp]
  split
  next => exact dvd_roundUp ..
  next => exact Nat.dvd_zero _

theorem alignUp_of_start (align : PowerOfTwo) (start : a.offset = 0) :
    (a.alignUp align.value).toNat = 0 := by
  have zero : a.offset.toNat = 0 := by
    rw [start]
    rfl
  rw [toNat_alignUp, zero, roundUp_zero (align_pos align)]
  exact ite_self 0

theorem fits_iff : a.fits size align.value = true ↔
    ((a.alignUp align.value).toNat + size.toNat) % 2 ^ 64 ≤
      a.capacity.toNat := by
  rw [fits, Bool.not_eq_true', decide_eq_false_iff_not, gt_iff_lt,
    UInt64.not_lt, UInt64.le_iff_toNat_le, UInt64.toNat_add]

theorem fits_of_empty (fits : a.fits size align.value = true)
    (empty : size = 0) :
    (a.alignUp align.value).toNat ≤ a.capacity.toNat := by
  have room := fits_iff.mp fits
  have small := (a.alignUp align.value).toNat_lt
  rwa [empty, UInt64.toNat_zero, Nat.add_zero, Nat.mod_eq_of_lt small] at room

theorem arenaAllocAligned_eq_none :
    a.arenaAllocAligned size align.value = none ↔
      a.fits size align.value = true ∧
        ¬ a.Inside (a.alignUp align.value) size := by
  rw [arenaAllocAligned]
  by_cases fits : a.fits size align.value = true
  · by_cases inside : a.Inside (a.alignUp align.value) size
    · simp [fits, inside]
    · simp [fits, inside]
  · simp [fits]

/-- The room that the test grants is there, if the call returns. -/
theorem inside_of_some {answer : Option UInt64 × Arena}
    (returned : a.arenaAllocAligned size align.value = some answer)
    (fits : a.fits size align.value = true) :
    a.Inside (a.alignUp align.value) size ∧
      answer = (if a.base then some (a.alignUp align.value) else none,
        { a with offset := a.alignUp align.value + size }) := by
  rw [arenaAllocAligned, if_pos fits] at returned
  split at returned
  next inside => exact ⟨inside, (Option.some.inj returned).symm⟩
  next => cases returned

end Arena

namespace ArenaRun

/-- Unless the arena has been set back, the blocks lie below its offset. The
first that is not empty starts with the arena. -/
structure Inv (run : ArenaRun) : Prop where
  within : run.arena.offset.toNat ≤ run.arena.capacity.toNat
  base : run.arena.base = false → run.arena.capacity = 0
  below : run.arena.offset ≠ 0 → ∀ block ∈ run.blocks, block.size ≠ 0 →
    block.start + block.size ≤ run.arena.offset.toNat
  first : (∃ block ∈ run.blocks, block.size ≠ 0) →
    ∃ block ∈ run.blocks, block.start = 0 ∧ block.size ≠ 0
  used : run.arena.offset ≠ 0 → ∃ block ∈ run.blocks, block.size ≠ 0

variable {run : ArenaRun} {call : ArenaCall} {size : UInt64}
  {align : PowerOfTwo} {answer : Option UInt64 × Arena}

theorem start_inv (capacity : UInt64) (base : Bool) :
    (start capacity base).Inv where
  within := Nat.zero_le _
  base none := if_neg (by rw [show base = false from none]; decide)
  below moved := absurd rfl moved
  first := by
    rintro ⟨block, mem, _⟩
    cases mem
  used moved := absurd rfl moved

theorem step_of_request (live : run.crashed = false)
    (request : call.request = some (size, align)) :
    step run call =
      run.allocated size (run.arena.arenaAllocAligned size align.value) := by
  rw [step, live, if_neg Bool.false_ne_true]
  cases call with
  | alloc size' => cases request; rfl
  | allocAligned size' align' => cases request; rfl
  | reset => cases request

/-- Without memory only an empty block fits, and `NULL` stands for it. -/
theorem Inv.nullBase (inv : run.Inv) (null : run.arena.base = false)
    (fits : run.arena.fits size align.value = true) :
    size = 0 ∧ run.arena.alignUp align.value + size = run.arena.offset := by
  have within := inv.within
  have room := Arena.fits_iff.mp fits
  have small := size.toNat_lt
  rw [inv.base null, UInt64.toNat_zero] at within room
  have start : run.arena.offset = 0 :=
    UInt64.toNat_inj.mp (Nat.le_zero.mp within)
  have aligned := Arena.alignUp_of_start align start
  rw [aligned, Nat.zero_add, Nat.mod_eq_of_lt small] at room
  have empty : size = 0 := UInt64.toNat_inj.mp (Nat.le_zero.mp room)
  refine ⟨empty, ?_⟩
  apply UInt64.toNat_inj.mp
  rw [empty, UInt64.add_zero, aligned, start]
  rfl

theorem Inv.block (inv : run.Inv)
    (returned : run.arena.arenaAllocAligned size align.value = some answer)
    (fits : run.arena.fits size align.value = true) (filled : size ≠ 0) :
    answer = (some (run.arena.alignUp align.value),
        { run.arena with
          offset := run.arena.alignUp align.value + size }) ∧
      (run.arena.alignUp align.value).toNat + size.toNat ≤
        run.arena.capacity.toNat := by
  obtain ⟨inside, rfl⟩ := Arena.inside_of_some returned fits
  have base : run.arena.base = true := by
    by_contra null
    exact filled (inv.nullBase (Bool.eq_false_iff.mpr null) fits).1
  rw [if_pos base]
  exact ⟨rfl, inside.resolve_left filled⟩

theorem alignUp_of_unwrapped (unwrapped : run.trueStart align < 2 ^ 64) :
    (run.arena.alignUp align.value).toNat = run.trueStart align :=
  (Arena.toNat_alignUp align run.arena).trans (if_pos unwrapped)

theorem alignUp_of_wrapped (wrapped : ¬ run.trueStart align < 2 ^ 64) :
    (run.arena.alignUp align.value).toNat = 0 :=
  (Arena.toNat_alignUp align run.arena).trans (if_neg wrapped)

theorem le_alignUp (unwrapped : run.trueStart align < 2 ^ 64) :
    run.arena.offset.toNat ≤ (run.arena.alignUp align.value).toNat := by
  rw [alignUp_of_unwrapped unwrapped]
  exact le_roundUp (Arena.align_pos align)

theorem Inv.filled (inv : run.Inv)
    (returned : run.arena.arenaAllocAligned size align.value = some answer)
    (fits : run.arena.fits size align.value = true) (filled : size ≠ 0)
    (unwrapped : run.trueStart align < 2 ^ 64) (onward : ¬ run.SetBack) :
    Inv (run.allocated size (some answer)) := by
  obtain ⟨rfl, room⟩ := inv.block returned fits filled
  have up := le_alignUp unwrapped
  have small := run.arena.capacity.toNat_lt
  have next : (run.arena.alignUp align.value + size).toNat =
      (run.arena.alignUp align.value).toNat + size.toNat := by
    rw [UInt64.toNat_add, Nat.mod_eq_of_lt (room.trans_lt small)]
  have nonempty : size.toNat ≠ 0 := fun empty =>
    filled (UInt64.toNat_inj.mp empty)
  refine ⟨?_, inv.base, ?_, fun _ => ?_, fun _ => ?_⟩
  · rw [allocated, next]
    exact room
  · intro _ block mem used
    rw [allocated, next]
    rcases List.mem_cons.mp mem with rfl | old
    · exact le_rfl
    · have moved : run.arena.offset ≠ 0 := fun start =>
        onward ⟨start, block, old, used⟩
      have below := inv.below moved block old used
      omega
  · by_cases start : run.arena.offset = 0
    · exact ⟨_, List.mem_cons_self,
        Arena.alignUp_of_start align start, nonempty⟩
    · obtain ⟨block, mem, first⟩ := inv.first (inv.used start)
      exact ⟨block, List.mem_cons_of_mem _ mem, first⟩
  · exact ⟨_, List.mem_cons_self, nonempty⟩

theorem Inv.empty (inv : run.Inv)
    (returned : run.arena.arenaAllocAligned 0 align.value = some answer)
    (fits : run.arena.fits 0 align.value = true) :
    Inv (run.allocated 0 (some answer)) := by
  have room := Arena.fits_of_empty fits rfl
  have moved (offset : run.arena.alignUp align.value ≠ 0) :
      run.arena.offset ≠ 0 ∧
        run.arena.offset.toNat ≤ (run.arena.alignUp align.value).toNat := by
    have unwrapped : run.trueStart align < 2 ^ 64 := by
      by_contra wrapped
      exact offset (UInt64.toNat_inj.mp (alignUp_of_wrapped wrapped))
    refine ⟨fun start => offset ?_, le_alignUp unwrapped⟩
    exact UInt64.toNat_inj.mp (Arena.alignUp_of_start align start)
  obtain ⟨_, rfl⟩ := Arena.inside_of_some returned fits
  by_cases base : run.arena.base = true
  · rw [if_pos base, UInt64.add_zero]
    have old {block : Block}
        (mem : block ∈ (⟨(run.arena.alignUp align.value).toNat, 0⟩ : Block) ::
          run.blocks) (used : block.size ≠ 0) : block ∈ run.blocks := by
      rcases List.mem_cons.mp mem with rfl | old
      · exact absurd rfl used
      · exact old
    refine ⟨room, inv.base, ?_, ?_, ?_⟩
    · intro offset block mem used
      obtain ⟨moved, up⟩ := moved offset
      exact (inv.below moved block (old mem used) used).trans up
    · rintro ⟨block, mem, used⟩
      obtain ⟨first, mem', first'⟩ := inv.first ⟨block, old mem used, used⟩
      exact ⟨first, List.mem_cons_of_mem _ mem', first'⟩
    · intro offset
      obtain ⟨block, mem, used⟩ := inv.used (moved offset).1
      exact ⟨block, List.mem_cons_of_mem _ mem, used⟩
  · have null := Bool.eq_false_iff.mpr base
    rw [if_neg base, (inv.nullBase null fits).2]
    exact inv

theorem step_inv (inv : run.Inv) (forward : run.Forward call) :
    (step run call).Inv := by
  by_cases live : run.crashed = false
  · cases request : call.request with
    | none =>
        cases call with
        | reset =>
            rw [step, live, if_neg Bool.false_ne_true]
            refine ⟨Nat.zero_le _, inv.base, fun moved => absurd rfl moved, ?_,
              fun moved => absurd rfl moved⟩
            rintro ⟨block, mem, _⟩
            cases mem
        | alloc size => cases request
        | allocAligned size align => cases request
    | some asked =>
        obtain ⟨size, align⟩ := asked
        rw [step_of_request live request]
        cases returned : run.arena.arenaAllocAligned size align.value with
        | none => exact ⟨inv.within, inv.base, inv.below, inv.first, inv.used⟩
        | some answer =>
            by_cases fits : run.arena.fits size align.value = true
            · by_cases empty : size = 0
              · subst empty
                exact inv.empty returned fits
              · obtain ⟨unwrapped, onward⟩ :=
                  forward live size align request empty fits
                exact inv.filled returned fits empty unwrapped onward
            · rw [Arena.arenaAllocAligned, if_neg fits] at returned
              cases returned
              exact inv
  · rw [step, if_pos (Bool.not_eq_false _ ▸ live)]
    exact inv

theorem soundIfReturned_of_forward (inv : run.Inv)
    (forward : run.Forward call) : run.SoundIfReturned call := by
  intro live size align request answer returned
  by_cases fits : run.arena.fits size align.value = true
  · by_cases empty : size = 0
    · obtain ⟨_, rfl⟩ := Arena.inside_of_some returned fits
      have room := Arena.fits_of_empty fits empty
      by_cases base : run.arena.base = true
      · rw [if_pos base, empty]
        refine ⟨Arena.dvd_alignUp align run.arena, room, ?_⟩
        rintro block _ ⟨byte, ⟨start, stop⟩, _⟩
        exact absurd start (Nat.not_le.mpr stop)
      · have null := Bool.eq_false_iff.mpr base
        rw [if_neg base, (inv.nullBase null fits).2]
        rfl
    · obtain ⟨unwrapped, onward⟩ := forward live size align request empty fits
      obtain ⟨rfl, room⟩ := inv.block returned fits empty
      have up := le_alignUp unwrapped
      refine ⟨Arena.dvd_alignUp align run.arena, room, ?_⟩
      rintro block mem ⟨byte, ⟨start, _⟩, start', stop⟩
      have used : block.size ≠ 0 := by omega
      have moved : run.arena.offset ≠ 0 := fun start =>
        onward ⟨start, block, mem, used⟩
      have below := inv.below moved block mem used
      dsimp only at start
      omega
  · rw [Arena.arenaAllocAligned, if_neg fits] at returned
    cases returned
    rfl

/-- A block at the start of the arena takes the first byte a second time. -/
theorem overlaps_first (inv : run.Inv) (used : ∃ block ∈ run.blocks,
    block.size ≠ 0) (nonempty : size.toNat ≠ 0) :
    ∃ block ∈ run.blocks, Block.Overlaps ⟨0, size.toNat⟩ block := by
  obtain ⟨block, mem, start, used⟩ := inv.first used
  refine ⟨block, mem, 0, ⟨le_rfl, ?_⟩, start.le, ?_⟩
  · dsimp only
    omega
  · omega

/-- A block that starts with the arena is written: it does not reach its end. -/
theorem inside_of_start (start : (run.arena.alignUp align.value).toNat = 0)
    (fits : run.arena.fits size align.value = true) :
    run.arena.Inside (run.arena.alignUp align.value) size := by
  have room := Arena.fits_iff.mp fits
  rw [start, Nat.zero_add, Nat.mod_eq_of_lt size.toNat_lt] at room
  right
  rwa [start, Nat.zero_add]

theorem not_soundIfReturned (inv : run.Inv) (wrapped : ¬ run.Forward call) :
    ¬ run.SoundIfReturned call := by
  intro sound
  apply wrapped
  intro live size align request filled fits
  have nonempty : size.toNat ≠ 0 := fun empty =>
    filled (UInt64.toNat_inj.mp empty)
  have fresh (start : (run.arena.alignUp align.value).toNat = 0) :
      ¬ ∃ block ∈ run.blocks, block.size ≠ 0 := by
    intro used
    have inside := inside_of_start start fits
    have returned := sound live size align request _
      (by rw [Arena.arenaAllocAligned, if_pos fits, if_pos inside])
    have base : run.arena.base = true := by
      by_contra null
      exact filled (inv.nullBase (Bool.eq_false_iff.mpr null) fits).1
    rw [if_pos base] at returned
    obtain ⟨block, mem, overlaps⟩ := overlaps_first inv used nonempty
    rw [← start] at overlaps
    exact returned.2.2 block mem overlaps
  constructor
  · by_contra beyond
    have moved : run.arena.offset ≠ 0 := by
      intro start
      apply beyond
      rw [trueStart, start, UInt64.toNat_zero,
        roundUp_zero (Arena.align_pos align)]
      decide
    exact fresh (alignUp_of_wrapped beyond) (inv.used moved)
  · rintro ⟨start, used⟩
    exact fresh (Arena.alignUp_of_start align start) used

theorem unwrapped_iff : run.Unwrapped call ↔
    run.Returns call ∧ run.Forward call := by
  constructor
  · intro unwrapped
    have forward : run.Forward call := by
      intro live size align request filled fits
      obtain ⟨short, onward⟩ := unwrapped live size align request filled fits
      exact ⟨by omega, onward⟩
    refine ⟨fun live size align request out => ?_, forward⟩
    obtain ⟨fits, outside⟩ := Arena.arenaAllocAligned_eq_none.mp out
    obtain ⟨filled, beyond⟩ := not_or.mp outside
    obtain ⟨short, _⟩ := unwrapped live size align request filled fits
    obtain ⟨start, _⟩ := forward live size align request filled fits
    have room := Arena.fits_iff.mp fits
    rw [alignUp_of_unwrapped start] at room beyond
    rw [Nat.mod_eq_of_lt short] at room
    exact beyond room
  · rintro ⟨returns, forward⟩ live size align request filled fits
    obtain ⟨start, onward⟩ := forward live size align request filled fits
    refine ⟨?_, onward⟩
    have inside : run.arena.Inside (run.arena.alignUp align.value) size := by
      by_contra outside
      exact returns live size align request
        (Arena.arenaAllocAligned_eq_none.mpr ⟨fits, outside⟩)
    have room := inside.resolve_left filled
    rw [alignUp_of_unwrapped start] at room
    exact room.trans_lt run.arena.capacity.toNat_lt

theorem sound_iff (inv : run.Inv) :
    run.SoundIfReturned call ↔ run.Forward call :=
  ⟨fun sound => by_contra fun wrapped => not_soundIfReturned inv wrapped sound,
    soundIfReturned_of_forward inv⟩

/-- Every allocation of a run returns and is sound, if and only if none wraps
that is neither empty nor refused. For those that return it is enough that no
start does. -/
theorem along_sound_iff (capacity : UInt64) (base : Bool)
    (calls : List ArenaCall) :
    (step.Along Sound (start capacity base) calls ↔
      step.Along Unwrapped (start capacity base) calls) ∧
    (step.Along SoundIfReturned (start capacity base) calls ↔
      step.Along Forward (start capacity base) calls) := by
  have legal : step.Along (fun _ _ => True) (start capacity base) calls :=
    Machine.along_of_forall fun _ _ => trivial
  constructor
  · exact Machine.along_iff_along Inv
      (fun _ _ inv _ unwrapped => step_inv inv (unwrapped_iff.mp unwrapped).2)
      (fun _ _ inv _ unwrapped =>
        (unwrapped_iff.mp unwrapped).imp_right (sound_iff inv).mpr)
      (fun _ _ inv _ wrapped sound =>
        wrapped (unwrapped_iff.mpr (sound.imp_right (sound_iff inv).mp)))
      (start_inv capacity base) legal
  · exact Machine.along_iff_along Inv
      (fun _ _ inv _ forward => step_inv inv forward)
      (fun _ _ inv _ forward => (sound_iff inv).mpr forward)
      (fun _ _ inv _ wrapped sound => wrapped ((sound_iff inv).mp sound))
      (start_inv capacity base) legal

/-- The end of the second block wraps around to the start, so that its bytes
are not there. In an arena of more than half of the address space the start
does, and the block is returned over the first one. -/
theorem not_along_sound :
    (Arena.arenaAllocAligned 18446744073709551608 8 ⟨true, 8, 64⟩ = none ∧
      ¬ step.Along Sound (start 64 true)
        [.alloc 8, .alloc 18446744073709551608]) ∧
    ¬ step.Along SoundIfReturned (start 9223372036854775824 true)
      [.alloc 9223372036854775816,
        .allocAligned 8 ⟨9223372036854775808, 63, rfl⟩] := by
  refine ⟨⟨by decide, ?_⟩, ?_⟩
  · rintro ⟨_, ⟨returns, _⟩, _⟩
    exact returns (by decide) 18446744073709551608 eight rfl (by decide)
  · rintro ⟨_, sound, _⟩
    have answered := sound (by decide) 8 ⟨9223372036854775808, 63, rfl⟩ rfl
      (some 0, ⟨true, 8, 9223372036854775824⟩) (by decide)
    exact answered.2.2 ⟨0, 9223372036854775816⟩ (by decide)
      ⟨0, by decide, by decide⟩

end ArenaRun

end FuryClash.Client
