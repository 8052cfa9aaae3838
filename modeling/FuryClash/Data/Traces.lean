import FuryClash.Data.Tasks

namespace FuryClash.Data

/-! One asynchronous function from its start to its return: the calls that it
makes when they are answered anyhow, and when it has the state to itself. -/

abbrev Made (Call : Type) (Answer : Call → Type) := (call : Call) × Answer call

structure Finished (State Call : Type) (Answer : Call → Type) (α : Type) where
  made : List (Made Call Answer)
  value : α
  state : State

namespace Async

variable {State Call Env α β : Type} {Answer : Call → Type}

section

variable (oracle : Nat → (call : Call) → Answer call)

/-- The oracle is asked with the number of the calls made so far. -/
def trace : Nat → Async Call Answer α → List (Made Call Answer) × α
  | _, .done value => ([], value)
  | n, .await call resume =>
      let rest := trace (n + 1) (resume (oracle n call))
      (⟨call, oracle n call⟩ :: rest.1, rest.2)

@[simp] theorem trace_await (n : Nat) (call : Call)
    (resume : Answer call → Async Call Answer α) :
    (Async.await call resume).trace oracle n =
      (⟨call, oracle n call⟩ ::
          ((resume (oracle n call)).trace oracle (n + 1)).1,
        ((resume (oracle n call)).trace oracle (n + 1)).2) := rfl

theorem trace_bind (n : Nat) (run : Async Call Answer α)
    (next : α → Async Call Answer β) :
    (run >>= next).trace oracle n =
      ((run.trace oracle n).1 ++
          ((next (run.trace oracle n).2).trace oracle
            (n + (run.trace oracle n).1.length)).1,
        ((next (run.trace oracle n).2).trace oracle
          (n + (run.trace oracle n).1.length)).2) := by
  induction run generalizing n with
  | done value => rfl
  | await call resume ih =>
      have shifted := ih (oracle n call) (n + 1)
      have behind : n + 1 + ((resume (oracle n call)).trace oracle
          (n + 1)).1.length = n + (((resume (oracle n call)).trace oracle
            (n + 1)).1.length + 1) := by omega
      rw [behind] at shifted
      simp only [trace_await, List.cons_append, List.length_cons]
      change (⟨call, oracle n call⟩ ::
        ((resume (oracle n call) >>= next).trace oracle (n + 1)).1,
          ((resume (oracle n call) >>= next).trace oracle (n + 1)).2) = _
      rw [shifted]

/-- The calls depend on the answers to come only. -/
theorem trace_congr {other : Nat → (call : Call) → Answer call} {n : Nat}
    (same : ∀ m, n ≤ m → oracle m = other m) (run : Async Call Answer α) :
    run.trace oracle n = run.trace other n := by
  induction run generalizing n with
  | done value => rfl
  | await call resume ih =>
      rw [trace_await, trace_await, same n (Nat.le_refl n),
        ih _ fun m later => same m (Nat.le_of_succ_le later)]

end

def Only (kind : Call → Prop) : Async Call Answer α → Prop
  | .done _ => True
  | .await call resume => kind call ∧ ∀ answer, (resume answer).Only kind

theorem Only.bind {kind : Call → Prop} {run : Async Call Answer α}
    {next : α → Async Call Answer β} (first : run.Only kind)
    (rest : ∀ value, (next value).Only kind) : (run >>= next).Only kind := by
  induction run with
  | done value => exact rest value
  | await call resume ih =>
      exact ⟨first.1, fun answer => ih answer (first.2 answer)⟩

theorem Only.trace {kind : Call → Prop} {run : Async Call Answer α}
    (only : run.Only kind) {oracle : Nat → (call : Call) → Answer call}
    {n : Nat} {made : Made Call Answer} (call : made ∈ (run.trace oracle n).1) :
    kind made.1 := by
  induction run generalizing n with
  | done value => cases call
  | await asked resume ih =>
      rw [trace_await] at call
      rcases List.mem_cons.mp call with rfl | later
      · exact only.1
      · exact ih _ (only.2 _) later

variable (exec : Env → (call : Call) → State → Answer call × State)
  (envs : Nat → Env)

def alone : Nat → Async Call Answer α → State → Finished State Call Answer α
  | _, .done value, state => ⟨[], value, state⟩
  | n, .await call resume, state =>
      let done := exec (envs n) call state
      let rest := alone (n + 1) (resume done.1) done.2
      { rest with made := ⟨call, done.1⟩ :: rest.made }

/-- A run by itself is answered like any other. -/
theorem alone_trace (n : Nat) (run : Async Call Answer α) (state : State) :
    ∃ oracle, run.trace oracle n =
      ((run.alone exec envs n state).made,
        (run.alone exec envs n state).value) := by
  induction run generalizing n state with
  | done value => exact ⟨fun m call => (exec (envs m) call state).1, rfl⟩
  | await call resume ih =>
      obtain ⟨oracle, traced⟩ := ih (exec (envs n) call state).1 (n + 1)
        (exec (envs n) call state).2
      let now : Nat → (call : Call) → Answer call := fun m call =>
        if m = n then (exec (envs n) call state).1 else oracle m call
      have first : now n call = (exec (envs n) call state).1 := if_pos rfl
      have later : (resume (exec (envs n) call state).1).trace now (n + 1) =
          (resume (exec (envs n) call state).1).trace oracle (n + 1) := by
        refine trace_congr now (fun m behind => ?_) _
        exact funext fun call => if_neg (by omega)
      refine ⟨now, ?_⟩
      rw [trace_await, first, later, traced]
      rfl

/-- What every call of a run keeps, the run keeps. -/
theorem alone_keeps {kept : State → β} {kind : Call → Prop}
    (keeps : ∀ env call state, kind call →
      kept (exec env call state).2 = kept state)
    {n : Nat} {run : Async Call Answer α} {state : State}
    (harmless : ∀ made ∈ (run.alone exec envs n state).made, kind made.1) :
    kept (run.alone exec envs n state).state = kept state := by
  induction run generalizing n state with
  | done value => rfl
  | await call resume ih =>
      have rest := ih (exec (envs n) call state).1
        fun made later => harmless made (List.mem_cons_of_mem _ later)
      exact rest.trans (keeps _ _ _ (harmless _ List.mem_cons_self))

end Async

end FuryClash.Data
