import FuryClash.Data.ListUpdate
import FuryClash.Data.Run

namespace FuryClash.Data

/-! Asynchronous functions and their interleavings. A function runs undisturbed
from one `await` to the next; there any other task may go on first. What it
awaits is a call on the state that the tasks share. -/

inductive Async (Call : Type) (Answer : Call → Type) (α : Type) where
  | done (value : α)
  | await (call : Call) (resume : Answer call → Async Call Answer α)

namespace Async

variable {Call : Type} {Answer : Call → Type} {α β : Type}

def bind : Async Call Answer α → (α → Async Call Answer β) →
    Async Call Answer β
  | .done value, next => next value
  | .await call resume, next => .await call fun answer =>
      (resume answer).bind next

instance : Monad (Async Call Answer) where
  pure := .done
  bind := bind

@[simp] theorem done_bind (value : α) (next : α → Async Call Answer β) :
    (Async.done value).bind next = next value := rfl

end Async

structure Pool (State Call : Type) (Answer : Call → Type) (α : Type) where
  shared : State
  tasks : List (Async Call Answer α)

inductive PoolEvent (Start Env : Type) where
  | start (what : Start)
  | resume (task : Nat) (env : Env)

section

variable {State Call Env Start α β : Type} {Answer : Call → Type}
  (exec : Nat → Env → (call : Call) → State → Answer call × State)
  (code : Nat → Start → Async Call Answer α)

/-- A new task stops before its first call. A task that goes on makes the call
it stands at; the environment decides what the state does not. -/
def Pool.step : Machine (Pool State Call Answer α) (PoolEvent Start Env)
  | pool, .start what =>
      { pool with tasks := pool.tasks ++ [code pool.tasks.length what] }
  | pool, .resume task env =>
      match pool.tasks[task]? with
      | some (.await call resume) =>
          let (answer, shared) := exec task env call pool.shared
          ⟨shared, pool.tasks.set task (resume answer)⟩
      | _ => pool

def Pool.Good (good : State → Call → Prop)
    (pool : Pool State Call Answer α) : PoolEvent Start Env → Prop
  | .start _ => True
  | .resume task _ =>
      match pool.tasks[task]? with
      | some (.await call _) => good pool.shared call
      | _ => True

instance (good : State → Call → Prop)
    [∀ state call, Decidable (good state call)]
    (pool : Pool State Call Answer α) :
    (event : PoolEvent Start Env) → Decidable (pool.Good good event)
  | .start _ => isTrue trivial
  | .resume task _ => by
      unfold Pool.Good
      dsimp only
      split
      · infer_instance
      · infer_instance

theorem Pool.Good.mono {good good' : State → Call → Prop}
    (weaker : ∀ state call, good state call → good' state call)
    {pool : Pool State Call Answer α} {event : PoolEvent Start Env}
    (holds : pool.Good good event) : pool.Good good' event := by
  cases event with
  | start what => trivial
  | resume task env =>
      unfold Pool.Good at holds ⊢
      dsimp only at holds ⊢
      split
      next call _ waits =>
        rw [waits] at holds
        exact weaker _ _ holds
      next => trivial

/-- What holds of the shared state between any two calls, how the state may
change while a task waits, and which calls the tasks make. -/
structure Contract (State Call : Type) where
  valid : State → Prop
  grows : Nat → State → State → Prop
  good : State → Call → Prop
  refl : ∀ task state, grows task state state
  trans : ∀ {task before between after}, grows task before between →
    grows task between after → grows task before after

variable (contract : Contract State Call)

/-- Whatever the others do while it waits, the task keeps the contract with
every call that it makes, and returns with `post`. -/
def Async.Safe (task : Nat) (post : α → State → Prop) :
    Async Call Answer α → State → Prop
  | .done value, state => post value state
  | .await call resume, state =>
      ∀ later, contract.grows task state later → contract.valid later →
        contract.good later call → ∀ env,
          contract.valid (exec task env call later).2 ∧
          (∀ other, other ≠ task →
            contract.grows other later (exec task env call later).2) ∧
          (resume (exec task env call later).1).Safe task post
            (exec task env call later).2

variable {exec code contract} {task : Nat} {post : α → State → Prop}
  {state later : State} {run : Async Call Answer α}

namespace Async

theorem Safe.mono (safe : run.Safe exec contract task post state)
    (stable : ∀ value, post value state → post value later)
    (grows : contract.grows task state later) :
    run.Safe exec contract task post later := by
  cases run with
  | done value => exact stable value safe
  | await call resume =>
      intro last growth
      exact safe last (contract.trans grows growth)

theorem Safe.bind {first : α → State → Prop} {post : β → State → Prop}
    {next : α → Async Call Answer β}
    (safe : run.Safe exec contract task first state)
    (rest : ∀ value later, first value later →
      (next value).Safe exec contract task post later) :
    (run >>= next).Safe exec contract task post state := by
  induction run generalizing state with
  | done value => exact rest value state safe
  | await call resume ih =>
      intro later growth valid good env
      obtain ⟨kept, others, remaining⟩ := safe later growth valid good env
      exact ⟨kept, others, ih _ remaining⟩

end Async

/-- Between two events every task, started or not, is safe. -/
structure Pool.AllSafe (exec : Nat → Env → (call : Call) → State →
      Answer call × State) (code : Nat → Start → Async Call Answer α)
    (contract : Contract State Call) (pool : Pool State Call Answer α) :
    Prop where
  valid : contract.valid pool.shared
  tasks : ∀ task (run : Async Call Answer α), pool.tasks[task]? = some run →
    run.Safe exec contract task (fun _ _ => True) pool.shared
  later : ∀ task, pool.tasks.length ≤ task → ∀ what,
    (code task what).Safe exec contract task (fun _ _ => True) pool.shared

variable {pool : Pool State Call Answer α}

theorem Pool.AllSafe.step (safe : pool.AllSafe exec code contract)
    (event : PoolEvent Start Env) (good : pool.Good contract.good event) :
    (Pool.step exec code pool event).AllSafe exec code contract := by
  cases event with
  | start what =>
      refine ⟨safe.valid, fun task run started => ?_,
        fun task notYet other => safe.later task ?_ other⟩
      · rcases Nat.lt_trichotomy task pool.tasks.length with old | rfl | new
        · rw [Pool.step, List.getElem?_append_left old] at started
          exact safe.tasks task run started
        · rw [Pool.step, List.getElem?_concat_length] at started
          cases started
          exact safe.later _ (Nat.le_refl _) what
        · rw [Pool.step, List.getElem?_eq_none] at started
          · cases started
          · rw [List.length_append, List.length_singleton]
            exact new
      · rw [Pool.step, List.length_append] at notYet
        exact Nat.le_of_add_right_le notYet
  | resume task env =>
      rw [Pool.Good] at good
      rw [Pool.step]
      dsimp only at good ⊢
      split at good
      next call resume held =>
        obtain ⟨valid, others, remaining⟩ := safe.tasks task _ held
          pool.shared (contract.refl ..) safe.valid good env
        refine ⟨valid, fun which run started => ?_,
          fun which notYet what => ?_⟩
        · dsimp only at started
          rw [getElem?_set_of_held held] at started
          split at started
          next same =>
            cases started
            exact same ▸ remaining
          next apart =>
            exact (safe.tasks which run started).mono (fun _ => id)
              (others which (Ne.symm apart))
        · rw [List.length_set] at notYet
          obtain ⟨bound, _⟩ := List.getElem?_eq_some_iff.mp held
          have apart : which ≠ task := by omega
          exact (safe.later which notYet what).mono (fun _ => id)
            (others which apart)
      next => exact safe

/-- If no task that starts in the first state breaks the contract, no run of
good calls does. -/
theorem Pool.always_valid (valid : contract.valid state)
    (safe : ∀ task what, (code task what).Safe exec contract task
      (fun _ _ => True) state)
    {events : List (PoolEvent Start Env)}
    (good : (Pool.step exec code).Along (Pool.Good contract.good)
      ⟨state, []⟩ events) :
    (Pool.step exec code).Always (fun pool => contract.valid pool.shared)
      ⟨state, []⟩ events := by
  refine Machine.Along.always (Pool.AllSafe exec code contract)
    (fun pool event safe good => safe.step event good)
    (fun pool safe => safe.valid) ⟨valid, ?_, fun task _ => safe task⟩ good
  intro task run started
  cases started

end

end FuryClash.Data
