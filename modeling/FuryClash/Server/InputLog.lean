import FuryClash.Data.JsValue

namespace FuryClash.Server

open FuryClash.Data

/-! `input-log.ts`. The frames and inputs are what the message held, which need
not be numbers. -/

structure InputEntry where
  frame : JsVal
  p1 : JsVal
  p2 : JsVal

structure InputLog where
  entries : List InputEntry
  p1Latest : JsVal
  p2Latest : JsVal

namespace InputLog

def empty : InputLog := ⟨[], some (.nat 0), some (.nat 0)⟩

/-- The argument for the player that the entry is not about. -/
def noInput : JsVal := some (.number (.finite (-1)))

/-- Before the first entry there is no `last`: its frame reads as `undefined`,
and a frame that is `undefined` too makes the assignment to it throw. -/
def upsert (runtime : JsRuntime) (frame p1 p2 : JsVal) (log : InputLog) :
    Except JsError InputLog := do
  let takesP1 ← p1.isNonnegative runtime
  let takesP2 ← p2.isNonnegative runtime
  let fresh : InputEntry :=
    ⟨frame, if takesP1 then p1 else log.p1Latest,
      if takesP2 then p2 else log.p2Latest⟩
  match log.entries.getLast? with
  | none =>
      if JsVal.strictEq none frame then
        if takesP1 || takesP2 then .error .typeError else return log
      else return { log with entries := [fresh] }
  | some last =>
      if JsVal.strictEq last.frame frame then
        let merged : InputEntry :=
          ⟨last.frame, if takesP1 then p1 else last.p1,
            if takesP2 then p2 else last.p2⟩
        return { log with entries := log.entries.dropLast ++ [merged] }
      else return { log with entries := log.entries ++ [fresh] }

def recordP1 (runtime : JsRuntime) (frame input : JsVal) (log : InputLog) :
    Except JsError InputLog :=
  { log with p1Latest := input }.upsert runtime frame input noInput

def recordP2 (runtime : JsRuntime) (frame input : JsVal) (log : InputLog) :
    Except JsError InputLog :=
  { log with p2Latest := input }.upsert runtime frame noInput input

@[simp] theorem isNonnegative_nat (runtime : JsRuntime) (value : Nat) :
    JsVal.isNonnegative runtime (some (.nat value)) = .ok true := by
  have nonnegative : (JsNumber.finite value).nonnegative = true := by
    simp [JsNumber.nonnegative]
  simp [JsVal.isNonnegative, Bind.bind, Except.bind, Pure.pure, Except.pure,
    nonnegative]

@[simp] theorem isNonnegative_noInput (runtime : JsRuntime) :
    JsVal.isNonnegative runtime noInput = .ok false := rfl

/-- Only a frame that is not a number can make the log throw. -/
theorem upsert_nat (runtime : JsRuntime) (frame : Nat) {p1 p2 : JsVal}
    (log : InputLog) {takesP1 takesP2 : Bool}
    (first : p1.isNonnegative runtime = .ok takesP1)
    (second : p2.isNonnegative runtime = .ok takesP2) :
    ∃ log', log.upsert runtime (some (.nat frame)) p1 p2 = .ok log' := by
  cases last : log.entries.getLast? with
  | none =>
      have differs : JsVal.strictEq none (some (.nat frame)) = false := rfl
      simp [upsert, first, second, last, differs, Bind.bind, Except.bind,
        Pure.pure, Except.pure]
  | some entry =>
      cases same : JsVal.strictEq entry.frame (some (.nat frame)) <;>
        simp [upsert, first, second, last, same, Bind.bind, Except.bind,
          Pure.pure, Except.pure]

theorem recordP1_nat (runtime : JsRuntime) (frame input : Nat)
    (log : InputLog) :
    ∃ log', log.recordP1 runtime (some (.nat frame)) (some (.nat input)) =
      .ok log' :=
  upsert_nat runtime frame _ (isNonnegative_nat ..) (isNonnegative_noInput _)

theorem recordP2_nat (runtime : JsRuntime) (frame input : Nat)
    (log : InputLog) :
    ∃ log', log.recordP2 runtime (some (.nat frame)) (some (.nat input)) =
      .ok log' :=
  upsert_nat runtime frame _ (isNonnegative_noInput _) (isNonnegative_nat ..)

end InputLog

end FuryClash.Server
