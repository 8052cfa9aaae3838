import Mathlib.Data.List.Basic

namespace FuryClash.Data

universe u v w

/-! Deterministic machines driven by a list of events. Whatever the schedule
decides (which message arrives, which timer fires, which task goes on) is an
event, so that a statement about every list of events is a statement about
every run. -/

abbrev Machine (State : Type u) (Event : Type v) := State → Event → State

namespace Machine

variable {State : Type u} {Event : Type v} {Other : Type w}

def run (step : Machine State Event) (state : State)
    (events : List Event) : State :=
  events.foldl step state

/-- Every event of the run meets `good` in the state in which it is taken. -/
def Along (step : Machine State Event) (good : State → Event → Prop) :
    State → List Event → Prop
  | _, [] => True
  | state, event :: rest =>
      good state event ∧ Along step good (step state event) rest

/-- Every state of the run, the first and the last included, meets `safe`. -/
def Always (step : Machine State Event) (safe : State → Prop) :
    State → List Event → Prop
  | state, [] => safe state
  | state, event :: rest =>
      safe state ∧ Always step safe (step state event) rest

variable {step : Machine State Event} {good : State → Event → Prop}
  {safe : State → Prop} {state : State} {events : List Event}

@[simp] theorem run_cons (event : Event) (rest : List Event) :
    step.run state (event :: rest) = step.run (step state event) rest := rfl

@[simp] theorem run_append (first second : List Event) :
    step.run state (first ++ second) =
      step.run (step.run state first) second :=
  List.foldl_append

@[simp] theorem along_cons (event : Event) (rest : List Event) :
    step.Along good state (event :: rest) ↔
      good state event ∧ step.Along good (step state event) rest := Iff.rfl

theorem along_append (first second : List Event) :
    step.Along good state (first ++ second) ↔ step.Along good state first ∧
      step.Along good (step.run state first) second := by
  induction first generalizing state with
  | nil => exact (iff_of_eq (true_and _)).symm
  | cons event rest ih =>
      rw [List.cons_append, along_cons, along_cons, ih, and_assoc]
      rfl

theorem Along.mono {good' : State → Event → Prop}
    (weaker : ∀ state event, good state event → good' state event)
    (along : step.Along good state events) :
    step.Along good' state events := by
  induction events generalizing state with
  | nil => trivial
  | cons event rest ih => exact ⟨weaker _ _ along.1, ih along.2⟩

theorem along_of_mem
    (all : ∀ event ∈ events, ∀ state, good state event) :
    step.Along good state events := by
  induction events generalizing state with
  | nil => trivial
  | cons event rest ih =>
      obtain ⟨first, others⟩ := List.forall_mem_cons.mp all
      exact ⟨first state, ih others⟩

theorem along_of_forall (all : ∀ state event, good state event) :
    step.Along good state events :=
  along_of_mem fun event _ state => all state event

theorem Along.and {good' : State → Event → Prop}
    (first : step.Along good state events)
    (second : step.Along good' state events) :
    step.Along (fun state event => good state event ∧ good' state event)
      state events := by
  induction events generalizing state with
  | nil => trivial
  | cons event rest ih =>
      exact ⟨⟨first.1, second.1⟩, ih first.2 second.2⟩

instance decidableAlong [∀ state event, Decidable (good state event)] :
    (state : State) → (events : List Event) →
      Decidable (step.Along good state events)
  | _, [] => isTrue trivial
  | state, event :: rest =>
      haveI := decidableAlong (step state event) rest
      inferInstanceAs (Decidable (good state event ∧ _))

theorem Always.first (always : step.Always safe state events) :
    safe state := by
  cases events with
  | nil => exact always
  | cons event rest => exact always.1

theorem Always.last (always : step.Always safe state events) :
    safe (step.run state events) := by
  induction events generalizing state with
  | nil => exact always
  | cons event rest ih => exact ih always.2

theorem Always.mono {safe' : State → Prop}
    (weaker : ∀ state, safe state → safe' state)
    (always : step.Always safe state events) :
    step.Always safe' state events := by
  induction events generalizing state with
  | nil => exact weaker _ always
  | cons event rest ih => exact ⟨weaker _ always.1, ih always.2⟩

theorem Along.invariant (Inv : State → Prop)
    (preserved : ∀ state event, Inv state → good state event →
      Inv (step state event))
    (initial : Inv state) (along : step.Along good state events) :
    Inv (step.run state events) := by
  induction events generalizing state with
  | nil => exact initial
  | cons event rest ih => exact ih (preserved _ _ initial along.1) along.2

theorem Along.always (Inv : State → Prop)
    (preserved : ∀ state event, Inv state → good state event →
      Inv (step state event))
    (sound : ∀ state, Inv state → safe state)
    (initial : Inv state) (along : step.Along good state events) :
    step.Always safe state events := by
  induction events generalizing state with
  | nil => exact sound _ initial
  | cons event rest ih =>
      exact ⟨sound _ initial, ih (preserved _ _ initial along.1) along.2⟩

/-- Under the invariant every `good` step is `right`. -/
theorem Along.along (Inv : State → Prop) {right : State → Event → Prop}
    (preserved : ∀ state event, Inv state → good state event →
      Inv (step state event))
    (sound : ∀ state event, Inv state → good state event →
      right state event)
    (initial : Inv state) (along : step.Along good state events) :
    step.Along right state events := by
  induction events generalizing state with
  | nil => trivial
  | cons event rest ih =>
      obtain ⟨first, others⟩ := along
      exact ⟨sound _ _ initial first,
        ih (preserved _ _ initial first) others⟩

theorem run_invariant (Inv : State → Prop)
    (preserved : ∀ state event, Inv state → Inv (step state event))
    (initial : Inv state) (events : List Event) :
    Inv (step.run state events) :=
  (along_of_forall fun _ _ => trivial :
    step.Along (fun _ _ => True) state events).invariant Inv
    (fun state event inv _ => preserved state event inv) initial

theorem always_of_invariant (Inv : State → Prop)
    (preserved : ∀ state event, Inv state → Inv (step state event))
    (sound : ∀ state, Inv state → safe state)
    (initial : Inv state) (events : List Event) :
    step.Always safe state events :=
  (along_of_forall fun _ _ => trivial :
    step.Along (fun _ _ => True) state events).always Inv
    (fun state event inv _ => preserved state event inv) sound initial

theorem along_of_invariant (Inv : State → Prop)
    {right : State → Event → Prop}
    (preserved : ∀ state event, Inv state → Inv (step state event))
    (sound : ∀ state event, Inv state → right state event)
    (initial : Inv state) (events : List Event) :
    step.Along right state events :=
  (along_of_forall fun _ _ => trivial :
    step.Along (fun _ _ => True) state events).along Inv
    (fun state event inv _ => preserved state event inv)
    (fun state event inv _ => sound state event inv) initial

/-- What one step adds to a history, a run adds event by event. -/
theorem run_history {Word : Type w} (Inv : State → List Word → Prop)
    (word : Event → Word) {words : List Word}
    (preserved : ∀ state words event, Inv state words →
      Inv (step state event) (words ++ [word event]))
    (initial : Inv state words) (events : List Event) :
    Inv (step.run state events) (words ++ events.map word) := by
  induction events generalizing state words with
  | nil =>
      rw [List.map_nil, List.append_nil]
      exact initial
  | cons event rest ih =>
      rw [run_cons, List.map_cons, ← List.singleton_append,
        ← List.append_assoc]
      exact ih (preserved state words event initial)

/-- The rule for an exact condition: while every event is `good` the invariant
makes the states safe, and the first event that is not leaves an unsafe one. -/
theorem Along.always_iff (Inv : State → Prop)
    {legal : State → Event → Prop}
    (preserved : ∀ state event, Inv state → legal state event →
      good state event → Inv (step state event))
    (sound : ∀ state, Inv state → safe state)
    (breaking : ∀ state event, Inv state → legal state event →
      ¬ good state event → ¬ safe (step state event))
    (initial : Inv state) (legalRun : step.Along legal state events) :
    step.Always safe state events ↔ step.Along good state events := by
  constructor
  · intro always
    induction events generalizing state with
    | nil => trivial
    | cons event rest ih =>
        have isGood : good state event := by
          by_contra bad
          exact breaking _ _ initial legalRun.1 bad always.2.first
        exact ⟨isGood, ih (preserved _ _ initial legalRun.1 isGood)
          legalRun.2 always.2⟩
  · intro along
    exact (legalRun.and along).always Inv
      (fun state event inv both => preserved state event inv both.1 both.2)
      sound initial

theorem always_iff_along (Inv : State → Prop)
    (preserved : ∀ state event, Inv state → good state event →
      Inv (step state event))
    (sound : ∀ state, Inv state → safe state)
    (breaking : ∀ state event, Inv state → ¬ good state event →
      ¬ safe (step state event))
    (initial : Inv state) :
    step.Always safe state events ↔ step.Along good state events := by
  have legal : step.Along (fun _ _ => True) state events :=
    along_of_forall fun _ _ => trivial
  exact legal.always_iff Inv
    (fun state event inv _ => preserved state event inv) sound
    (fun state event inv _ => breaking state event inv) initial

/-- The same rule for a property of the single steps: under the invariant a
`good` step is `right` and a step that is not `good` is not. -/
theorem along_iff_along (Inv : State → Prop)
    {legal right : State → Event → Prop}
    (preserved : ∀ state event, Inv state → legal state event →
      good state event → Inv (step state event))
    (sound : ∀ state event, Inv state → legal state event →
      good state event → right state event)
    (breaking : ∀ state event, Inv state → legal state event →
      ¬ good state event → ¬ right state event)
    (initial : Inv state) (legalRun : step.Along legal state events) :
    step.Along right state events ↔ step.Along good state events := by
  induction events generalizing state with
  | nil => exact Iff.rfl
  | cons event rest ih =>
      obtain ⟨legalFirst, legalRest⟩ := legalRun
      by_cases isGood : good state event
      · have isRight := sound _ _ initial legalFirst isGood
        have rest := ih (preserved _ _ initial legalFirst isGood) legalRest
        simp only [along_cons, isGood, isRight, rest]
      · have isWrong := breaking _ _ initial legalFirst isGood
        simp only [along_cons, isGood, isWrong, false_and]

/-- What a run has brought about, one of its steps has. -/
theorem run_origin {Item : Type w} (Inv : State → Prop)
    {holds : State → Item → Prop} {made : State → Event → Item → Prop}
    (preserved : ∀ state event, Inv state → Inv (step state event))
    (origin : ∀ state event item, Inv state →
      holds (step state event) item → holds state item ∨ made state event item)
    (initial : Inv state) {item : Item}
    (held : holds (step.run state events) item) :
    holds state item ∨ ∃ before event after,
      events = before ++ event :: after ∧
        made (step.run state before) event item := by
  induction events generalizing state with
  | nil => exact .inl held
  | cons event rest ih =>
      rcases ih (preserved state event initial) held with
        first | ⟨before, which, after, split, by_which⟩
      · rcases origin state event item initial first with earlier | now
        · exact .inl earlier
        · exact .inr ⟨[], event, rest, rfl, now⟩
      · exact .inr ⟨event :: before, which, after,
          congrArg (event :: ·) split, by_which⟩

/-- What the events write in the states in which they are taken, in order. -/
def written {Value : Type w} (step : Machine State Event)
    (write : State → Event → Option Value) : State → List Event → List Value
  | _, [] => []
  | state, event :: rest =>
      (write state event).toList ++ written step write (step state event) rest

theorem read_run {Value : Type w} {write : State → Event → Option Value}
    (read : State → Value)
    (writes : ∀ state event,
      read (step state event) = (write state event).getD (read state)) :
    read (step.run state events) =
      (step.written write state events).getLast?.getD (read state) := by
  induction events generalizing state with
  | nil => rfl
  | cons event rest ih =>
      rw [run_cons, ih, writes, written]
      cases write state event with
      | none => rfl
      | some value =>
          rw [Option.toList_some, List.singleton_append, List.getLast?_cons]
          rfl

/-- What one step writes to each of several places, a run writes event by
event. -/
theorem Along.history {Key : Type w} {Value : Type w}
    (Inv : State → (Key → List Value) → Prop)
    (write : Key → State → Event → Option Value)
    {words : Key → List Value}
    (preserved : ∀ state words event, Inv state words → good state event →
      Inv (step state event) fun key =>
        words key ++ (write key state event).toList)
    (initial : Inv state words) (along : step.Along good state events) :
    Inv (step.run state events) fun key =>
      words key ++ step.written (write key) state events := by
  induction events generalizing state words with
  | nil =>
      simp only [written, List.append_nil]
      exact initial
  | cons event rest ih =>
      have next := ih (preserved _ _ _ initial along.1) along.2
      simp only [List.append_assoc] at next
      exact next

theorem run_map {step' : Machine Other Event} {f : State → Other}
    (commutes : ∀ state event, f (step state event) = step' (f state) event) :
    f (step.run state events) = step'.run (f state) events := by
  induction events generalizing state with
  | nil => rfl
  | cons event rest ih => rw [run_cons, run_cons, ih, commutes]

theorem along_map {step' : Machine Other Event} {f : State → Other}
    {good' : Other → Event → Prop}
    (commutes : ∀ state event, f (step state event) = step' (f state) event) :
    step'.Along good' (f state) events ↔
      step.Along (fun state event => good' (f state) event) state events := by
  induction events generalizing state with
  | nil => exact Iff.rfl
  | cons event rest ih => simp only [along_cons, ← commutes, ih]

/-- The events of the other machine that a run comes to. -/
def expanded {Event' : Type w} (step : Machine State Event)
    (expand : State → Event → List Event') : State → List Event → List Event'
  | _, [] => []
  | state, event :: rest =>
      expand state event ++ expanded step expand (step state event) rest

section

variable {Other : Type w} {Event' : Type w} {step' : Machine Other Event'}
  {view : State → Other} {expand : State → Event → List Event'}

theorem Along.refines (Inv : State → Prop)
    (preserved : ∀ state event, Inv state → good state event →
      Inv (step state event))
    (simulates : ∀ state event, Inv state → good state event →
      view (step state event) = step'.run (view state) (expand state event))
    (initial : Inv state) (along : step.Along good state events) :
    view (step.run state events) =
      step'.run (view state) (step.expanded expand state events) := by
  induction events generalizing state with
  | nil => rfl
  | cons event rest ih =>
      rw [run_cons, expanded, run_append,
        ← simulates _ _ initial along.1]
      exact ih (preserved _ _ initial along.1) along.2

/-- What each expansion meets, the whole run of the other machine meets. -/
theorem Along.expanded (Inv : State → Prop)
    {right : Other → Event' → Prop}
    (preserved : ∀ state event, Inv state → good state event →
      Inv (step state event))
    (simulates : ∀ state event, Inv state → good state event →
      view (step state event) = step'.run (view state) (expand state event))
    (sound : ∀ state event, Inv state → good state event →
      step'.Along right (view state) (expand state event))
    (initial : Inv state) (along : step.Along good state events) :
    step'.Along right (view state) (step.expanded expand state events) := by
  induction events generalizing state with
  | nil => trivial
  | cons event rest ih =>
      rw [Machine.expanded, along_append, ← simulates _ _ initial along.1]
      exact ⟨sound _ _ initial along.1,
        ih (preserved _ _ initial along.1) along.2⟩

end

end Machine

end FuryClash.Data
