import FuryClash.Client.Input
import FuryClash.Client.InputCodec
import FuryClash.Server.Relay

namespace FuryClash.Client

open FuryClash.Data

/-! The directions that the devices hold, as their events tell it. -/

inductive Direction where
  | up
  | down
  | left
  | right
  deriving DecidableEq

namespace Direction

def index : Direction → Nat
  | up => 0
  | down => 1
  | left => 2
  | right => 3

def button : Direction → GamepadButton
  | up => .dpadUp
  | down => .dpadDown
  | left => .dpadLeft
  | right => .dpadRight

def leans (dx dy : Float32) (direction : Direction) : Bool :=
  let len := (dx * dx + dy * dy).sqrt
  decide (len > 10.0) &&
    match direction with
    | up => decide (dy / len < -0.5)
    | down => decide (dy / len > 0.5)
    | left => decide (dx / len < -0.5)
    | right => decide (dx / len > 0.5)

end Direction

namespace Input

/-- The press or the release of one of the keys of a direction. -/
def keyWord (direction : Direction) : Input → InputAct → Option Bool
  | _, .event (.keyDown key) =>
      if keyHas direction.index key then some true else none
  | _, .event (.keyUp key) =>
      if keyHas direction.index key then some false else none
  | _, _ => none

/-- Where the finger on the joystick moves it, or that it lets go of it. -/
def stickWord (direction : Direction) (input : Input) :
    InputAct → Option Bool
  | .event (.fingerMotion finger x y) =>
      if input.touch.joyActive ∧ finger = input.touch.joyFinger then
        some (direction.leans
          (x * input.touch.layout.screenW - input.touch.joyAx)
          (y * input.touch.layout.screenH - input.touch.joyAy))
      else none
  | .event (.fingerUp finger) =>
      if input.touch.joyActive ∧ finger = input.touch.joyFinger then
        some false
      else none
  | _ => none

/-- The last word of the keys or of the joystick is that the direction is
held, or the open gamepad has its button down. -/
def Holds (start : Input) (acts : List InputAct)
    (buttons : GamepadButton → Bool) (direction : Direction) : Prop :=
  (step.written (keyWord direction) start acts).getLast? = some true ∨
    ((step.run start acts).gamepad.isSome ∧ buttons direction.button) ∨
    (step.written (stickWord direction) start acts).getLast? = some true

def Opposed (start : Input) (acts : List InputAct)
    (buttons : GamepadButton → Bool) : Prop :=
  (start.Holds acts buttons .up ∧ start.Holds acts buttons .down) ∨
    (start.Holds acts buttons .left ∧ start.Holds acts buttons .right)

/-- The bitfield of a tick after `acts`. -/
def localAfter (start : Input) (acts : List InputAct)
    (buttons : GamepadButton → Bool) : UInt16 :=
  ((step.run start acts).inputTick buttons).inputGetLocal

theorem hasBit_keyboard_step (direction : Direction) (input : Input)
    (act : InputAct) :
    hasBit direction.index (step input act).keyboard =
      (keyWord direction input act).getD
        (hasBit direction.index input.keyboard) := by
  cases act with
  | layout w h => rfl
  | tick game buttons => rfl
  | event event =>
      cases event with
      | keyDown key =>
          change hasBit _ (setBit key true input.keyboard) = _
          rw [hasBit_setBit, keyWord]
          split <;> rfl
      | keyUp key =>
          change hasBit _ (setBit key false input.keyboard) = _
          rw [hasBit_setBit, keyWord]
          split <;> rfl
      | _ => rfl

theorem hasBit_keyboard_run (direction : Direction) (input : Input)
    (acts : List InputAct) :
    hasBit direction.index (step.run input acts).keyboard =
      (step.written (keyWord direction) input acts).getLast?.getD
        (hasBit direction.index input.keyboard) :=
  Machine.read_run (fun input : Input => hasBit direction.index input.keyboard)
    (hasBit_keyboard_step direction)

theorem hasBit_ite_or (index : Nat) (condition : Prop) [Decidable condition]
    (bits bit : UInt16) :
    hasBit index (if condition then bits ||| bit else bits) =
      (hasBit index bits || (decide condition && hasBit index bit)) := by
  split
  next holds => simp [holds]
  next fails => simp [fails]

theorem hasBit_released (direction : Direction) (bits : UInt16) :
    hasBit direction.index (bits &&& ~~~Touch.directions) = false := by
  have within : hasBit direction.index Touch.directions = true := by
    cases direction <;> decide
  rw [hasBit_clear, within, Bool.not_true, Bool.and_false]

theorem hasBit_inputUp (direction : Direction) :
    hasBit direction.index inputUp = decide (direction = .up) := by
  cases direction <;> decide

theorem hasBit_inputDown (direction : Direction) :
    hasBit direction.index inputDown = decide (direction = .down) := by
  cases direction <;> decide

theorem hasBit_inputLeft (direction : Direction) :
    hasBit direction.index inputLeft = decide (direction = .left) := by
  cases direction <;> decide

theorem hasBit_inputRight (direction : Direction) :
    hasBit direction.index inputRight = decide (direction = .right) := by
  cases direction <;> decide

theorem hasBit_processJoystick (direction : Direction) (cx cy : Float32)
    (touch : Touch) :
    hasBit direction.index (touch.processJoystick cx cy).state =
      direction.leans (cx - touch.joyAx) (cy - touch.joyAy) := by
  unfold Touch.processJoystick Direction.leans
  dsimp only
  split
  next far =>
    simp only [hasBit_ite_or, hasBit_released, hasBit_inputUp,
      hasBit_inputDown, hasBit_inputLeft, hasBit_inputRight, far]
    cases direction <;> simp
  next near =>
    simp only [hasBit_released, near, decide_false, Bool.false_and]

theorem hasBit_touch_step (direction : Direction) (input : Input)
    (act : InputAct) :
    hasBit direction.index (step input act).touch.state =
      (stickWord direction input act).getD
        (hasBit direction.index input.touch.state) := by
  cases act with
  | layout w h => rfl
  | tick game buttons => rfl
  | event event =>
      change hasBit _ (input.touch.inputTouchEvent event).state = _
      cases event with
      | fingerDown finger x y =>
          rw [Touch.inputTouchEvent]
          split <;> rfl
      | fingerMotion finger x y =>
          rw [Touch.inputTouchEvent, stickWord]
          split
          next => exact hasBit_processJoystick ..
          next => rfl
      | fingerUp finger =>
          rw [Touch.inputTouchEvent, stickWord]
          split
          next => exact hasBit_released ..
          next => rfl
      | _ => rfl

theorem hasBit_touch_run (direction : Direction) (input : Input)
    (acts : List InputAct) :
    hasBit direction.index (step.run input acts).touch.state =
      (step.written (stickWord direction) input acts).getLast?.getD
        (hasBit direction.index input.touch.state) :=
  Machine.read_run (fun input : Input => hasBit direction.index input.touch.state)
    (hasBit_touch_step direction)

theorem hasBit_gamepadBits (direction : Direction) :
    ∀ entry ∈ gamepadBits,
      hasBit direction.index entry.2 =
        decide (entry.1 = direction.button) := by
  cases direction <;> decide

theorem hasBit_gamepad (direction : Direction)
    (buttons : GamepadButton → Bool) (pad : Option JoystickId) :
    hasBit direction.index (inputGamepadRead buttons pad) =
      (pad.isSome && buttons direction.button) := by
  cases pad with
  | none => exact hasBit_zero _
  | some held =>
      rw [inputGamepadRead, hasBit_foldl, hasBit_zero, Bool.false_or,
        Option.isSome_some, Bool.true_and, Bool.eq_iff_iff, List.any_eq_true]
      constructor
      · rintro ⟨entry, listed, down⟩
        rw [hasBit_gamepadBits direction entry listed, Bool.and_eq_true,
          decide_eq_true_iff] at down
        exact down.2 ▸ down.1
      · intro down
        have bound : direction.button ∈ gamepadBits.map Prod.fst := by
          cases direction <;> decide
        obtain ⟨entry, listed, same⟩ := List.mem_map.mp bound
        refine ⟨entry, listed, ?_⟩
        rw [hasBit_gamepadBits direction entry listed, same, down]
        simp

theorem getD_false_eq_true {word : Option Bool} :
    word.getD false = true ↔ word = some true := by
  cases word <;> simp

/-- A bit of the input is set exactly when one of the devices holds it. -/
theorem hasBit_localAfter (ids : List JoystickId) (opens : Bool)
    (acts : List InputAct) (buttons : GamepadButton → Bool)
    (direction : Direction) :
    hasBit direction.index ((init ids opens).localAfter acts buttons) = true ↔
      (init ids opens).Holds acts buttons direction := by
  have keys := hasBit_keyboard_run direction (init ids opens) acts
  have stick := hasBit_touch_run direction (init ids opens) acts
  have released : hasBit direction.index (init ids opens).keyboard = false :=
    hasBit_zero _
  have centred : hasBit direction.index (init ids opens).touch.state = false :=
    hasBit_zero _
  rw [localAfter, inputGetLocal, inputTick, hasBit_or, hasBit_or, keys, stick,
    released, centred, hasBit_gamepad, Bool.or_eq_true, Bool.or_eq_true,
    Bool.and_eq_true, getD_false_eq_true, getD_false_eq_true, or_assoc]
  exact Iff.rfl

end Input

theorem and_two_bits_iff (number i j : Nat) :
    number &&& (2 ^ i ||| 2 ^ j) = 2 ^ i ||| 2 ^ j ↔
      number.testBit i = true ∧ number.testBit j = true := by
  constructor
  · intro same
    have bits (k : Nat) := congrArg (Nat.testBit · k) same
    simp only [Nat.testBit_and, Nat.testBit_or, Nat.testBit_two_pow] at bits
    have first := bits i
    have second := bits j
    simp only [decide_true, Bool.true_or, Bool.or_true, Bool.and_true]
      at first second
    exact ⟨first, second⟩
  · rintro ⟨first, second⟩
    apply Nat.eq_of_testBit_eq
    intro k
    rw [Nat.testBit_and, Nat.testBit_or, Nat.testBit_two_pow,
      Nat.testBit_two_pow]
    by_cases onFirst : i = k
    · subst onFirst
      simp [first]
    · by_cases onSecond : j = k
      · subst onSecond
        simp [second]
      · simp [onFirst, onSecond]

theorem hasBit_eq_testBit (index : Nat) (input : UInt16) :
    hasBit index input = input.toNat.testBit index := rfl

theorem isValidInput_iff (runtime : JsRuntime) (input : UInt16) :
    Server.isValidInput runtime (some (.nat input.toNat)) = .ok true ↔
      ¬ ((hasBit 0 input = true ∧ hasBit 1 input = true) ∨
        (hasBit 2 input = true ∧ hasBit 3 input = true)) := by
  have fits : input.toNat < 2 ^ 32 := lt_trans input.toNat_lt (by decide)
  have vertical := and_two_bits_iff input.toNat 0 1
  have horizontal := and_two_bits_iff input.toNat 2 3
  rw [Server.isValidInput_nat runtime fits, Except.ok.injEq]
  simp only [hasBit_eq_testBit, ← vertical, ← horizontal]
  simp [Server.invalidMasks]

/-- The relay takes the input for valid and sends it on, with its frame, in
every room that can still send. -/
structure Relayed (runtime : JsRuntime) (input : UInt16) : Prop where
  valid : Server.isValidInput runtime (some (.nat input.toNat)) = .ok true
  forwarded : ∀ (frame : Nat) (room : Server.RelayRoom)
    (key : Server.SlotKey) (info : Server.SlotInfo), frame < 2 ^ 31 →
    room.state = .active → room.slots key.index.other = some info →
    info.pendingFrames = [] → info.seq < 2 ^ 16 → ∃ room' : Server.RelayRoom,
      room.handleMessage runtime (fun _ => true) key
        (Net.inputPayload frame input) =
          .ok (room', [(info.ws,
            .relay (Server.relayBytes info.seq (frame, input.toNat)))])

/-- The input of every tick of a fight is relayed. -/
def HonestInput (runtime : JsRuntime) (start : Input)
    (acts : List InputAct) : Prop :=
  ∀ before buttons after,
    acts = before ++ InputAct.tick .fight buttons :: after →
      Relayed runtime (start.localAfter before buttons)

theorem isValidInput_localAfter (runtime : JsRuntime) (ids : List JoystickId)
    (opens : Bool) (acts : List InputAct) (buttons : GamepadButton → Bool) :
    Server.isValidInput runtime (some (.nat
        ((Input.init ids opens).localAfter acts buttons).toNat)) = .ok true ↔
      ¬ (Input.init ids opens).Opposed acts buttons := by
  have bits := Input.hasBit_localAfter ids opens acts buttons
  rw [isValidInput_iff, Input.Opposed, ← bits, ← bits, ← bits, ← bits]
  rfl

def inputBytes (frame : Nat) (input : UInt16) : Server.InputBytes where
  data := Net.inputPayload frame input
  size := rfl
  opcode := rfl

theorem inputBytes_entry {frame : Nat} (fits : frame < 2 ^ 32)
    (input : UInt16) : (inputBytes frame input).entry = (frame, input.toNat) :=
  Prod.ext (inputPayload_windows fits input).2.1
    (inputPayload_windows fits input).2.2

theorem relayed_of_valid {runtime : JsRuntime} {input : UInt16}
    (valid : Server.isValidInput runtime (some (.nat input.toNat)) =
      .ok true) : Relayed runtime input where
  valid := valid
  forwarded frame room key info fits active seated pending small := by
    have entry : (inputBytes frame input).entry = (frame, input.toNat) :=
      inputBytes_entry (by omega) input
    have checked : (inputBytes frame input).valid = true := by
      rw [Server.isValidInput_nat runtime
        (lt_trans input.toNat_lt (by decide)), Except.ok.injEq] at valid
      rw [Server.InputBytes.valid, entry]
      exact valid
    obtain ⟨room', _, _, handled⟩ :=
      Server.RelayRoom.handleInput_valid checked seated pending
    refine ⟨room', ?_⟩
    change room.handleMessage runtime _ key (inputBytes frame input).data = _
    rw [Server.RelayRoom.handleMessage_inputBytes active, handled,
      if_pos small, entry]

theorem honestInput_iff_apart (runtime : JsRuntime) (ids : List JoystickId)
    (opens : Bool) (acts : List InputAct) :
    HonestInput runtime (Input.init ids opens) acts ↔
      ∀ before buttons after,
        acts = before ++ InputAct.tick .fight buttons :: after →
          ¬ (Input.init ids opens).Opposed before buttons := by
  constructor
  · intro honest before buttons after parts
    have relayed := honest before buttons after parts
    exact (isValidInput_localAfter ..).mp relayed.valid
  · intro apart before buttons after parts
    apply relayed_of_valid
    exact (isValidInput_localAfter ..).mpr (apart before buttons after parts)

def bothHeld : List InputAct :=
  [.event (.keyDown .w), .event (.keyDown .s)]

def noButtons : GamepadButton → Bool := fun _ => false

theorem not_honestInput_bothHeld :
    ¬ HonestInput Server.emptyRuntime (Input.init [] false)
      (bothHeld ++ [.tick .fight noButtons]) := by
  intro honest
  have relayed := honest bothHeld noButtons [] rfl
  have apart := (isValidInput_localAfter ..).mp relayed.valid
  exact apart (.inl ⟨.inl rfl, .inl rfl⟩)

end FuryClash.Client
