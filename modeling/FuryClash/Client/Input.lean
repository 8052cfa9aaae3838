import FuryClash.Client.Session
import FuryClash.Data.Run

namespace FuryClash.Client

open FuryClash.Data

/-! `input.c` and its three devices, which share one bitfield. An event carries
what SDL answers to the calls that it leads to. -/

def inputUp : UInt16 := (1 : UInt16) <<< 0
def inputDown : UInt16 := (1 : UInt16) <<< 1
def inputLeft : UInt16 := (1 : UInt16) <<< 2
def inputRight : UInt16 := (1 : UInt16) <<< 3
def inputLightPunch : UInt16 := (1 : UInt16) <<< 4
def inputHeavyPunch : UInt16 := (1 : UInt16) <<< 5
def inputLightKick : UInt16 := (1 : UInt16) <<< 6
def inputHeavyKick : UInt16 := (1 : UInt16) <<< 7
def inputSpecial1 : UInt16 := (1 : UInt16) <<< 8
def inputSpecial2 : UInt16 := (1 : UInt16) <<< 9
def inputSuper : UInt16 := (1 : UInt16) <<< 10
def inputGrab : UInt16 := (1 : UInt16) <<< 11

inductive Keycode where
  | up | w
  | down | s
  | left | a
  | right | d
  | u | i | j | k | o | p | l | h
  /-- Every other key. -/
  | other (code : Nat)
  deriving DecidableEq

abbrev JoystickId := Nat

abbrev FingerId := Nat

inductive GamepadButton where
  | dpadUp
  | dpadDown
  | dpadLeft
  | dpadRight
  | south
  | east
  | west
  | north
  | rightShoulder
  | leftShoulder
  | start
  | back
  deriving DecidableEq

/-- An `SDL_Event`, as far as the devices look at it. The coordinates of a
finger are fractions of the screen. -/
inductive InputEvent where
  | keyDown (key : Keycode)
  | keyUp (key : Keycode)
  /-- Whether `SDL_OpenGamepad` would open it. -/
  | gamepadAdded (which : JoystickId) (opens : Bool)
  | gamepadRemoved (which : JoystickId)
  | fingerDown (finger : FingerId) (x y : Float32)
  | fingerMotion (finger : FingerId) (x y : Float32)
  | fingerUp (finger : FingerId)
  | other

/-! `input_keyboard.c`. -/

/-- The bit of a key; `none` is `default: return`. -/
def keyBit : Keycode → Option UInt16
  | .up | .w => some inputUp
  | .down | .s => some inputDown
  | .left | .a => some inputLeft
  | .right | .d => some inputRight
  | .u => some inputLightPunch
  | .i => some inputHeavyPunch
  | .j => some inputLightKick
  | .k => some inputHeavyKick
  | .o => some inputSpecial1
  | .p => some inputSpecial2
  | .l => some inputSuper
  | .h => some inputGrab
  | .other _ => none

def setBit (key : Keycode) (pressed : Bool) (state : UInt16) : UInt16 :=
  match keyBit key with
  | none => state
  | some bit => if pressed then state ||| bit else state &&& ~~~bit

def inputKeyboardEvent (event : InputEvent) (state : UInt16) : UInt16 :=
  match event with
  | .keyDown key => setBit key true state
  | .keyUp key => setBit key false state
  | _ => state

/-! `input_gamepad.c`. The open gamepad, if any, is named by its id. -/

def inputGamepadInit (ids : List JoystickId) (opens : Bool) :
    Option JoystickId :=
  if opens then ids.head? else none

def inputGamepadEvent (event : InputEvent) (pad : Option JoystickId) :
    Option JoystickId :=
  match event, pad with
  | .gamepadAdded which opens, none => if opens then some which else none
  | .gamepadRemoved which, some held =>
      if held = which then none else some held
  | _, pad => pad

/-- The buttons in the order in which they are read. -/
def gamepadBits : List (GamepadButton × UInt16) :=
  [(.dpadUp, inputUp), (.dpadDown, inputDown), (.dpadLeft, inputLeft),
    (.dpadRight, inputRight), (.south, inputLightPunch),
    (.east, inputHeavyPunch), (.west, inputLightKick),
    (.north, inputHeavyKick), (.rightShoulder, inputSpecial1),
    (.leftShoulder, inputSpecial2), (.start, inputSuper), (.back, inputGrab)]

/-- `buttons` is what `SDL_GetGamepadButton` answers for the open gamepad. -/
def inputGamepadRead (buttons : GamepadButton → Bool)
    (pad : Option JoystickId) : UInt16 :=
  match pad with
  | none => 0
  | some _ =>
      gamepadBits.foldl
        (fun state entry =>
          if buttons entry.1 then state ||| entry.2 else state) 0

/-! `input_touch.c`. -/

structure Rect where
  x : Float32
  y : Float32
  w : Float32
  h : Float32

structure TouchLayout where
  screenW : Float32
  screenH : Float32
  joystickZone : Rect

/-- `g_joy_finger`, `g_joy_ax`, `g_joy_ay` and `g_joy_active` beside the
layout and the bits. -/
structure Touch where
  layout : TouchLayout
  state : UInt16
  joyFinger : FingerId
  joyAx : Float32
  joyAy : Float32
  joyActive : Bool

namespace Touch

/-- The static variables, and `input_touch_init`. -/
def init : Touch where
  layout := ⟨0, 0, ⟨0, 0, 0, 0⟩⟩
  state := 0
  joyFinger := 0
  joyAx := 0
  joyAy := 0
  joyActive := false

def inputTouchLayout (w h : Float32) (touch : Touch) : Touch :=
  let aspect : Float32 := 16.0 / 9.0
  let vh := if w / aspect > h * 0.65 then h * 0.65 else w / aspect
  { touch with layout := ⟨w, h, ⟨0, vh, w * 0.4, h - vh⟩⟩ }

def directions : UInt16 := inputUp ||| inputDown ||| inputLeft ||| inputRight

def processJoystick (cx cy : Float32) (touch : Touch) : Touch :=
  let dx := cx - touch.joyAx
  let dy := cy - touch.joyAy
  let len := (dx * dx + dy * dy).sqrt
  let dead : Float32 := 10.0
  let cleared := touch.state &&& ~~~directions
  if len > dead then
    let ndx := dx / len
    let ndy := dy / len
    let state := if ndy < -0.5 then cleared ||| inputUp else cleared
    let state := if ndy > 0.5 then state ||| inputDown else state
    let state := if ndx < -0.5 then state ||| inputLeft else state
    let state := if ndx > 0.5 then state ||| inputRight else state
    { touch with state := state }
  else { touch with state := cleared }

def inJoystickZone (fx fy : Float32) (touch : Touch) : Bool :=
  let jz := touch.layout.joystickZone
  fx ≥ jz.x ∧ fx ≤ jz.x + jz.w ∧ fy ≥ jz.y ∧ fy ≤ jz.y + jz.h

def inputTouchEvent (event : InputEvent) (touch : Touch) : Touch :=
  match event with
  | .fingerDown finger x y =>
      let fx := x * touch.layout.screenW
      let fy := y * touch.layout.screenH
      if !touch.joyActive ∧ touch.inJoystickZone fx fy then
        { touch with
          joyFinger := finger
          joyAx := fx
          joyAy := fy
          joyActive := true }
      else touch
  | .fingerMotion finger x y =>
      if touch.joyActive ∧ finger = touch.joyFinger then
        touch.processJoystick (x * touch.layout.screenW)
          (y * touch.layout.screenH)
      else touch
  | .fingerUp finger =>
      if touch.joyActive ∧ finger = touch.joyFinger then
        { touch with
          joyActive := false
          state := touch.state &&& ~~~directions }
      else touch
  | _ => touch

end Touch

/-! `input.c`. -/

structure Input where
  keyboard : UInt16
  gamepad : Option JoystickId
  touch : Touch
  current : UInt16

/-- What reaches the devices: the layout of the screen, an event, and a tick of
the fixed-step loop in a state of the game. -/
inductive InputAct where
  | layout (w h : Float32)
  | event (event : InputEvent)
  | tick (game : GameState) (buttons : GamepadButton → Bool)

namespace Input

def init (ids : List JoystickId) (opens : Bool) : Input where
  keyboard := 0
  gamepad := inputGamepadInit ids opens
  touch := .init
  current := 0

def inputHandleEvent (event : InputEvent) (input : Input) : Input :=
  { input with
    keyboard := inputKeyboardEvent event input.keyboard
    gamepad := inputGamepadEvent event input.gamepad
    touch := input.touch.inputTouchEvent event }

def inputTick (buttons : GamepadButton → Bool) (input : Input) : Input :=
  { input with
    current := input.keyboard ||| inputGamepadRead buttons input.gamepad |||
      input.touch.state }

def inputGetLocal (input : Input) : UInt16 := input.current

def step : Machine Input InputAct
  | input, .layout w h =>
      { input with touch := input.touch.inputTouchLayout w h }
  | input, .event event => input.inputHandleEvent event
  | input, .tick _ buttons => input.inputTick buttons

end Input

def hasBit (index : Nat) (bits : UInt16) : Bool := bits.toBitVec.getLsbD index

@[simp] theorem hasBit_zero (index : Nat) : hasBit index 0 = false := by
  simp [hasBit]

@[simp] theorem hasBit_or (index : Nat) (first second : UInt16) :
    hasBit index (first ||| second) =
      (hasBit index first || hasBit index second) := by
  simp [hasBit]

theorem hasBit_and (index : Nat) (first second : UInt16) :
    hasBit index (first &&& second) =
      (hasBit index first && hasBit index second) := by
  rw [hasBit, UInt16.toBitVec_and, BitVec.getLsbD_and]
  rfl

theorem hasBit_clear (index : Nat) (bits mask : UInt16) :
    hasBit index (bits &&& ~~~mask) =
      (hasBit index bits && !hasBit index mask) := by
  rw [hasBit_and, hasBit, hasBit, hasBit, UInt16.toBitVec_not,
    BitVec.getLsbD_not]
  by_cases within : index < 16
  · simp [within]
  · simp [within, BitVec.getLsbD_of_ge _ _ (Nat.le_of_not_lt within)]

def keyHas (index : Nat) (key : Keycode) : Bool :=
  (keyBit key).any (hasBit index)

theorem hasBit_setBit (index : Nat) (key : Keycode) (pressed : Bool)
    (state : UInt16) :
    hasBit index (setBit key pressed state) =
      if keyHas index key then pressed else hasBit index state := by
  rw [setBit, keyHas]
  cases keyBit key with
  | none => rfl
  | some bit =>
      rw [Option.any_some]
      cases pressed with
      | true => cases found : hasBit index bit <;> simp [found]
      | false =>
          cases found : hasBit index bit <;> simp [hasBit_clear, found]

theorem hasBit_foldl (index : Nat) (buttons : GamepadButton → Bool)
    (entries : List (GamepadButton × UInt16)) (state : UInt16) :
    hasBit index (entries.foldl
      (fun state entry =>
        if buttons entry.1 then state ||| entry.2 else state) state) =
      (hasBit index state ||
        entries.any fun entry => buttons entry.1 && hasBit index entry.2) := by
  induction entries generalizing state with
  | nil => simp
  | cons entry rest ih =>
      rw [List.foldl_cons, ih, List.any_cons]
      cases buttons entry.1 <;> simp [Bool.or_assoc]

end FuryClash.Client
