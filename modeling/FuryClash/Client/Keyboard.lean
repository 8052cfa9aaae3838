import FuryClash.Client.Input
import Mathlib.Logic.Function.Basic

namespace FuryClash.Client

open FuryClash.Data

/-! `input_keyboard.c` beside the keys that the player holds. A direction has
two keys and one bit. -/

/-- `state` is `g_state`. A key is `down` from its press to its release. -/
structure Keyboard where
  state : UInt16
  down : Keycode → Bool

namespace Keyboard

/-- `input_keyboard_init`, and `input_keyboard_shutdown`. -/
def inputKeyboardInit : Keyboard where
  state := 0
  down _ := false

def inputKeyboardRead (keyboard : Keyboard) : UInt16 := keyboard.state

def hold (event : InputEvent) (down : Keycode → Bool) : Keycode → Bool :=
  match event with
  | .keyDown key => Function.update down key true
  | .keyUp key => Function.update down key false
  | _ => down

def step : Machine Keyboard InputEvent
  | keyboard, event =>
      { state := inputKeyboardEvent event keyboard.state
        down := hold event keyboard.down }

def Held (index : Nat) (keyboard : Keyboard) : Prop :=
  ∃ key, keyHas index key = true ∧ keyboard.down key = true

def Truthful (keyboard : Keyboard) : Prop :=
  ∀ index, hasBit index keyboard.inputKeyboardRead = true ↔
    keyboard.Held index

/-- The other key of its bit is not held when a key is released. -/
def ReleasesLast (keyboard : Keyboard) : InputEvent → Prop
  | .keyUp key =>
      ∀ bit ∈ keyBit key, ∀ other, other ≠ key → bit ∈ keyBit other →
        keyboard.down other = false
  | _ => True

variable {keyboard : Keyboard} {index : Nat} {key : Keycode}

theorem keyHas_iff : keyHas index key = true ↔
    ∃ bit ∈ keyBit key, hasBit index bit = true :=
  Option.any_eq_true ..

theorem keyBit_mem {bit : UInt16} (mapped : bit ∈ keyBit key) :
    ∃ entry ∈ gamepadBits, entry.2 = bit := by
  cases key with
  | other code => cases mapped
  | _ =>
      cases mapped
      decide

theorem keyBit_index {bit : UInt16} (mapped : bit ∈ keyBit key) :
    ∃ index, keyHas index key = true := by
  have all : ∀ entry ∈ gamepadBits,
      ∃ index < 16, hasBit index entry.2 = true := by
    decide
  obtain ⟨entry, listed, rfl⟩ := keyBit_mem mapped
  obtain ⟨index, _, has⟩ := all entry listed
  exact ⟨index, keyHas_iff.mpr ⟨entry.2, mapped, has⟩⟩

theorem keyBit_eq_of_keyHas {bit : UInt16} (mapped : bit ∈ keyBit key)
    (has : hasBit index bit = true) {other : Keycode}
    (has' : keyHas index other = true) : bit ∈ keyBit other := by
  have apart : ∀ entry ∈ gamepadBits, ∀ entry' ∈ gamepadBits,
      entry.2 = entry'.2 ∨ entry.2 &&& entry'.2 = 0 := by
    decide
  obtain ⟨bit', mapped', has'⟩ := keyHas_iff.mp has'
  obtain ⟨entry, listed, rfl⟩ := keyBit_mem mapped
  obtain ⟨entry', listed', rfl⟩ := keyBit_mem mapped'
  rcases apart entry listed entry' listed' with same | disjoint
  · rw [same]
    exact mapped'
  · have both : hasBit index (entry.2 &&& entry'.2) = true := by
      rw [hasBit_and, has, has']
      rfl
    rw [disjoint, hasBit_zero] at both
    cases both

theorem held_of_not_keyHas (others : keyHas index key = false)
    (pressed : Bool) (state : UInt16) :
    Held index ⟨state, Function.update keyboard.down key pressed⟩ ↔
      keyboard.Held index := by
  refine exists_congr fun other => and_congr_right fun has => ?_
  have ne : other ≠ key := by
    intro same
    rw [same, others] at has
    cases has
  exact Eq.congr_left (Function.update_of_ne ne ..)

theorem step_truthful (truthful : keyboard.Truthful) (event : InputEvent)
    (last : keyboard.ReleasesLast event) :
    (step keyboard event).Truthful := by
  intro index
  have before := truthful index
  rw [inputKeyboardRead] at before ⊢
  cases event with
  | keyDown key =>
      change hasBit index (setBit key true keyboard.state) = true ↔
        Held index ⟨_, Function.update keyboard.down key true⟩
      rw [hasBit_setBit]
      cases has : keyHas index key with
      | true =>
          exact iff_of_true rfl ⟨key, has, Function.update_self ..⟩
      | false =>
          rw [held_of_not_keyHas has]
          exact before
  | keyUp key =>
      change hasBit index (setBit key false keyboard.state) = true ↔
        Held index ⟨_, Function.update keyboard.down key false⟩
      rw [hasBit_setBit]
      cases has : keyHas index key with
      | true =>
          refine iff_of_false Bool.false_ne_true ?_
          rintro ⟨other, has', down⟩
          dsimp only at down
          by_cases same : other = key
          · rw [same, Function.update_self] at down
            cases down
          · rw [Function.update_of_ne same] at down
            obtain ⟨bit, mapped, has⟩ := keyHas_iff.mp has
            have up := last bit mapped other same
              (keyBit_eq_of_keyHas mapped has has')
            cases down.symm.trans up
      | false =>
          rw [held_of_not_keyHas has]
          exact before
  | _ => exact before

theorem step_not_truthful (event : InputEvent)
    (early : ¬ keyboard.ReleasesLast event) :
    ¬ (step keyboard event).Truthful := by
  intro truthful
  cases event with
  | keyUp key =>
      simp only [ReleasesLast, not_forall] at early
      obtain ⟨bit, mapped, other, different, mapped', down⟩ := early
      obtain ⟨index, has⟩ := keyBit_index mapped
      have has' : keyHas index other = true := by
        rw [keyHas, mapped']
        rwa [keyHas, mapped] at has
      have clear : hasBit index (setBit key false keyboard.state) = false := by
        rw [hasBit_setBit, if_pos has]
      have held : Held index (step keyboard (.keyUp key)) := by
        refine ⟨other, has', ?_⟩
        change Function.update keyboard.down key false other = true
        rw [Function.update_of_ne different]
        exact Bool.not_eq_false _ ▸ down
      cases clear.symm.trans ((truthful index).mpr held)
  | _ => exact early trivial

theorem inputKeyboardInit_truthful : inputKeyboardInit.Truthful := by
  intro index
  refine iff_of_false ?_ ?_
  · rw [inputKeyboardRead, inputKeyboardInit, hasBit_zero]
    exact Bool.false_ne_true
  · rintro ⟨key, _, down⟩
    cases down

theorem always_truthful_iff (events : List InputEvent) :
    step.Always Truthful inputKeyboardInit events ↔
      step.Along ReleasesLast inputKeyboardInit events :=
  Machine.always_iff_along Truthful
    (fun _ event truthful last => step_truthful truthful event last)
    (fun _ truthful => truthful)
    (fun _ event _ early => step_not_truthful event early)
    inputKeyboardInit_truthful

/-- Both keys of a direction, and one of them let go. -/
theorem not_always_truthful :
    ¬ step.Always Truthful inputKeyboardInit
      [.keyDown .up, .keyDown .w, .keyUp .up] := by
  intro always
  cases (always.last 0).mpr ⟨.w, by decide, by decide⟩

end Keyboard

end FuryClash.Client
