import Mathlib.Data.Int.ModEq
import Mathlib.Data.Nat.ModEq
import Mathlib.Logic.Function.Basic
import Mathlib.Tactic.Linarith

namespace FuryClash.Data

universe u

/-! A ring buffer addressed by an unbounded index: the cell of index `i` is the
array element `i % size`. -/

structure Ring (size : Nat) (α : Type u) where
  cells : Fin size → α

namespace Ring

variable {size : Nat} [NeZero size] {α : Type u}

def get (ring : Ring size α) (index : Nat) : α :=
  ring.cells (Fin.ofNat size index)

def set (ring : Ring size α) (index : Nat) (value : α) : Ring size α :=
  ⟨Function.update ring.cells (Fin.ofNat size index) value⟩

omit [NeZero size] in
@[ext] theorem ext {left right : Ring size α}
    (equal : ∀ cell, left.cells cell = right.cells cell) : left = right := by
  cases left
  cases right
  congr
  exact funext equal

instance [DecidableEq α] : DecidableEq (Ring size α) := fun left right =>
  decidable_of_iff (∀ cell, left.cells cell = right.cells cell)
    ⟨ext, fun same _ => by rw [same]⟩

@[simp] theorem get_set_self (ring : Ring size α) (index : Nat) (value : α) :
    (ring.set index value).get index = value :=
  Function.update_self ..

theorem eq_of_sameCell {first second : Nat}
    (below : first < second + size) (above : second < first + size)
    (same : Fin.ofNat size first = Fin.ofNat size second) :
    first = second := by
  have modEq : first ≡ second [MOD size] := by
    simpa [Fin.ofNat, Nat.ModEq] using same
  apply modEq.eq_of_abs_lt
  rw [abs_lt]
  constructor <;> omega

theorem get_set_of_near (ring : Ring size α) {index other : Nat} (value : α)
    (ne : index ≠ other)
    (below : index < other + size) (above : other < index + size) :
    (ring.set index value).get other = ring.get other := by
  apply Function.update_of_ne
  intro same
  exact ne (eq_of_sameCell below above same.symm)

theorem get_set (ring : Ring size α) (index other : Nat) (value : α) :
    (ring.set index value).get other =
      if Fin.ofNat size other = Fin.ofNat size index then value
      else ring.get other := by
  simp [get, set, Function.update_apply]

theorem set_get (ring : Ring size α) (index : Nat) :
    ring.set index (ring.get index) = ring :=
  congrArg Ring.mk (Function.update_eq_self ..)

def map {β : Type u} (f : α → β) (ring : Ring size α) : Ring size β :=
  ⟨fun cell => f (ring.cells cell)⟩

@[simp] theorem get_map {β : Type u} (f : α → β) (ring : Ring size α)
    (index : Nat) : (ring.map f).get index = f (ring.get index) := rfl

theorem map_set {β : Type u} (f : α → β) (ring : Ring size α) (index : Nat)
    (value : α) : (ring.set index value).map f =
      (ring.map f).set index (f value) := by
  ext cell
  simp only [map, set, Function.update_apply]
  split <;> rfl

end Ring

end FuryClash.Data
