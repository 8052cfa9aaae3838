namespace FuryClash

/-! The two player slots of a match: `0 | 1` on the wire and in both programs. -/

inductive Slot where
  | p1
  | p2
  deriving DecidableEq

namespace Slot

/-- `slot ^ 1`. -/
def other : Slot → Slot
  | p1 => p2
  | p2 => p1

def number : Slot → Int
  | p1 => 0
  | p2 => 1

@[simp] theorem other_other (slot : Slot) : slot.other.other = slot := by
  cases slot <;> rfl

@[simp] theorem other_ne (slot : Slot) : slot.other ≠ slot := by
  cases slot <;> decide

@[simp] theorem ne_other (slot : Slot) : slot ≠ slot.other := by
  cases slot <;> decide

theorem eq_other_of_ne {slot which : Slot} (ne : which ≠ slot) :
    which = slot.other := by
  cases slot <;> cases which <;> first | rfl | exact absurd rfl ne

end Slot

end FuryClash
