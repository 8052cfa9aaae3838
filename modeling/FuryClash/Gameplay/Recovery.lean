import FuryClash.Gameplay.Exchange

namespace FuryClash.Gameplay

open FuryClash.Data

/-! After a hit: `fighter_tick` has no way out of `FS_HIT`. -/

namespace SimState

open Fighter

variable {s : SimState} {inputs : UInt16 × UInt16} {slot : Slot}

theorem moved_hit : (s.moved inputs slot).state = .hit ↔
    (s.fighter slot).state = .hit := by
  obtain ⟨opponent, moved⟩ := s.moved_eq inputs slot
  rw [moved]
  rcases fighterTick_state (f := s.fighter slot) (inputOf inputs slot)
      opponent with
    same | ⟨acts, acts'⟩
  · rw [same]
  · constructor
    · intro state
      rw [state] at acts'
      exact acts'.elim
    · intro state
      rw [state] at acts
      exact acts.elim

theorem step_stays_hit (hit : (s.fighter slot).state = .hit) :
    ((step s inputs).fighter slot).state = .hit := by
  by_cases ended : s.round.matchOver = true
  · rwa [step_of_over ended]
  · rw [step_state (Bool.eq_false_iff.mpr ended), moved_hit.mpr hit]
    exact ite_self _

/-- Who has been hit is in `FS_HIT` for the rest of the match. -/
theorem always_hit (hit : (s.fighter slot).state = .hit)
    (inputs : List (UInt16 × UInt16)) :
    step.Always (fun s => (s.fighter slot).state = .hit) s inputs :=
  Machine.always_of_invariant
    (fun s : SimState => (s.fighter slot).state = .hit)
    (fun _ _ hit => step_stays_hit hit) (fun _ hit => hit) hit inputs

end SimState

end FuryClash.Gameplay
