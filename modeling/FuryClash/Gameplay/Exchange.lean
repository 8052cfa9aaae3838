import FuryClash.Gameplay.Bounds
import FuryClash.Gameplay.MatchOver

namespace FuryClash.Gameplay

open FuryClash.Data

/-! A tick seen from each of the two fighters. The hits of a tick do not get
into each other's way: whether one lands, and what it does, is decided by the
two fighters as `fighter_tick` leaves them. -/

namespace Fighter

/-- What the hits of a tick make of a fighter. -/
def exchanged (f opponent : Fighter) : Fighter :=
  let struck :=
    if opponent.hitboxCheck f then (opponent.hitboxResolve f).2 else f
  { struck with
    hitboxCount := if f.hitboxCheck opponent then 0 else f.hitboxCount }

variable {f opponent : Fighter}

theorem fighterApplyHit_fields (hp : HitProperties) (blocked : Bool) :
    (f.fighterApplyHit hp blocked).hitboxCount = f.hitboxCount ∧
      (f.fighterApplyHit hp blocked).blockstun =
        (if blocked then hp.blockstun else f.blockstun) ∧
      (f.fighterApplyHit hp blocked).state =
        if blocked then f.state else .hit := by
  rw [fighterApplyHit]
  cases blocked
  all_goals simp only [Bool.false_eq_true, if_false, if_true]
  all_goals split
  all_goals exact ⟨rfl, rfl, rfl⟩

theorem hitboxResolve_check (attacker defender : Fighter) :
    (attacker.hitboxResolve defender).2.hitboxCheck
        (attacker.hitboxResolve defender).1 =
      defender.hitboxCheck attacker := by
  rw [hitboxResolve, fighterApplyHit]
  split_ifs <;> rfl

theorem hitboxResolve_state (attacker defender : Fighter) :
    (attacker.hitboxResolve defender).2.state =
      if defender.state = .block ∨ defender.state = .crouch then
        defender.state
      else .hit := by
  rw [hitboxResolve, (fighterApplyHit_fields _ _).2.2]
  simp only [decide_eq_true_eq]

theorem hitboxResolve_count (attacker defender : Fighter) :
    { (attacker.hitboxResolve defender).2 with
      hitboxCount := defender.hitboxCount } =
      (attacker.hitboxResolve defender).2 := by
  rw [← (fighterApplyHit_fields (f := defender) _ _).1]
  rfl

theorem hitboxResolve_resolve (attacker defender : Fighter) :
    (attacker.hitboxResolve defender).2.hitboxResolve
        (attacker.hitboxResolve defender).1 =
      ({ (attacker.hitboxResolve defender).2 with hitboxCount := 0 },
        { (defender.hitboxResolve attacker).2 with hitboxCount := 0 }) := by
  simp only [hitboxResolve, fighterApplyHit]
  split_ifs <;> rfl

def Acts : FighterState → Prop
  | .hit | .block | .crouch | .knockdown | .wakeup => False
  | .idle | .walkFwd | .walkBack | .jumpNeutral | .jumpFwd | .jumpBack
  | .attack => True

def Armed (f : Fighter) : Prop := f.hitboxCount > 0 → f.state = .attack

structure Turn (f f' : Fighter) : Prop where
  state : f'.state = f.state ∨ Acts f.state ∧ Acts f'.state
  hitstun : f'.hitstun = f.hitstun
  blockstun : f'.blockstun = f.blockstun
  armed : f.Armed → f'.Armed

theorem Turn.refl (f : Fighter) : Turn f f := ⟨.inl rfl, rfl, rfl, id⟩

theorem Turn.trans {f f' f'' : Fighter} (first : Turn f f')
    (second : Turn f' f'') : Turn f f'' where
  state := by
    rcases second.state with same | ⟨acts, acts'⟩
    · rw [same]
      exact first.state
    · rcases first.state with same | ⟨acts'', _⟩
      · exact .inr ⟨same ▸ acts, acts'⟩
      · exact .inr ⟨acts'', acts'⟩
  hitstun := second.hitstun.trans first.hitstun
  blockstun := second.blockstun.trans first.blockstun
  armed armed := second.armed (first.armed armed)

theorem onGround.acts (ground : f.onGround) : Acts f.state := by
  rcases ground with state | state | state
  all_goals rw [state]; trivial

theorem inJump.acts (jumps : f.inJump) : Acts f.state := by
  rcases jumps with state | state | state
  all_goals rw [state]; trivial

theorem onGround.unarmed (ground : f.onGround) (armed : f.Armed) :
    ¬ f.hitboxCount > 0 := by
  intro live
  rw [onGround, armed live] at ground
  simp at ground

theorem inJump.unarmed (jumps : f.inJump) (armed : f.Armed) :
    ¬ f.hitboxCount > 0 := by
  intro live
  rw [inJump, armed live] at jumps
  simp at jumps

theorem physics_turn (f opponent : Fighter) :
    Turn f (physics (faceOpponent opponent f)) := by
  have faced : Turn f (faceOpponent opponent f) := by
    rw [faceOpponent]
    split
    next => exact ⟨.inl rfl, rfl, rfl, id⟩
    next => exact .refl f
  refine faced.trans ?_
  generalize faceOpponent opponent f = f
  have fell : Turn f (physicsApplyGravity f) := by
    rw [physicsApplyGravity]
    split
    next => exact ⟨.inl rfl, rfl, rfl, id⟩
    next => exact .refl f
  rw [physics, physicsClampToStage_eq]
  refine fell.trans ?_
  generalize physicsApplyGravity f = f
  rw [physicsMove]
  dsimp only
  split_ifs with landed jumping
  · have jumps : f.inJump := jumping
    exact ⟨.inr ⟨jumps.acts, trivial⟩, rfl, rfl,
      fun armed live => absurd live (jumps.unarmed armed)⟩
  · exact ⟨.inl rfl, rfl, rfl, id⟩
  · exact ⟨.inl rfl, rfl, rfl, id⟩

theorem land_turn (airborne : Bool) (f : Fighter) :
    Turn f (land airborne f) := by
  rw [land]
  split
  next landed =>
    refine ⟨.inr ⟨?_, trivial⟩, rfl, rfl, fun _ live => ?_⟩
    · rw [landed.2.1]
      trivial
    · exact absurd live (lt_irrefl (0 : Int))
  next => exact .refl f

theorem attackTick_turn (airborne : Bool) (attacks : f.state = .attack) :
    Turn f (attackTick airborne f) := by
  have activated (mv : MoveData) : Turn f (activateHitbox mv f) := by
    rw [activateHitbox]
    split
    next => exact ⟨.inl rfl, rfl, rfl, fun _ _ => attacks⟩
    next => exact ⟨.inl rfl, rfl, rfl, fun _ _ => attacks⟩
  rw [attackTick]
  split
  next => exact .refl f
  next fd _ =>
    split
    next known =>
      dsimp only
      generalize fd.moves[f.moveId] = mv
      refine (activated mv).trans ?_
      have attacks' : (activateHitbox mv f).state = .attack := by
        rw [activateHitbox]
        split
        next => exact attacks
        next => exact attacks
      rw [endMove]
      split
      next =>
        refine ⟨.inr ⟨?_, ?_⟩, rfl, rfl, fun _ live => ?_⟩
        · rw [attacks']
          trivial
        · cases airborne <;> trivial
        · exact absurd live (lt_irrefl (0 : Int))
      next => exact .refl _
    next => exact .refl f

theorem groundMove_turn (input : UInt16) (f : Fighter) :
    Turn f (groundMove input f) := by
  rcases groundMove_cases f input with same | ⟨ground, stance, moved⟩
  · rw [same]
    exact .refl f
  · have acts : Acts (groundMove input f).state := by
      rcases stance with ground | jumps
      · exact ground.acts
      · exact jumps.acts
    rw [moved]
    exact ⟨.inr ⟨ground.acts, acts⟩, rfl, rfl,
      fun armed live => absurd live (ground.unarmed armed)⟩

theorem jumpPunch_turn (airborne : Bool) (justPressed : UInt16)
    (f : Fighter) : Turn f (jumpPunch airborne justPressed f) := by
  rcases jumpPunch_cases f airborne justPressed with
    same | ⟨jumps, _, _, _, _, punches⟩
  · rw [same]
    exact .refl f
  · rw [punches]
    exact ⟨.inr ⟨jumps.acts, trivial⟩, rfl, rfl, fun _ _ => rfl⟩

theorem fighterTick_turn (input : UInt16) (opponent : Fighter)
    (free : ¬ f.hitstun > 0 ∧ ¬ f.blockstun > 0) :
    Turn f (f.fighterTick input opponent) := by
  rw [fighterTick, if_neg free.1, if_neg free.2]
  dsimp only
  have landed := (physics_turn f opponent).trans
    (land_turn (physics (faceOpponent opponent f)).isAirborne _)
  refine landed.trans ?_
  generalize (physics (faceOpponent opponent f)).isAirborne = airborne
  generalize land airborne (physics (faceOpponent opponent f)) = f
  have acted : Turn f (if f.state = .attack then attackTick airborne f
      else jumpPunch airborne (input &&& ~~~f.prevInput)
        (groundMove input f)) := by
    split
    next attacks => exact attackTick_turn airborne attacks
    next => exact (groundMove_turn ..).trans (jumpPunch_turn ..)
  exact acted.trans ⟨.inl rfl, rfl, rfl, id⟩

/-- In a stun only the stun changes. -/
theorem fighterTick_state (input : UInt16) (opponent : Fighter) :
    (f.fighterTick input opponent).state = f.state ∨
      Acts f.state ∧ Acts (f.fighterTick input opponent).state := by
  by_cases hit : f.hitstun > 0
  · rw [fighterTick, if_pos hit]
    exact .inl rfl
  · by_cases blocks : f.blockstun > 0
    · rw [fighterTick, if_neg hit, if_pos blocks]
      exact .inl rfl
    · exact (fighterTick_turn input opponent ⟨hit, blocks⟩).state

theorem exchanged_state : (f.exchanged opponent).state =
    if opponent.hitboxCheck f = true ∧
      ¬ (f.state = .block ∨ f.state = .crouch) then .hit else f.state := by
  rw [exchanged]
  dsimp only
  split
  next struck =>
    rw [hitboxResolve_state]
    simp only [struck, true_and, ite_not]
  next missed => rw [if_neg fun both => missed both.1]

end Fighter

namespace SimState

open Fighter

theorem resolveHits_eq (p1 p2 : Fighter) :
    resolveHits p1 p2 = (p1.exchanged p2, p2.exchanged p1) := by
  rw [resolveHits, exchanged, exchanged]
  cases p1.hitboxCheck p2
  · simp only [Bool.false_eq_true, if_false]
    cases p2.hitboxCheck p1
    · rfl
    · simp only [if_true, hitboxResolve_count]
      rfl
  · simp only [if_true, hitboxResolve_check]
    cases p2.hitboxCheck p1
    · simp only [Bool.false_eq_true, if_false, hitboxResolve_count]
      rfl
    · simp only [if_true, hitboxResolve_resolve]
      rfl

theorem physicsPushApart_eq (p1 p2 : Fighter) :
    ∃ x x' : ℚ, p1.physicsPushApart p2 =
      ({ p1 with x := x }, { p2 with x := x' }) := by
  rw [physicsPushApart]
  dsimp only
  split
  next =>
    rw [physicsClampToStage_eq, physicsClampToStage_eq]
    exact ⟨_, _, rfl⟩
  next => exact ⟨p1.x, p2.x, rfl⟩

def fighter (s : SimState) : Slot → Fighter
  | .p1 => s.p1
  | .p2 => s.p2

def inputOf (inputs : UInt16 × UInt16) : Slot → UInt16
  | .p1 => inputs.1
  | .p2 => inputs.2

def moved (s : SimState) (inputs : UInt16 × UInt16) : Slot → Fighter
  | .p1 => s.p1.fighterTick inputs.1 s.p2
  | .p2 => s.p2.fighterTick inputs.2 (s.p1.fighterTick inputs.1 s.p2)

/-- The attacker and the defender when `hitbox_check` compares the two. -/
def atCheck (s : SimState) (inputs : UInt16 × UInt16) :
    Slot → Fighter × Fighter
  | .p1 => (s.moved inputs .p1, s.moved inputs .p2)
  | .p2 =>
      let p1 := s.moved inputs .p1
      let p2 := s.moved inputs .p2
      (if p1.hitboxCheck p2 then p1.hitboxResolve p2 else (p1, p2)).swap

def lands (s : SimState) (inputs : UInt16 × UInt16) (attacker : Slot) :
    Bool :=
  !s.round.matchOver &&
    (s.atCheck inputs attacker).1.hitboxCheck (s.atCheck inputs attacker).2

variable {s : SimState} {inputs : UInt16 × UInt16}

theorem moved_eq (s : SimState) (inputs : UInt16 × UInt16) (slot : Slot) :
    ∃ opponent, s.moved inputs slot =
      (s.fighter slot).fighterTick (inputOf inputs slot) opponent := by
  cases slot
  · exact ⟨_, rfl⟩
  · exact ⟨_, rfl⟩

theorem step_of_over (ended : s.round.matchOver = true) :
    step s inputs = s := by
  rw [step, simulationTick, if_pos ended]

theorem lands_eq (goesOn : s.round.matchOver = false)
    (inputs : UInt16 × UInt16) (attacker : Slot) :
    s.lands inputs attacker = (s.moved inputs attacker).hitboxCheck
      (s.moved inputs attacker.other) := by
  rw [lands, goesOn]
  cases attacker
  · rfl
  · rw [atCheck]
    dsimp only [Slot.other]
    split
    next => exact hitboxResolve_check ..
    next => rfl

theorem step_fighter (goesOn : s.round.matchOver = false)
    (inputs : UInt16 × UInt16) (slot : Slot) :
    ∃ x : ℚ, (step s inputs).fighter slot =
      { (s.moved inputs slot).exchanged (s.moved inputs slot.other) with
        x := x } := by
  have fighters : fightersTick inputs.1 inputs.2 s.p1 s.p2 =
      ((s.moved inputs .p1).exchanged (s.moved inputs .p2)).physicsPushApart
        ((s.moved inputs .p2).exchanged (s.moved inputs .p1)) := by
    rw [fightersTick, resolveHits_eq]
    rfl
  obtain ⟨x, x', pushed⟩ := physicsPushApart_eq
    ((s.moved inputs .p1).exchanged (s.moved inputs .p2))
    ((s.moved inputs .p2).exchanged (s.moved inputs .p1))
  rw [step, simulationTick, goesOn]
  simp only [Bool.false_eq_true, if_false, fighters, pushed]
  cases slot
  · exact ⟨x, rfl⟩
  · exact ⟨x', rfl⟩

/-- Who is hit is in `FS_HIT`, unless it blocks. -/
theorem step_state (goesOn : s.round.matchOver = false)
    (inputs : UInt16 × UInt16) (slot : Slot) :
    ((step s inputs).fighter slot).state =
      if s.lands inputs slot.other = true ∧
          ¬ ((s.moved inputs slot).state = .block ∨
            (s.moved inputs slot).state = .crouch) then .hit
      else (s.moved inputs slot).state := by
  obtain ⟨x, stepped⟩ := step_fighter goesOn inputs slot
  rw [stepped, lands_eq goesOn, Slot.other_other]
  exact exchanged_state

end SimState

end FuryClash.Gameplay
