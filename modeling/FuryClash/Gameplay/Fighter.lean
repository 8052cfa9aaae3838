import FuryClash.Slot
import Mathlib.Algebra.Order.Ring.Abs
import Mathlib.Algebra.Order.Field.Rat

namespace FuryClash.Gameplay

/-! `fighter.c`, with the table of `fighter_data.c` and `physics.c`. Positions
and velocities are exact: a `float` is the rational number that the source
writes. -/

def fcTickDt : ℚ := 1 / 60
def fcMaxHitboxes : Nat := 4
def fcMaxHealth : Int := 1000
def fcGravity : ℚ := 1800
def fcGroundY : ℚ := 540
def fcStageLeft : ℚ := 50
def fcStageRight : ℚ := 1230

structure Rect where
  x : ℚ
  y : ℚ
  w : ℚ
  h : ℚ
  deriving DecidableEq

/-- A C `enum`, which holds any `int` that is cast to it. -/
abbrev LoadoutType := Int

def loadoutNone : LoadoutType := 0
def loadoutFire : LoadoutType := 1
def loadoutFrost : LoadoutType := 2

structure HitProperties where
  damage : Int
  chipDamage : Int
  hitstun : Int
  blockstun : Int
  knockbackX : ℚ
  knockbackY : ℚ
  deriving DecidableEq

inductive FighterState where
  | idle
  | walkFwd
  | walkBack
  | crouch
  | jumpNeutral
  | jumpFwd
  | jumpBack
  | attack
  | hit
  | block
  | knockdown
  | wakeup
  deriving DecidableEq

structure MoveData where
  totalFrames : Int
  startup : Int
  active : Int
  hit : HitProperties
  hitbox : Rect

structure FighterData where
  jumpVy : ℚ
  jumpVx : ℚ
  moveCount : Nat
  moves : Vector MoveData moveCount

def standLP : MoveData :=
  ⟨16, 4, 3, ⟨40, 8, 2, 12, 1 / 2, 0⟩, ⟨10, -80, 50, 20⟩⟩

def standHP : MoveData :=
  ⟨28, 8, 4, ⟨80, 8, 4, 18, 7 / 2, 0⟩, ⟨20, -100, 60, 30⟩⟩

def qcfLP : MoveData :=
  ⟨35, 12, 8, ⟨100, 10, 6, 20, 4, -2⟩, ⟨30, -90, 80, 30⟩⟩

def jumpLP : MoveData :=
  ⟨22, 6, 6, ⟨50, 8, 3, 12, 3 / 2, 0⟩, ⟨5, -80, 60, 50⟩⟩

def jumpHP : MoveData :=
  ⟨32, 9, 5, ⟨90, 10, 4, 18, 7 / 2, 0⟩, ⟨10, -90, 65, 60⟩⟩

def ryuMoves : Vector MoveData 5 := #v[standLP, standHP, qcfLP, jumpLP, jumpHP]

def fighterDataGet (fighterId : Int) : Option FighterData :=
  if fighterId = 0 then some ⟨-900, 180, 5, ryuMoves⟩
  else if fighterId = 1 then some ⟨-920, 200, 5, ryuMoves⟩
  else none

structure Fighter where
  fighterId : Int
  playerSlot : Slot
  x : ℚ
  y : ℚ
  vx : ℚ
  vy : ℚ
  facing : Int
  state : FighterState
  stateFrame : Int
  hitstun : Int
  blockstun : Int
  comboCounter : Int
  moveId : Nat
  health : Int
  maxHealth : Int
  hitboxes : Vector Rect fcMaxHitboxes
  hitboxCount : Int
  hurtbox : Rect
  hitProps : HitProperties
  prevInput : UInt16
  loadout : LoadoutType
  damagePct : Int
  deriving DecidableEq

namespace Fighter

def zero : Fighter where
  fighterId := 0
  playerSlot := .p1
  x := 0
  y := 0
  vx := 0
  vy := 0
  facing := 0
  state := .idle
  stateFrame := 0
  hitstun := 0
  blockstun := 0
  comboCounter := 0
  moveId := 0
  health := 0
  maxHealth := 0
  hitboxes := Vector.replicate fcMaxHitboxes ⟨0, 0, 0, 0⟩
  hitboxCount := 0
  hurtbox := ⟨0, 0, 0, 0⟩
  hitProps := ⟨0, 0, 0, 0, 0, 0⟩
  prevInput := 0
  loadout := loadoutNone
  damagePct := 0

def fighterInit (fighterId : Int) (playerSlot : Slot) : Fighter :=
  { zero with
    fighterId := fighterId
    playerSlot := playerSlot
    facing := if playerSlot = .p1 then 1 else -1
    x := if playerSlot = .p1 then 300 else 980
    y := fcGroundY
    health := fcMaxHealth
    maxHealth := fcMaxHealth
    state := .idle
    hurtbox := ⟨-30, -160, 60, 160⟩ }

def onGround (f : Fighter) : Prop :=
  f.state = .idle ∨ f.state = .walkFwd ∨ f.state = .walkBack

instance (f : Fighter) : Decidable f.onGround :=
  inferInstanceAs (Decidable (_ ∨ _))

def inJump (f : Fighter) : Prop :=
  f.state = .jumpNeutral ∨ f.state = .jumpFwd ∨ f.state = .jumpBack

instance (f : Fighter) : Decidable f.inJump :=
  inferInstanceAs (Decidable (_ ∨ _))

/-! `physics.c`. -/

def physicsApplyGravity (f : Fighter) : Fighter :=
  if f.y < fcGroundY then { f with vy := f.vy + fcGravity * fcTickDt } else f

def physicsMove (f : Fighter) : Fighter :=
  let f := { f with x := f.x + f.vx * fcTickDt, y := f.y + f.vy * fcTickDt }
  if f.y ≥ fcGroundY then
    let f := { f with y := fcGroundY, vy := 0 }
    if f.inJump then { f with state := .idle, stateFrame := 0, vx := 0 } else f
  else f

def physicsClampToStage (f : Fighter) : Fighter :=
  let f := if f.x < fcStageLeft then { f with x := fcStageLeft } else f
  if f.x > fcStageRight then { f with x := fcStageRight } else f

def physicsPushApart (p1 p2 : Fighter) : Fighter × Fighter :=
  let overlapThreshold : ℚ := 60
  let dx := p2.x - p1.x
  let dist := |dx|
  if dist < overlapThreshold ∧ dist > 1 / 10 then
    let push := (overlapThreshold - dist) * (1 / 2)
    let dir : ℚ := if dx > 0 then 1 else -1
    (physicsClampToStage { p1 with x := p1.x - push * dir },
      physicsClampToStage { p2 with x := p2.x + push * dir })
  else (p1, p2)

def jumpMoveFirst : Nat := 3

/-- `(input >> n) & 1`. -/
def pressed (input : UInt16) (n : UInt16) : Bool :=
  decide ((input >>> n) &&& 1 = 1)

def faceOpponent (opponent f : Fighter) : Fighter :=
  if f.onGround then
    { f with facing := if opponent.x - f.x ≥ 0 then 1 else -1 }
  else f

def physics (f : Fighter) : Fighter :=
  physicsClampToStage (physicsMove (physicsApplyGravity f))

def isAirborne (f : Fighter) : Bool := decide (f.y < fcGroundY - 1)

def land (airborne : Bool) (f : Fighter) : Fighter :=
  if ¬ airborne ∧ f.state = .attack ∧ f.moveId ≥ jumpMoveFirst then
    { f with state := .idle, stateFrame := 0, hitboxCount := 0, vx := 0 }
  else f

def activateHitbox (mv : MoveData) (f : Fighter) : Fighter :=
  if f.stateFrame ≥ mv.startup ∧ f.stateFrame < mv.startup + mv.active then
    { f with
      hitboxes := f.hitboxes.set 0 mv.hitbox (by decide)
      hitboxCount := 1
      hitProps := mv.hit }
  else { f with hitboxCount := 0 }

def endMove (mv : MoveData) (airborne : Bool) (f : Fighter) : Fighter :=
  if f.stateFrame ≥ mv.totalFrames then
    { f with
      state := if airborne then .jumpNeutral else .idle
      stateFrame := 0
      hitboxCount := 0 }
  else f

def attackTick (airborne : Bool) (f : Fighter) : Fighter :=
  match fighterDataGet f.fighterId with
  | none => f
  | some fd =>
      if known : f.moveId < fd.moveCount then
        let mv := fd.moves[f.moveId]
        endMove mv airborne (activateHitbox mv f)
      else f

def groundMove (input : UInt16) (f : Fighter) : Fighter :=
  let pressUp := pressed input 0
  let pressFwd := pressed input 3
  let pressBack := pressed input 2
  let moveFwd := if f.facing > 0 then pressFwd else pressBack
  if f.onGround then
    if pressUp then
      let fd := fighterDataGet f.fighterId
      let jvy := (fd.map (·.jumpVy)).getD (-900)
      let jvx := (fd.map (·.jumpVx)).getD 180
      let f := { f with vy := jvy }
      let f :=
        if moveFwd then { f with state := .jumpFwd, vx := jvx * f.facing }
        else if pressFwd ∨ pressBack then
          { f with state := .jumpBack, vx := -jvx * f.facing }
        else { f with state := .jumpNeutral, vx := 0 }
      { f with stateFrame := 0 }
    else if moveFwd then { f with state := .walkFwd, vx := 200 * f.facing }
    else if pressFwd ∨ pressBack then
      { f with state := .walkBack, vx := -150 * f.facing }
    else { f with state := .idle, vx := 0 }
  else f

def jumpPunch (airborne : Bool) (justPressed : UInt16) (f : Fighter) :
    Fighter :=
  if airborne ∧ f.inJump then
    let lp := pressed justPressed 4
    let hp := pressed justPressed 5
    if lp ∨ hp then
      match fighterDataGet f.fighterId with
      | none => f
      | some fd =>
          let mid := if hp then 4 else 3
          if mid < fd.moveCount then
            { f with
              state := .attack
              moveId := mid
              stateFrame := 0
              hitboxCount := 0 }
          else f
    else f
  else f

def fighterTick (f : Fighter) (input : UInt16) (opponent : Fighter) :
    Fighter :=
  if f.hitstun > 0 then { f with hitstun := f.hitstun - 1 }
  else if f.blockstun > 0 then { f with blockstun := f.blockstun - 1 }
  else
    let f := physics (faceOpponent opponent f)
    let airborne := f.isAirborne
    let f := land airborne f
    let justPressed := input &&& ~~~f.prevInput
    let f :=
      if f.state = .attack then attackTick airborne f
      else jumpPunch airborne justPressed (groundMove input f)
    { f with stateFrame := f.stateFrame + 1, prevInput := input }

def fighterApplyHit (f : Fighter) (hp : HitProperties) (blocked : Bool) :
    Fighter :=
  let f :=
    if blocked then
      { f with
        health := f.health - hp.chipDamage
        blockstun := hp.blockstun
        vx := -hp.knockbackX * (3 / 10) }
    else
      { f with
        health := f.health - hp.damage
        hitstun := hp.hitstun
        vx := -hp.knockbackX
        vy := hp.knockbackY
        comboCounter := f.comboCounter + 1
        state := .hit
        stateFrame := 0 }
  if f.health < 0 then { f with health := 0 } else f

/-! `hitbox.c`. -/

def rectsOverlap (ax ay aw ah bx bY bw bh : ℚ) : Bool :=
  decide (ax < bx + bw ∧ ax + aw > bx ∧ ay < bY + bh ∧ ay + ah > bY)

def hitboxCheck (attacker defender : Fighter) : Bool :=
  let hx := defender.x + defender.hurtbox.x
  let hy := defender.y + defender.hurtbox.y
  (attacker.hitboxes.toList.take attacker.hitboxCount.toNat).any fun hb =>
    -- the box is turned around when the attacker faces left
    rectsOverlap (attacker.x + hb.x * attacker.facing) (attacker.y + hb.y)
      hb.w hb.h hx hy defender.hurtbox.w defender.hurtbox.h

def hitboxResolve (attacker defender : Fighter) : Fighter × Fighter :=
  let blocked := decide (defender.state = .block ∨ defender.state = .crouch)
  let hp := { attacker.hitProps with
    damage := (attacker.hitProps.damage * attacker.damagePct).tdiv 100
    chipDamage := (attacker.hitProps.chipDamage * attacker.damagePct).tdiv 100 }
  ({ attacker with hitboxCount := 0 }, defender.fighterApplyHit hp blocked)

end Fighter

end FuryClash.Gameplay
