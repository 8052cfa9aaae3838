import FuryClash.Client.Duel

namespace FuryClash.Client

open FuryClash.Data

variable {S : Type}

/-! The invariant of two clients on a steady run: what each has of its own, and
what it has of the other's inputs. Frame numbers of the two fights agree, so
that `base + 1 + i` is the frame of the `i`-th tick on both sides. -/

namespace Peer

structure Sound (simulation : Simulation S) (initial : S) (slot : Slot)
    (peer : Peer S) : Prop where
  ticked : peer.fight.played.length ≤ peer.fight.currentFrame
  sent : ∀ i : Nat, peer.sent[i]? = peer.fight.played[i]?.map
    fun input => (peer.fight.baseFrame + 1 + i, input.1)
  idle : peer.fighting = false → peer.fight.played = []
  live : peer.fighting = true →
    peer.fight.Live simulation slot.number ∧ peer.fight.initial = initial
  unmarked : peer.fighting = true → peer.fight.engine.divergeFrame = none

/-- What `peer` knows of the inputs of `sender`: those that have arrived early
wait in the ring, those that are late were guessed as the ring records, and
those that arrived were used. -/
structure Receives (peer sender : Peer S) : Prop where
  bound : peer.received ≤ sender.sent.length
  aligned : peer.fighting = true → sender.fighting = true →
    peer.fight.baseFrame = sender.fight.baseFrame
  ahead : ∀ i < peer.received,
    sender.fight.baseFrame + 1 + i <
      peer.fight.currentFrame + fcRollbackFrames
  early : ∀ i < peer.received,
    peer.fight.currentFrame < sender.fight.baseFrame + 1 + i →
      let entry := peer.fight.engine.buf.get (sender.fight.baseFrame + 1 + i)
      entry.remoteConfirmed = true ∧
        sender.fight.played[i]?.map Prod.fst = some entry.remoteInput
  late : peer.fighting = true → ∀ i < peer.fight.played.length,
    peer.received ≤ i →
    peer.fight.currentFrame <
        peer.fight.baseFrame + 1 + i + fcRollbackFrames →
      let entry := peer.fight.engine.buf.get (peer.fight.baseFrame + 1 + i)
      entry.remoteConfirmed = false ∧
        peer.fight.played[i]?.map Prod.snd = some entry.remoteInput
  used : ∀ i < peer.received, i < peer.fight.played.length →
    peer.fight.played[i]?.map Prod.snd = sender.fight.played[i]?.map Prod.fst

variable {simulation : Simulation S} {initial : S} {slot : Slot}
  {peer sender : Peer S}

theorem Sound.length_sent (sound : peer.Sound simulation initial slot) :
    peer.sent.length = peer.fight.played.length := by
  apply Nat.le_antisymm
  · by_contra longer
    have beyond := sound.sent peer.fight.played.length
    rw [List.getElem?_eq_none (Nat.le_refl _), Option.map_none,
      List.getElem?_eq_none_iff] at beyond
    omega
  · by_contra shorter
    have beyond := sound.sent peer.sent.length
    rw [List.getElem?_eq_none (Nat.le_refl _), eq_comm, Option.map_eq_none_iff,
      List.getElem?_eq_none_iff] at beyond
    omega

theorem Sound.base_add_played (sound : peer.Sound simulation initial slot) :
    peer.fight.baseFrame + peer.fight.played.length =
      peer.fight.currentFrame :=
  Nat.sub_add_cancel sound.ticked

theorem Sound.fighting_of_played (sound : peer.Sound simulation initial slot)
    {i : Nat} (played : i < peer.fight.played.length) :
    peer.fighting = true := by
  by_contra lobby
  rw [sound.idle (Bool.eq_false_of_not_eq_true lobby)] at played
  cases played

theorem Receives.sender_fighting (receives : peer.Receives sender)
    (sound : sender.Sound simulation initial slot) {i : Nat}
    (got : i < peer.received) : sender.fighting = true := by
  apply sound.fighting_of_played
  rw [← sound.length_sent]
  exact Nat.lt_of_lt_of_le got receives.bound

theorem tick_lobby (lobby : peer.fighting = false) (localInput : UInt16) :
    peer.tick simulation slot localInput =
      { peer with fight :=
        { peer.fight with currentFrame := peer.fight.currentFrame + 1 } } := by
  simp [tick, lobby]

theorem sound_tick_lobby (sound : peer.Sound simulation initial slot)
    (lobby : peer.fighting = false) (localInput : UInt16) :
    (peer.tick simulation slot localInput).Sound simulation initial slot := by
  have empty := sound.idle lobby
  rw [tick_lobby lobby]
  constructor
  · simp [empty]
  · intro i
    have none := sound.sent i
    simpa [empty] using none
  · exact fun _ => empty
  · intro fighting
    simp [lobby] at fighting
  · intro fighting
    simp [lobby] at fighting

theorem receives_tick_lobby (sound : peer.Sound simulation initial slot)
    (receives : peer.Receives sender) (lobby : peer.fighting = false)
    (localInput : UInt16) :
    (peer.tick simulation slot localInput).Receives sender := by
  have empty := sound.idle lobby
  rw [tick_lobby lobby]
  constructor
  · exact receives.bound
  · intro fighting
    simp [lobby] at fighting
  · intro i got
    have ahead := receives.ahead i got
    simp only
    omega
  · intro i got above
    exact receives.early i got (Nat.lt_of_succ_lt above)
  · intro fighting
    simp [lobby] at fighting
  · intro i _ played
    simp [empty] at played

/-- What `peer` has of `sender` outlives the steps that only extend the sender's
history. -/
theorem Receives.extend {extended : Peer S} (receives : peer.Receives sender)
    (sound : sender.Sound simulation initial slot)
    (base : sender.fighting = true →
      extended.fight.baseFrame = sender.fight.baseFrame)
    (aligned : peer.fighting = true → extended.fighting = true →
      peer.fight.baseFrame = extended.fight.baseFrame)
    (sent : sender.sent.length ≤ extended.sent.length)
    (played : ∀ i < sender.fight.played.length,
      extended.fight.played[i]? = sender.fight.played[i]?) :
    peer.Receives extended := by
  have within : ∀ i < peer.received, i < sender.fight.played.length := by
    intro i got
    rw [← sound.length_sent]
    exact Nat.lt_of_lt_of_le got receives.bound
  constructor
  · exact Nat.le_trans receives.bound sent
  · exact aligned
  · intro i got
    rw [base (receives.sender_fighting sound got)]
    exact receives.ahead i got
  · intro i got above
    rw [base (receives.sender_fighting sound got)] at above ⊢
    rw [played i (within i got)]
    exact receives.early i got above
  · exact receives.late
  · intro i got ticked
    rw [played i (within i got)]
    exact receives.used i got ticked

theorem tick_fight (fighting : peer.fighting = true) (localInput : UInt16) :
    peer.tick simulation slot localInput =
      { peer with
        fight := Fight.step simulation slot.number peer.fight
          (.tick localInput)
        sent := peer.sent ++ [(peer.fight.currentFrame + 1, localInput)] } := by
  simp [tick, fighting]

theorem sound_tick_fight (sound : peer.Sound simulation initial slot)
    (fighting : peer.fighting = true)
    (steady : peer.fight.engine.rollbackNeedsResim = false)
    (localInput : UInt16) :
    (peer.tick simulation slot localInput).Sound simulation initial slot := by
  have ticked := sound.ticked
  rw [tick_fight fighting]
  constructor
  · simpa [Fight.step] using ticked
  · intro i
    rw [Fight.baseFrame_tick _ _ ticked]
    simp only [Fight.step]
    by_cases old : i < peer.fight.played.length
    · rw [List.getElem?_append_left (by rwa [sound.length_sent]),
        List.getElem?_append_left old]
      exact sound.sent i
    · rw [List.getElem?_append_right (by rw [sound.length_sent]; omega),
        List.getElem?_append_right (by omega), sound.length_sent]
      by_cases new : i = peer.fight.played.length
      · subst new
        simp only [Nat.sub_self, List.getElem?_cons_zero, Option.map_some,
          Fight.baseFrame, Option.some.injEq, Prod.mk.injEq, and_true]
        omega
      · rw [List.getElem?_eq_none (by simp; omega),
          List.getElem?_eq_none (by simp; omega), Option.map_none]
  · intro lobby
    simp [fighting] at lobby
  · intro _
    exact ⟨Fight.live_step _ _ (sound.live fighting).1 steady,
      (sound.live fighting).2⟩
  · intro _
    simp [Fight.step, fightTick_of_steady steady, sound.unmarked fighting]

theorem receives_tick_fight (sound : peer.Sound simulation initial slot)
    (senderSound : sender.Sound simulation initial slot.other)
    (receives : peer.Receives sender) (fighting : peer.fighting = true)
    (steady : peer.fight.engine.rollbackNeedsResim = false)
    (recorded : peer.fight.engine.rollbackGetRemote
        (peer.fight.currentFrame + 1) =
      (peer.fight.engine.buf.get (peer.fight.currentFrame + 1)).remoteInput)
    (localInput : UInt16) :
    (peer.tick simulation slot localInput).Receives sender := by
  have ticked := sound.ticked
  have base := sound.base_add_played
  have aligned : ∀ {i}, i < peer.received →
      peer.fight.baseFrame = sender.fight.baseFrame := fun got =>
    receives.aligned fighting (receives.sender_fighting senderSound got)
  rw [tick_fight fighting]
  constructor
  · exact receives.bound
  · rw [Fight.baseFrame_tick _ _ ticked]
    exact receives.aligned
  · intro i got
    have ahead := receives.ahead i got
    simp only [Fight.step]
    omega
  · intro i got above
    have ahead := receives.ahead i got
    simp only [Fight.step, fightTick_of_steady steady] at above ⊢
    rw [Engine.rollbackSave_get_of_near _ (by omega) (by omega) (by omega)]
    exact receives.early i got (by omega)
  · intro _ i played missing window
    rw [Fight.baseFrame_tick _ _ ticked] at window ⊢
    simp only [Fight.step, fightTick_of_steady steady, List.length_append,
      List.length_singleton] at played missing window ⊢
    by_cases last : i = peer.fight.played.length
    · subst last
      rw [show peer.fight.baseFrame + 1 + peer.fight.played.length =
        peer.fight.currentFrame + 1 by omega, Engine.rollbackSave_get_self]
      simpa using recorded
    · rw [Engine.rollbackSave_get_of_near _ (by omega) (by omega) (by omega),
        List.getElem?_append_left (by omega)]
      exact receives.late fighting i (by omega) missing (by omega)
  · intro i got played
    simp only [Fight.step, List.length_append, List.length_singleton]
      at got played ⊢
    by_cases last : i = peer.fight.played.length
    · -- the input has arrived before the tick, and is what the ring returns
      subst last
      have frame : sender.fight.baseFrame + 1 + peer.fight.played.length =
          peer.fight.currentFrame + 1 := by
        rw [← aligned got]
        omega
      have waiting := receives.early _ got (by omega)
      rw [frame] at waiting
      simp [recorded, waiting.2]
    · rw [List.getElem?_append_left (by omega)]
      exact receives.used i got (by omega)

theorem extend_tick (sound : sender.Sound simulation initial slot)
    (receives : peer.Receives sender) (localInput : UInt16) :
    peer.Receives (sender.tick simulation slot localInput) := by
  cases fighting : sender.fighting with
  | false =>
      rw [tick_lobby fighting]
      refine receives.extend sound ?_ ?_ (Nat.le_refl _) fun _ _ => rfl
      · intro contra
        simp [fighting] at contra
      · intro _ contra
        simp [fighting] at contra
  | true =>
      rw [tick_fight fighting]
      have base := Fight.baseFrame_tick simulation slot.number sound.ticked
        localInput
      refine receives.extend sound (fun _ => base) ?_ ?_ ?_
      · intro peerFighting _
        exact (receives.aligned peerFighting fighting).trans base.symm
      · simp
      · intro i played
        exact List.getElem?_append_left played

theorem enterFight_lobby (lobby : peer.fighting = false) :
    peer.enterFight initial =
      { peer with
        fight := Fight.start peer.fight.currentFrame
          { peer.fight.engine with sim := initial }
        fighting := true } := by
  simp [enterFight, lobby]

theorem sound_enterFight (sound : peer.Sound simulation initial slot)
    (lobby : peer.fighting = false)
    (steady : peer.fight.engine.rollbackNeedsResim = false) :
    (peer.enterFight initial).Sound simulation initial slot := by
  have empty := sound.idle lobby
  rw [enterFight_lobby lobby]
  constructor
  · simp [Fight.start]
  · intro i
    have none := sound.sent i
    simpa [Fight.start, empty] using none
  · intro contra
    simp at contra
  · exact fun _ => ⟨rfl, rfl⟩
  · intro _
    exact Engine.steady_iff_unmarked.mp steady

theorem receives_enterFight (receives : peer.Receives sender)
    (lobby : peer.fighting = false)
    (aligned : sender.fighting = true →
      peer.fight.currentFrame = sender.fight.baseFrame) :
    (peer.enterFight initial).Receives sender := by
  rw [enterFight_lobby lobby]
  constructor
  · exact receives.bound
  · intro _ fighting
    simpa [Fight.start, Fight.baseFrame] using aligned fighting
  · exact receives.ahead
  · exact receives.early
  · intro _ i played
    simp [Fight.start] at played
  · intro i _ played
    simp [Fight.start] at played

theorem extend_enterFight (sound : sender.Sound simulation initial slot)
    (receives : peer.Receives sender) (lobby : sender.fighting = false)
    (aligned : peer.fighting = true →
      sender.fight.currentFrame = peer.fight.baseFrame) :
    peer.Receives (sender.enterFight initial) := by
  rw [enterFight_lobby lobby]
  refine receives.extend sound ?_ ?_ (Nat.le_refl _) ?_
  · intro contra
    simp [lobby] at contra
  · intro fighting _
    simpa [Fight.start, Fight.baseFrame] using (aligned fighting).symm
  · intro i played
    simp [sound.idle lobby] at played

@[simp] theorem baseFrame_confirm (fight : Fight S) (localSlot : Int)
    (frame : Nat) (input : UInt16) :
    (Fight.step simulation localSlot fight (.confirm frame input)).baseFrame =
      fight.baseFrame := rfl

theorem sound_deliver (sound : peer.Sound simulation initial slot)
    {pair : Nat × UInt16}
    (agrees : ¬ peer.fight.engine.Diverges pair.1 pair.2) :
    (peer.deliver simulation slot (some pair)).Sound
      simulation initial slot := by
  constructor
  · exact sound.ticked
  · exact sound.sent
  · exact sound.idle
  · exact sound.live
  · intro fighting
    simpa [deliver, Fight.step, Engine.rollbackConfirmRemote, agrees] using
      sound.unmarked fighting

theorem receives_deliver (sound : peer.Sound simulation initial slot)
    (senderSound : sender.Sound simulation initial slot.other)
    (receives : peer.Receives sender) {pair : Nat × UInt16}
    (arriving : sender.sent[peer.received]? = some pair)
    (agrees : ¬ peer.fight.engine.Diverges pair.1 pair.2)
    (near : pair.1 < peer.fight.currentFrame + fcRollbackFrames)
    (recent : peer.fight.currentFrame < pair.1 + fcRollbackFrames) :
    (peer.deliver simulation slot (some pair)).Receives sender := by
  have base := sound.base_add_played
  obtain ⟨inBounds, _⟩ := List.getElem?_eq_some_iff.mp arriving
  have inHistory : peer.received < sender.fight.played.length := by
    rwa [← senderSound.length_sent]
  have fighting := senderSound.fighting_of_played inHistory
  obtain ⟨frame, input⟩ := pair
  have history := (senderSound.sent peer.received).symm.trans arriving
  rw [Option.map_eq_some_iff] at history
  obtain ⟨tick, tickEq, pairEq⟩ := history
  rw [Prod.mk.injEq] at pairEq
  obtain ⟨frameEq, inputEq⟩ := pairEq
  subst frameEq inputEq
  constructor
  · exact inBounds
  · exact receives.aligned
  · intro i got
    have got : i ≤ peer.received := Nat.lt_succ_iff.mp got
    simp only [deliver, Fight.step] at near ⊢
    omega
  · intro i got above
    have got : i ≤ peer.received := Nat.lt_succ_iff.mp got
    simp only [deliver, Fight.step] at near above ⊢
    by_cases last : i = peer.received
    · subst last
      simp [tickEq]
    · rw [Engine.rollbackConfirmRemote_get_of_near _ _ (by omega) (by omega)
        (by omega)]
      exact receives.early i (by omega) above
  · intro peerFighting i played missing window
    have aligned := receives.aligned peerFighting fighting
    change peer.received + 1 ≤ i at missing
    simp only [deliver, baseFrame_confirm] at window ⊢
    simp only [deliver, Fight.step] at played window ⊢
    rw [Engine.rollbackConfirmRemote_get_of_near _ _ (by omega) (by omega)
      (by omega)]
    exact receives.late peerFighting i played (by omega) window
  · intro i got played
    have got : i ≤ peer.received := Nat.lt_succ_iff.mp got
    simp only [deliver, Fight.step] at played ⊢
    by_cases last : i = peer.received
    · -- a late input: it was guessed as the ring records, and does not diverge
      subst last
      have peerFighting := sound.fighting_of_played played
      have aligned := receives.aligned peerFighting fighting
      have guessed := receives.late peerFighting _ played (Nat.le_refl _)
        (by rwa [aligned])
      rw [aligned] at guessed
      simp only [Engine.Diverges, guessed.1, true_and, ne_eq,
        Decidable.not_not] at agrees
      simp [guessed.2, agrees, tickEq]
    · exact receives.used i (by omega) played

theorem extend_deliver (sound : sender.Sound simulation initial slot)
    (receives : peer.Receives sender) (pair : Nat × UInt16) :
    peer.Receives (sender.deliver simulation slot (some pair)) :=
  receives.extend sound (fun _ => rfl) receives.aligned (Nat.le_refl _)
    fun _ _ => rfl

end Peer

namespace Duel

structure Agreeing (simulation : Simulation S) (initial : S)
    (duel : Duel S) : Prop where
  sound : ∀ slot, (duel.peer slot).Sound simulation initial slot
  receives : ∀ slot, (duel.peer slot).Receives (duel.peer slot.other)

variable {simulation : Simulation S} {initial : S}

theorem agreeing_inLobby (currentFrame : Slot → Nat)
    (engine : Slot → Engine S) :
    (inLobby currentFrame engine).Agreeing simulation initial where
  sound slot := by
    constructor <;> simp [inLobby, Peer.inLobby, Fight.start]
  receives slot := by
    constructor <;> simp [inLobby, Peer.inLobby, Fight.start]

/-- A step of one client keeps the invariant when it keeps that client sound,
what it has of the other's inputs, and what the other has of its own. -/
theorem agreeing_set {duel : Duel S}
    (agreeing : duel.Agreeing simulation initial) {slot : Slot} {peer : Peer S}
    (sound : peer.Sound simulation initial slot)
    (receives : peer.Receives (duel.peer slot.other))
    (extend : (duel.peer slot.other).Receives peer) :
    (duel.set slot peer).Agreeing simulation initial := by
  constructor
  · intro which
    by_cases same : which = slot
    · subst same
      rwa [set_self]
    · simpa [set, Function.update_of_ne same] using agreeing.sound which
  · intro which
    by_cases same : which = slot
    · subst same
      rwa [set_self, set_other]
    · rw [Slot.eq_other_of_ne same]
      rwa [set_other, Slot.other_other, set_self]

theorem agreeing_step (duel : Duel S) (event : DuelEvent)
    (agreeing : duel.Agreeing simulation initial)
    (steady : duel.Steady event) :
    (step simulation initial duel event).Agreeing simulation initial := by
  cases event with
  | tick slot localInput =>
      have sound := agreeing.sound slot
      have receives := agreeing.receives slot
      have others := agreeing.receives slot.other
      rw [Slot.other_other] at others
      refine agreeing_set agreeing ?_ ?_
        (Peer.extend_tick sound others localInput)
      · cases fighting : (duel.peer slot).fighting with
        | false => exact Peer.sound_tick_lobby sound fighting localInput
        | true =>
            exact Peer.sound_tick_fight sound fighting (steady fighting).1
              localInput
      · cases fighting : (duel.peer slot).fighting with
        | false =>
            exact Peer.receives_tick_lobby sound receives fighting localInput
        | true =>
            exact Peer.receives_tick_fight sound (agreeing.sound slot.other)
              receives fighting (steady fighting).1 (steady fighting).2
              localInput
  | enterFight slot =>
      have sound := agreeing.sound slot
      have receives := agreeing.receives slot
      have others := agreeing.receives slot.other
      rw [Slot.other_other] at others
      cases fighting : (duel.peer slot).fighting with
      | false =>
          obtain ⟨settled, aligned⟩ := steady fighting
          exact agreeing_set agreeing
            (Peer.sound_enterFight sound fighting settled)
            (Peer.receives_enterFight receives fighting aligned)
            (Peer.extend_enterFight sound others fighting aligned)
      | true =>
          have unchanged : (duel.peer slot).enterFight initial =
              duel.peer slot := by
            simp [Peer.enterFight, fighting]
          refine agreeing_set agreeing ?_ ?_ ?_ <;> rwa [unchanged]
  | deliver slot =>
      have sound := agreeing.sound slot
      have receives := agreeing.receives slot
      have others := agreeing.receives slot.other
      rw [Slot.other_other] at others
      cases arriving : duel.arriving slot with
      | none =>
          simp only [step, arriving]
          exact agreeing_set agreeing sound receives others
      | some pair =>
          obtain ⟨agrees, near, recent⟩ := steady pair arriving
          simp only [step, arriving]
          exact agreeing_set agreeing (Peer.sound_deliver sound agrees)
            (Peer.receives_deliver sound (agreeing.sound slot.other) receives
              arriving agrees near recent)
            (Peer.extend_deliver sound others pair)

theorem tickPlaced_slots (localInput remote : UInt16) (state : S) :
    simulation.tickPlaced (Slot.number .p1) localInput remote state =
      simulation.tickPlaced (Slot.number .p2) remote localInput state :=
  rfl

theorem playLive_swap {left right : List (UInt16 × UInt16)} (state : S)
    (swapped : left = right.map Prod.swap) :
    Fight.playLive simulation (Slot.number .p1) left state =
      Fight.playLive simulation (Slot.number .p2) right state := by
  subst swapped
  induction right generalizing state with
  | nil => rfl
  | cons input rest ih =>
      simp only [List.map_cons, Fight.playLive, List.foldl_cons]
      rw [Prod.fst_swap, Prod.snd_swap, tickPlaced_slots]
      exact ih _

theorem Agreeing.swapped {duel : Duel S}
    (agreeing : duel.Agreeing simulation initial) (level : duel.Level) :
    (duel.peer .p1).fight.played =
      (duel.peer .p2).fight.played.map Prod.swap := by
  have length : (duel.peer .p1).fight.played.length =
      (duel.peer .p2).fight.played.length := (level .p1).2.1
  have used : ∀ slot i, i < (duel.peer slot).fight.played.length →
      (duel.peer slot).fight.played[i]?.map Prod.snd =
        (duel.peer slot.other).fight.played[i]?.map Prod.fst := by
    intro slot i played
    apply (agreeing.receives slot).used i ?_ played
    rw [(level slot).2.2, (agreeing.sound slot.other).length_sent,
      ← (level slot).2.1]
    exact played
  apply List.ext_getElem?
  intro i
  by_cases played : i < (duel.peer .p1).fight.played.length
  · have played' : i < (duel.peer .p2).fight.played.length := by
      rwa [length] at played
    have remote := used .p1 i played
    have localInput := used .p2 i played'
    simp only [Slot.other, List.getElem?_eq_getElem played,
      List.getElem?_eq_getElem played', Option.map_some, Option.some.injEq]
      at remote localInput
    rw [List.getElem?_map, List.getElem?_eq_getElem played,
      List.getElem?_eq_getElem played', Option.map_some]
    exact congrArg some (Prod.ext localInput.symm remote)
  · rw [List.getElem?_eq_none (by omega), List.getElem?_map,
      List.getElem?_eq_none (by omega), Option.map_none]

theorem Agreeing.inSync {duel : Duel S}
    (agreeing : duel.Agreeing simulation initial) :
    duel.InSync simulation := by
  intro level
  have settled : ∀ slot, (duel.peer slot).settled simulation =
      Fight.playLive simulation slot.number
        (duel.peer slot).fight.played initial := by
    intro slot
    have fighting := (level slot).1
    obtain ⟨live, initialEq⟩ := (agreeing.sound slot).live fighting
    have steady := Engine.steady_iff_unmarked.mpr
      ((agreeing.sound slot).unmarked fighting)
    rw [Peer.settled, Engine.rollbackRewindAndResim_of_not_needsResim steady,
      ← initialEq]
    exact live
  rw [settled, settled]
  exact playLive_swap initial (agreeing.swapped level)

/-- Two clients stay in sync along every run whose steps are steady, whatever
the simulation, the frame counters and the rings they bring along. -/
theorem inSync_of_steady (simulation : Simulation S) (initial : S)
    (currentFrame : Slot → Nat) (engine : Slot → Engine S)
    (events : List DuelEvent)
    (steady : (step simulation initial).Along Steady
      (inLobby currentFrame engine) events) :
    (step simulation initial).Always (InSync simulation)
      (inLobby currentFrame engine) events :=
  steady.always (Agreeing simulation initial) agreeing_step
    (fun _ agreeing => agreeing.inSync)
    (agreeing_inLobby currentFrame engine)

/-- The simulation whose state is the list of its inputs. -/
def inputHistory : Simulation (List (UInt16 × UInt16)) where
  zero := []
  init _ _ _ _ := []
  tick p1Input p2Input past := past ++ [(p1Input, p2Input)]

/-- In the last fight the other client has held a button in every frame that
the ring has room for. -/
def rematch (button : UInt16) : Engine (List (UInt16 × UInt16)) :=
  ⟨[], ⟨fun _ => ⟨[], 0, button, true⟩⟩, none⟩

/-- Slot 0 holds up (`1`), slot 1 holds down (`2`), as in the last fight. -/
theorem inSync_of_steady_rematch :
    let fights := inLobby (fun _ => 3) fun
      | .p1 => rematch 2
      | .p2 => rematch 1
    let events : List DuelEvent := [.enterFight .p1, .enterFight .p2,
      .tick .p1 1, .tick .p2 2, .deliver .p1, .tick .p1 1, .deliver .p2,
      .tick .p2 2, .deliver .p1, .deliver .p2]
    (step inputHistory []).Always (InSync inputHistory) fights events ∧
      ((step inputHistory []).run fights events).Level :=
  ⟨inSync_of_steady inputHistory [] (fun _ => 3) _ _ (by decide +kernel),
    fun slot => by cases slot <;> decide +kernel⟩

/-- The client in slot 0 holds up (`1`) on the first tick, and its pair arrives
after the other's first tick: one client has ticked once, the other twice. -/
theorem not_inSync_late_input :
    ¬ (step Fight.tickCounter (true, 0)).Always (InSync Fight.tickCounter)
      (inLobby (fun _ => 3) fun _ => .fresh Fight.tickCounter (false, 0))
      [.enterFight .p1, .enterFight .p2, .tick .p1 1, .tick .p2 0,
        .deliver .p1, .deliver .p2] := by
  intro always
  have level := always.last
  refine absurd (level ?_) (by decide)
  intro slot
  cases slot <;> decide

end Duel

end FuryClash.Client
