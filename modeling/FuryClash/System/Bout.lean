import FuryClash.Client.Agreement
import FuryClash.System.Delivery

namespace FuryClash.System

open FuryClash.Client
open FuryClash.Data
open FuryClash.Server (RelayRoom Sends)

variable {S : Type}

/-! The main loops of the two clients over their link: what one of them
confirms goes into its rollback engine, and every tick of a fight sends its
input. Seen without the bytes it is a `Duel`. -/

structure Bout (S : Type) where
  link : Link
  fight : Slot → Fight S
  fighting : Slot → Bool

inductive BoutEvent where
  | tick (slot : Slot) (localInput : UInt16)
  | enterFight (slot : Slot)
  /-- One of the other calls of `net_client.c`. -/
  | call (slot : Slot) (event : NetEvent)
  | message (slot : Slot)
  | pingTimer (now : Nat)

def confirmAll (simulation : Simulation S) (slot : Slot)
    (entries : List (Int × UInt16)) (fight : Fight S) : Fight S :=
  entries.foldl (fun fight entry => Fight.step simulation slot.number fight
    (.confirm entry.1.toNat entry.2)) fight

namespace Bout

variable (runtime : JsRuntime) (transport : Transport) (os : Slot → Os)
  (simulation : Simulation S) (initial : S)

def sending (slot : Slot) (localInput : UInt16) (bout : Bout S) : LinkEvent :=
  .client slot (.sendInput ((bout.fight slot).currentFrame + 1 : Nat)
    localInput)

def confirming (slot : Slot) (event : NetEvent) (bout : Bout S) :
    List (Int × UInt16) :=
  let net := bout.link.client slot
  (Net.step (os slot) net event).confirmed.drop net.confirmed.length

def step : Machine (Bout S) BoutEvent
  | bout, .tick slot localInput =>
      let fight := bout.fight slot
      if bout.fighting slot then
        { bout with
          link := Link.step runtime transport os bout.link
            (bout.sending slot localInput)
          fight := Function.update bout.fight slot
            (Fight.step simulation slot.number fight (.tick localInput)) }
      else
        { bout with
          fight := Function.update bout.fight slot
            { fight with currentFrame := fight.currentFrame + 1 } }
  | bout, .enterFight slot =>
      let fight := bout.fight slot
      if bout.fighting slot then bout
      else
        { bout with
          fight := Function.update bout.fight slot
            (Fight.start fight.currentFrame
              { fight.engine with sim := initial })
          fighting := Function.update bout.fighting slot true }
  | bout, .call slot event =>
      { bout with
        link := Link.step runtime transport os bout.link (.client slot event)
        fight := Function.update bout.fight slot
          (confirmAll simulation slot (bout.confirming os slot event)
            (bout.fight slot)) }
  | bout, .message slot =>
      { bout with
        link := Link.step runtime transport os bout.link (.message slot) }
  | bout, .pingTimer now =>
      { bout with
        link := Link.step runtime transport os bout.link (.pingTimer now) }

/-- The tick of a fight puts its input on the wire and the relay lets it
pass. -/
def Carried (bout : Bout S) : BoutEvent → Prop
  | .tick slot localInput =>
      bout.fighting slot = true →
        bout.link.Clean os (bout.sending slot localInput) ∧
          (bout.link.posted os slot (bout.sending slot localInput)).isSome
  | .call slot event =>
      bout.link.Clean os (.client slot event) ∧
        ∀ frame input, event ≠ .sendInput frame input
  | _ => True

instance (bout : Bout S) :
    (event : BoutEvent) → Decidable (bout.Carried os event)
  | .tick _ _ => inferInstanceAs (Decidable (_ → _ ∧ _))
  | .call _ event =>
      inferInstanceAs (Decidable (_ ∧
        ∀ frame input, event = .sendInput frame input → False))
  | .enterFight _ => isTrue trivial
  | .message _ => isTrue trivial
  | .pingTimer _ => isTrue trivial

/-- The pairs of the fight, each with the number of its tick. -/
def ticked (fight : Fight S) : List (Nat × UInt16) :=
  fight.played.mapIdx fun i inputs => (fight.baseFrame + 1 + i, inputs.1)

def view (bout : Bout S) : Duel S :=
  ⟨fun slot => ⟨bout.fight slot, bout.fighting slot, ticked (bout.fight slot),
    (bout.link.client slot).confirmed.length⟩⟩

/-- The same step without the bytes: an input is delivered when it is
confirmed. -/
def duelEvents (bout : Bout S) : BoutEvent → List DuelEvent
  | .tick slot localInput => [.tick slot localInput]
  | .enterFight slot => [.enterFight slot]
  | .call slot event =>
      List.replicate (bout.confirming os slot event).length (.deliver slot)
  | _ => []

structure InLobby (currentFrame : Slot → Nat) (engine : Slot → Engine S)
    (bout : Bout S) : Prop where
  ready : bout.link.Ready
  fight : ∀ slot, bout.fight slot =
    Fight.start (currentFrame slot) (engine slot)
  fighting : ∀ slot, bout.fighting slot = false

def sentBy (bout : Bout S) (slot : Slot) : List (Int × UInt16) :=
  (ticked (bout.fight slot)).map fun pair => ((pair.1 : Int), pair.2)

structure Sound (bout : Bout S) : Prop where
  link : Link.Running bout.link bout.sentBy ∨
    Link.Halted bout.link bout.sentBy
  counted : ∀ slot,
    (bout.fight slot).played.length ≤ (bout.fight slot).currentFrame
  idle : ∀ slot, bout.fighting slot = false → (bout.fight slot).played = []

variable {fight : Fight S} {simulation : Simulation S} {slot : Slot}

theorem ticked_tick (counted : fight.played.length ≤ fight.currentFrame)
    (localInput : UInt16) :
    ticked (Fight.step simulation slot.number fight (.tick localInput)) =
      ticked fight ++ [(fight.currentFrame + 1, localInput)] := by
  have base := Fight.baseFrame_tick simulation slot.number counted localInput
  have last : fight.baseFrame + 1 + fight.played.length =
      fight.currentFrame + 1 := by
    rw [Fight.baseFrame]
    omega
  rw [ticked, base, Fight.step]
  dsimp only
  rw [List.mapIdx_concat, last]
  rfl

theorem confirmAll_played (entries : List (Int × UInt16)) :
    (confirmAll simulation slot entries fight).played = fight.played ∧
      (confirmAll simulation slot entries fight).currentFrame =
        fight.currentFrame := by
  induction entries generalizing fight with
  | nil => exact ⟨rfl, rfl⟩
  | cons entry rest ih =>
      obtain ⟨played, frame⟩ := @ih (Fight.step simulation slot.number fight
        (.confirm entry.1.toNat entry.2))
      exact ⟨played, frame⟩

theorem ticked_congr {fight other : Fight S}
    (played : other.played = fight.played)
    (frame : other.currentFrame = fight.currentFrame) :
    ticked other = ticked fight := by
  rw [ticked, ticked, Fight.baseFrame, Fight.baseFrame, played, frame]

theorem ticked_of_idle {fight : Fight S} (idle : fight.played = []) :
    ticked fight = [] := by
  rw [ticked, idle, List.mapIdx_nil]

variable {runtime : JsRuntime} {transport : Transport} {os : Slot → Os}
  {initial : S} {bout : Bout S}

theorem posted_of_isSome {link : Link} {frame : Int} {input : UInt16}
    (some_posted : (link.posted os slot
      (.client slot (.sendInput frame input))).isSome) :
    link.posted os slot (.client slot (.sendInput frame input)) =
      some (frame, input) := by
  rw [Link.posted] at some_posted ⊢
  split at some_posted
  next both => rw [if_pos both]
  next => cases some_posted

theorem posted_call {link : Link} {which : Slot} {event : NetEvent}
    (noInput : ∀ frame input, event ≠ .sendInput frame input) :
    link.posted os slot (.client which event) = none := by
  rw [Link.posted.eq_def]
  split
  next which frame input isInput =>
    cases isInput
    exact absurd rfl (noInput frame input)
  next => rfl

theorem Sound.silent (runtime : JsRuntime) (sound : bout.Sound)
    (framing : transport.Frames) (works : ∀ slot, (os slot).Works)
    (event : LinkEvent) (clean : bout.link.Clean os event)
    (silent : ∀ slot, bout.link.posted os slot event = none) :
    Link.Running (Link.step runtime transport os bout.link event)
        bout.sentBy ∨
      Link.Halted (Link.step runtime transport os bout.link event)
        bout.sentBy := by
  have after := Link.step_cases runtime framing works sound.link clean
  have same : (fun slot => bout.sentBy slot ++
      (bout.link.posted os slot event).toList) = bout.sentBy := by
    funext slot
    rw [silent, Option.toList_none, List.append_nil]
  rwa [same] at after

theorem Sound.update (sound : bout.Sound) {link : Link} {fight : Fight S}
    {fighting : Slot → Bool}
    (linked : Link.Running link
        (sentBy ⟨link, Function.update bout.fight slot fight, fighting⟩) ∨
      Link.Halted link
        (sentBy ⟨link, Function.update bout.fight slot fight, fighting⟩))
    (counted : fight.played.length ≤ fight.currentFrame)
    (idle : fighting slot = false → fight.played = [])
    (others : ∀ which ≠ slot, fighting which = bout.fighting which) :
    Sound ⟨link, Function.update bout.fight slot fight, fighting⟩ := by
  refine ⟨linked, fun which => ?_, fun which waiting => ?_⟩
  · dsimp only
    by_cases same : which = slot
    · subst same
      rw [Function.update_self]
      exact counted
    · rw [Function.update_of_ne same]
      exact sound.counted which
  · dsimp only at waiting ⊢
    by_cases same : which = slot
    · subst same
      rw [Function.update_self]
      exact idle waiting
    · rw [Function.update_of_ne same]
      exact sound.idle which ((others which same).symm.trans waiting)

theorem sentBy_update {link : Link} {fight : Fight S} {fighting : Slot → Bool}
    (same : ticked fight = ticked (bout.fight slot)) :
    sentBy ⟨link, Function.update bout.fight slot fight, fighting⟩ =
      bout.sentBy := by
  funext which
  rw [sentBy, sentBy]
  dsimp only
  by_cases own : which = slot
  · subst own
    rw [Function.update_self, same]
  · rw [Function.update_of_ne own]

theorem Sound.tick (sound : bout.Sound) (framing : transport.Frames)
    (works : ∀ slot, (os slot).Works) (localInput : UInt16)
    (fighting : bout.fighting slot = true)
    (clean : bout.link.Clean os (bout.sending slot localInput))
    (some_posted : (bout.link.posted os slot
      (bout.sending slot localInput)).isSome) :
    Sound ⟨Link.step runtime transport os bout.link
        (bout.sending slot localInput),
      Function.update bout.fight slot (Fight.step simulation slot.number
        (bout.fight slot) (.tick localInput)), bout.fighting⟩ := by
  have counted := sound.counted slot
  have own := posted_of_isSome some_posted
  have after := Link.step_cases runtime framing works sound.link clean
  have grown : (fun which => bout.sentBy which ++ (bout.link.posted os which
      (bout.sending slot localInput)).toList) =
        sentBy ⟨Link.step runtime transport os bout.link
            (bout.sending slot localInput),
          Function.update bout.fight slot (Fight.step simulation slot.number
            (bout.fight slot) (.tick localInput)), bout.fighting⟩ := by
    funext which
    rw [sentBy, sentBy]
    dsimp only
    by_cases same : which = slot
    · subst same
      rw [Function.update_self, ticked_tick counted, List.map_append, sending,
        own]
      rfl
    · have opposite := Slot.eq_other_of_ne (Ne.symm same)
      rw [Function.update_of_ne same, opposite, sending, Link.posted_other,
        Option.toList_none, List.append_nil]
  rw [grown] at after
  refine sound.update after ?_ ?_ fun _ _ => rfl
  · rw [Fight.step]
    dsimp only
    rw [List.length_append, List.length_singleton]
    omega
  · intro waiting
    rw [fighting] at waiting
    cases waiting

theorem Sound.step (sound : bout.Sound) (framing : transport.Frames)
    (works : ∀ slot, (os slot).Works) {event : BoutEvent}
    (carried : bout.Carried os event) :
    (step runtime transport os simulation initial bout event).Sound := by
  cases event with
  | tick slot localInput =>
      rw [Bout.step]
      split
      next fighting =>
        obtain ⟨clean, some_posted⟩ := carried fighting
        exact sound.tick framing works localInput fighting clean some_posted
      next waiting =>
        have idle := sound.idle slot (Bool.eq_false_of_not_eq_true waiting)
        have advanced : ticked { bout.fight slot with
            currentFrame := (bout.fight slot).currentFrame + 1 } = [] :=
          ticked_of_idle idle
        have same := advanced.trans (ticked_of_idle idle).symm
        refine sound.update ?_ ?_ (fun _ => idle) fun _ _ => rfl
        · rw [sentBy_update same]
          exact sound.link
        · exact (sound.counted slot).trans (Nat.le_succ _)
  | enterFight slot =>
      rw [Bout.step]
      dsimp only
      split
      next => exact sound
      next waiting =>
        have idle := sound.idle slot (Bool.eq_false_of_not_eq_true waiting)
        have same : ticked (Fight.start (bout.fight slot).currentFrame
            { (bout.fight slot).engine with sim := initial }) =
              ticked (bout.fight slot) :=
          (ticked_of_idle rfl).trans (ticked_of_idle idle).symm
        refine sound.update ?_ (Nat.zero_le _) (fun _ => rfl) ?_
        · rw [sentBy_update same]
          exact sound.link
        · exact fun which other => Function.update_of_ne other ..
  | call slot event =>
      have after := sound.silent runtime framing works (.client slot event)
        carried.1 fun which => posted_call carried.2
      obtain ⟨played, frame⟩ := @confirmAll_played S (bout.fight slot)
        simulation slot (bout.confirming os slot event)
      refine sound.update ?_ ?_ ?_ fun _ _ => rfl
      · rw [sentBy_update (ticked_congr played frame)]
        exact after
      · rw [played, frame]
        exact sound.counted slot
      · intro waiting
        rw [played]
        exact sound.idle slot waiting
  | message slot =>
      have after := sound.silent runtime framing works (.message slot) trivial
        fun _ => rfl
      exact ⟨after, sound.counted, sound.idle⟩
  | pingTimer now =>
      have after := sound.silent runtime framing works (.pingTimer now)
        trivial fun _ => rfl
      exact ⟨after, sound.counted, sound.idle⟩

theorem sendInput_confirmed (os : Os) (net : Net) (frame : Int)
    (input : UInt16) : (net.sendInput os frame input).confirmed =
      net.confirmed := by
  rw [Net.sendInput]
  split
  next => rfl
  split
  next => rfl
  next => exact Net.wsSend_keepsConfirmed os net _

theorem confirmed_grows {os : Os} {net : Net} {event : NetEvent}
    (can : net.CanSend) (plays : event.Plays) :
    net.confirmed <+: (Net.step os net event).confirmed := by
  cases event with
  | receive =>
      obtain ⟨⟨handed, effects, trace, _⟩, _⟩ := Net.receive_extends os can
      rw [Net.step, Net.confirmed, Net.confirmed, trace,
        List.filterMap_append]
      exact List.prefix_append _ _
  | sendInput frame input =>
      have same := sendInput_confirmed os net frame input
      exact same ▸ List.prefix_rfl
  | sendLoadout loadout =>
      rw [Net.step, Net.sendLoadout]
      split
      next => exact List.prefix_rfl
      next =>
        exact (Net.wsSend_keepsConfirmed os net _).symm ▸
          List.prefix_rfl
  | ackStart =>
      rw [Net.step, Net.ackStart]
      split
      next =>
        rw [Net.setState, Net.effect_confirmed]
        exact List.prefix_append _ _
      next => exact List.prefix_rfl
  | _ => exact plays.elim

theorem push_confirmed (sends : Sends) (link : Link) (slot : Slot) :
    ((Link.push transport sends link).client slot).confirmed =
      (link.client slot).confirmed := by
  rw [Link.push]
  dsimp only
  split
  next => rfl
  next => rfl

theorem message_confirmed (link : Link) (which slot : Slot) :
    ((Link.message runtime transport which link).client slot).confirmed =
      (link.client slot).confirmed := by
  rw [Link.message]
  split
  next => rfl
  next =>
    dsimp only
    split
    next => rfl
    next => exact push_confirmed ..

theorem set_set (slot : Slot) (first second : Peer S) (duel : Duel S) :
    (duel.set slot first).set slot second = duel.set slot second :=
  congrArg Duel.mk (Function.update_idem ..)

theorem run_deliver (simulation : Simulation S) (initial : S) {duel : Duel S}
    {pairs : List (Nat × UInt16)}
    (front : pairs <+:
      (duel.peer slot.other).sent.drop (duel.peer slot).received) :
    (Duel.step simulation initial).run duel
        (List.replicate pairs.length (.deliver slot)) =
      duel.set slot { duel.peer slot with
        fight := pairs.foldl (fun fight pair => Fight.step simulation
          slot.number fight (.confirm pair.1 pair.2)) (duel.peer slot).fight
        received := (duel.peer slot).received + pairs.length } := by
  induction pairs generalizing duel with
  | nil =>
      have same : duel.set slot (duel.peer slot) = duel :=
        congrArg Duel.mk (Function.update_eq_self ..)
      exact same.symm
  | cons pair rest ih =>
      obtain ⟨later, whole⟩ := front
      have arriving : duel.arriving slot = some pair := by
        have first := congrArg List.head? whole
        rw [List.head?_drop] at first
        exact first.symm
      have step : Duel.step simulation initial duel (.deliver slot) =
          duel.set slot { duel.peer slot with
            fight := Fight.step simulation slot.number (duel.peer slot).fight
              (.confirm pair.1 pair.2)
            received := (duel.peer slot).received + 1 } := by
        rw [Duel.step, arriving]
        rfl
      have behind : rest <+: (((Duel.step simulation initial duel
          (.deliver slot)).peer slot.other).sent.drop
            ((Duel.step simulation initial duel (.deliver slot)).peer
              slot).received) := by
        rw [step, Duel.set_other, Duel.set_self, ← List.drop_drop, ← whole]
        exact List.prefix_append _ _
      rw [List.length_cons, List.replicate_succ, Machine.run_cons, ih behind,
        step, Duel.set_self, set_set, List.foldl_cons, Nat.add_assoc,
        Nat.add_comm 1]

theorem inOrder {link : Link} {sent : Slot → List (Int × UInt16)}
    (linked : Link.Running link sent ∨ Link.Halted link sent) (slot : Slot) :
    (link.client slot).confirmed <+: sent slot.other := by
  have delivered : Link.Delivered link sent :=
    linked.elim Link.Running.delivered Link.Halted.delivered
  have front := delivered.inOrder slot.other
  rwa [Slot.other_other] at front

theorem Sound.canSend (sound : bout.Sound) (slot : Slot) :
    (bout.link.client slot).CanSend := by
  rcases sound.link with running | halted
  · obtain ⟨_, _, _, _, lane⟩ := running.lanes slot.other
    have reading := lane.reading
    rw [Slot.other_other] at reading
    exact reading.canSend
  · obtain ⟨_, _, reading, _⟩ := halted.lanes slot.other
    rw [Slot.other_other] at reading
    exact reading.canSend

theorem view_eq_set {after : Bout S} {peer : Peer S}
    (own : after.view.peer slot = peer)
    (opponent : after.view.peer slot.other = bout.view.peer slot.other) :
    after.view = bout.view.set slot peer := by
  refine congrArg Duel.mk (funext fun which => ?_)
  by_cases same : which = slot
  · subst same
    exact own.trans (Duel.set_self which peer bout.view).symm
  · have opposite := Slot.eq_other_of_ne same
    subst opposite
    exact opponent.trans (Duel.set_other slot peer bout.view).symm

theorem view_eq {after : Bout S} (fight : after.fight = bout.fight)
    (fighting : after.fighting = bout.fighting)
    (confirmed : ∀ slot, (after.link.client slot).confirmed =
      (bout.link.client slot).confirmed) : after.view = bout.view := by
  refine congrArg Duel.mk (funext fun slot => ?_)
  rw [fight, fighting, confirmed]

theorem peer_other {link : Link} {fight : Fight S} {fighting : Slot → Bool}
    (idle : fighting slot.other = bout.fighting slot.other)
    (kept : link.client slot.other = bout.link.client slot.other) :
    (view ⟨link, Function.update bout.fight slot fight, fighting⟩).peer
      slot.other = bout.view.peer slot.other := by
  have same := Function.update_of_ne (Slot.other_ne slot) fight bout.fight
  simp only [view, same, idle, kept]

theorem Sound.view_tick (sound : bout.Sound) (localInput : UInt16) :
    (Bout.step runtime transport os simulation initial bout
        (.tick slot localInput)).view =
      Duel.step simulation initial bout.view (.tick slot localInput) := by
  rw [Bout.step, Duel.step]
  have unsent : (((Link.step runtime transport os bout.link
      (bout.sending slot localInput)).client slot).confirmed) =
        (bout.link.client slot).confirmed := by
    rw [sending, Link.step, Link.clientStep_self, Net.step,
      sendInput_confirmed]
  split
  next fighting =>
    refine view_eq_set ?_ (peer_other rfl
      (Link.clientStep_of_ne (Slot.other_ne slot)))
    have grown := @ticked_tick S (bout.fight slot) simulation slot
      (sound.counted slot) localInput
    simp only [view, Function.update_self, unsent, grown, Peer.tick, fighting]
    rfl
  next waiting =>
    have lobby := Bool.eq_false_of_not_eq_true waiting
    have idle := sound.idle slot lobby
    refine view_eq_set ?_ (peer_other rfl rfl)
    have advanced : ticked { bout.fight slot with
        currentFrame := (bout.fight slot).currentFrame + 1 } = [] :=
      ticked_of_idle idle
    simp only [view, Function.update_self, advanced, ticked_of_idle idle,
      Peer.tick, lobby]
    rfl

theorem Sound.view_enterFight (sound : bout.Sound) :
    (Bout.step runtime transport os simulation initial bout
        (.enterFight slot)).view =
      Duel.step simulation initial bout.view (.enterFight slot) := by
  rw [Bout.step, Duel.step]
  split
  next fighting =>
    have unchanged : (bout.view.peer slot).enterFight initial =
        bout.view.peer slot := if_pos fighting
    rw [unchanged]
    exact view_eq_set rfl rfl
  next waiting =>
    have lobby := Bool.eq_false_of_not_eq_true waiting
    have idle := sound.idle slot lobby
    have begun : ticked (Fight.start (bout.fight slot).currentFrame
        { (bout.fight slot).engine with sim := initial }) = [] :=
      ticked_of_idle rfl
    refine view_eq_set ?_ (peer_other
      (Function.update_of_ne (Slot.other_ne slot) ..) rfl)
    simp only [view, Function.update_self, begun, ticked_of_idle idle,
      Peer.enterFight, lobby]
    rfl

/-- The entries that a client confirms in a call are the next ones that the
other has sent. -/
theorem confirmAll_pairs (simulation : Simulation S) (slot : Slot)
    (pairs : List (Nat × UInt16)) (fight : Fight S) :
    confirmAll simulation slot
        (pairs.map fun pair => ((pair.1 : Int), pair.2)) fight =
      pairs.foldl (fun fight pair => Fight.step simulation slot.number fight
        (.confirm pair.1 pair.2)) fight := by
  rw [confirmAll, List.foldl_map]
  rfl

theorem Sound.view_call (sound : bout.Sound) (framing : transport.Frames)
    (works : ∀ slot, (os slot).Works) {event : NetEvent}
    (carried : bout.Carried os (.call slot event)) :
    (Bout.step runtime transport os simulation initial bout
        (.call slot event)).view =
      (Duel.step simulation initial).run bout.view
        (bout.duelEvents os (.call slot event)) := by
  have grows := @confirmed_grows (os slot) _ _ (sound.canSend slot)
    carried.1.1
  have after := inOrder (sound.silent runtime framing works
    (.client slot event) carried.1 fun which => posted_call carried.2) slot
  rw [Link.step, Link.clientStep_self] at after
  have split : (bout.link.client slot).confirmed ++
      bout.confirming os slot event =
        (Net.step (os slot) (bout.link.client slot) event).confirmed :=
    List.prefix_iff_eq_append.mp grows
  have arriving : bout.confirming os slot event <+:
      (bout.sentBy slot.other).drop
        (bout.link.client slot).confirmed.length := by
    obtain ⟨later, whole⟩ := after
    rw [← split, List.append_assoc] at whole
    rw [← whole, List.drop_left]
    exact List.prefix_append _ _
  rw [sentBy, ← List.map_drop] at arriving
  obtain ⟨pairs, front, same⟩ := List.prefix_map_iff.mp arriving
  have delivered := @run_deliver S slot simulation initial bout.view _ front
  have count : (bout.confirming os slot event).length = pairs.length := by
    rw [same, List.length_map]
  have length : (Net.step (os slot) (bout.link.client slot)
      event).confirmed.length =
        (bout.link.client slot).confirmed.length + pairs.length := by
    rw [← split, List.length_append, count]
  obtain ⟨played, frame⟩ := @confirmAll_played S (bout.fight slot) simulation
    slot (bout.confirming os slot event)
  have unticked := ticked_congr played frame
  rw [duelEvents, count, delivered, Bout.step]
  refine view_eq_set ?_ (peer_other rfl
    (Link.clientStep_of_ne (Slot.other_ne slot)))
  rw [same, confirmAll_pairs] at unticked
  simp only [view, Function.update_self, Link.step, Link.clientStep_self,
    length, same, confirmAll_pairs, unticked]

theorem Sound.view_step (sound : bout.Sound) (framing : transport.Frames)
    (works : ∀ slot, (os slot).Works) {event : BoutEvent}
    (carried : bout.Carried os event) :
    (Bout.step runtime transport os simulation initial bout event).view =
      (Duel.step simulation initial).run bout.view
        (bout.duelEvents os event) := by
  cases event with
  | tick slot localInput => exact sound.view_tick localInput
  | enterFight slot => exact sound.view_enterFight
  | call slot event => exact sound.view_call framing works carried
  | message slot =>
      refine view_eq rfl rfl fun which => ?_
      rw [Bout.step, Link.step]
      split
      next => rfl
      next => exact message_confirmed ..
  | pingTimer now =>
      refine view_eq rfl rfl fun which => ?_
      rw [Bout.step, Link.step]
      split
      next => rfl
      next => exact push_confirmed ..

theorem InLobby.sound {currentFrame : Slot → Nat} {engine : Slot → Engine S}
    (lobby : bout.InLobby currentFrame engine) : bout.Sound where
  link := by
    have none_sent : bout.sentBy = fun _ => [] := by
      funext slot
      rw [sentBy, lobby.fight]
      rfl
    rw [none_sent]
    exact .inl lobby.ready.running
  counted slot := by
    rw [lobby.fight]
    exact Nat.zero_le _
  idle slot _ := by
    rw [lobby.fight]
    rfl

theorem InLobby.view {currentFrame : Slot → Nat} {engine : Slot → Engine S}
    (lobby : bout.InLobby currentFrame engine) :
    bout.view = Duel.inLobby currentFrame engine := by
  refine congrArg Duel.mk (funext fun slot => ?_)
  have none_confirmed : (bout.link.client slot).confirmed = [] := by
    have front := inOrder lobby.sound.link slot
    rw [sentBy, lobby.fight] at front
    exact List.prefix_nil.mp front
  rw [none_confirmed, lobby.fight, lobby.fighting]
  rfl

/-- Whatever the sockets and the server do to the bytes, the two main loops run
as a duel: each gets the other's pairs in order and without loss. -/
theorem bout_refines_duel (runtime : JsRuntime) (framing : transport.Frames)
    (works : ∀ slot, (os slot).Works) (simulation : Simulation S)
    (initial : S) {currentFrame : Slot → Nat} {engine : Slot → Engine S}
    (lobby : bout.InLobby currentFrame engine) {events : List BoutEvent}
    (carried : (Bout.step runtime transport os simulation initial).Along
      (Carried os) bout events) :
    ((Bout.step runtime transport os simulation initial).run bout
        events).view =
      (Duel.step simulation initial).run (.inLobby currentFrame engine)
        ((Bout.step runtime transport os simulation initial).expanded
          (fun bout event => bout.duelEvents os event) bout events) := by
  rw [← lobby.view]
  exact carried.refines Sound
    (fun _ _ sound carried => sound.step framing works carried)
    (fun _ _ sound carried => sound.view_step framing works carried)
    lobby.sound

/-- No divergence is pending on a tick, and no pair comes late. -/
def Steady (os : Slot → Os) (simulation : Simulation S) (initial : S)
    (bout : Bout S) (event : BoutEvent) : Prop :=
  bout.Carried os event ∧
    (Duel.step simulation initial).Along Duel.Steady bout.view
      (bout.duelEvents os event)

/-- The two fights are the same as soon as both have run as many ticks and
have confirmed each other's inputs, over the wire as without it. -/
theorem bout_inSync (runtime : JsRuntime) (framing : transport.Frames)
    (works : ∀ slot, (os slot).Works) (simulation : Simulation S)
    (initial : S) {currentFrame : Slot → Nat} {engine : Slot → Engine S}
    (lobby : bout.InLobby currentFrame engine) {events : List BoutEvent}
    (steady : (Bout.step runtime transport os simulation initial).Along
      (Steady os simulation initial) bout events) :
    (Bout.step runtime transport os simulation initial).Always
      (fun bout => bout.view.InSync simulation) bout events := by
  refine steady.always
    (fun bout => bout.Sound ∧ bout.view.Agreeing simulation initial)
    (fun bout event before good => ⟨?_, ?_⟩)
    (fun _ after => after.2.inSync) ⟨lobby.sound, ?_⟩
  · exact before.1.step framing works good.1
  · rw [before.1.view_step framing works good.1]
    exact good.2.invariant _ Duel.agreeing_step before.2
  · rw [lobby.view]
    exact Duel.agreeing_inLobby currentFrame engine

end Bout

def held : Slot → UInt16
  | .p1 => 1
  | .p2 => 2

def pairBout : Bout (List (UInt16 × UInt16)) where
  link := pairLink
  fight slot := Fight.start 3 (Duel.rematch (held slot.other))
  fighting _ := false

theorem pairBout_inLobby :
    pairBout.InLobby (fun _ => 3) fun slot => Duel.rematch (held slot.other) :=
  ⟨pairLink_ready, fun _ => rfl, fun _ => rfl⟩

/-- A client reads the two frames of the relay in pieces of five bytes. -/
def twoTicks : List BoutEvent :=
  [.enterFight .p1, .enterFight .p2, .tick .p1 1, .tick .p1 1, .tick .p2 2,
    .tick .p2 2, .message .p1, .message .p1, .message .p2, .message .p2] ++
    List.replicate 6 (.call .p1 .receive) ++
    List.replicate 6 (.call .p2 .receive)

theorem twoTicks_carried :
    (Bout.step Server.emptyRuntime clientTransport (fun _ => fiveBytes)
      Duel.inputHistory []).Along (Bout.Carried fun _ => fiveBytes)
        pairBout twoTicks := by
  decide +kernel

def twoTicksDuel : List DuelEvent :=
  [.enterFight .p1, .enterFight .p2, .tick .p1 1, .tick .p1 1, .tick .p2 2,
    .tick .p2 2, .deliver .p1, .deliver .p1, .deliver .p2, .deliver .p2]

theorem bout_refines_duel_twoTicks :
    ((Bout.step Server.emptyRuntime clientTransport (fun _ => fiveBytes)
        Duel.inputHistory []).run pairBout twoTicks).view =
      (Duel.step Duel.inputHistory []).run
        (.inLobby (fun _ => 3) fun slot => Duel.rematch (held slot.other))
        twoTicksDuel := by
  have same : (Bout.step Server.emptyRuntime clientTransport
      (fun _ => fiveBytes) Duel.inputHistory []).expanded
        (fun bout event => bout.duelEvents (fun _ => fiveBytes) event)
        pairBout twoTicks = twoTicksDuel := by
    decide +kernel
  rw [← same]
  exact Bout.bout_refines_duel Server.emptyRuntime clientTransport_frames
    (fun _ => fiveBytes_works) Duel.inputHistory [] pairBout_inLobby
    twoTicks_carried

/-- In the end both have run two ticks and got both inputs of the other. -/
theorem bout_inSync_twoTicks :
    (Bout.step Server.emptyRuntime clientTransport (fun _ => fiveBytes)
        Duel.inputHistory []).Always
      (fun bout => bout.view.InSync Duel.inputHistory) pairBout twoTicks ∧
    ((Bout.step Server.emptyRuntime clientTransport (fun _ => fiveBytes)
      Duel.inputHistory []).run pairBout twoTicks).view.Level := by
  refine ⟨Bout.bout_inSync Server.emptyRuntime clientTransport_frames
    (fun _ => fiveBytes_works) Duel.inputHistory [] pairBout_inLobby
    (twoTicks_carried.and ?_), ?_⟩
  · decide +kernel
  · intro slot
    cases slot <;> decide +kernel

end FuryClash.System
