import FuryClash.Server.Admission
import FuryClash.Server.Lifecycle

namespace FuryClash.Server

open FuryClash.Data

variable {R : Type} [Field R] [LinearOrder R] [FloorRing R]
  (runtime : JsRuntime) (config : RelayConfig)
  (expectedScore : Int → Int → R)

/-! The timeline of `disconnect-handler.ts` against what a closed socket does
to its room. `start` has no caller, so the timers are those that its
documentation asks for: one is started when a player leaves an active room and
cancelled when the player is attached again. -/

abbrev GraceTimers := List (RoomRef × Slot)

namespace RoomManager

/-- The seat in an active room whose player's connection is closing. -/
def leaves (m : RoomManager) (ws : SocketRef) : Option (RoomRef × Slot) :=
  if m.crashed ∨ (m.sockets ws).readyState = .closed then none
  else
    (m.sockets ws).attached.bind fun (ref, key) =>
      m.created[ref]?.bind fun room =>
        if room.state = .active then some (ref, key.index) else none

def graceTimers (m m' : RoomManager) (timers : GraceTimers) :
    ManagerEvent → GraceTimers
  | .close ws _ =>
      match m.leaves ws with
      | none => timers
      | some seat => seat :: timers
  | .message ws _ _ =>
      match (m.sockets ws).attached, (m'.sockets ws).attached with
      | none, some (ref, key) =>
          timers.filter fun seat => decide (seat ≠ (ref, key.index))
      | _, _ => timers
  | .forfeit ref loserSlot _ =>
      timers.filter fun seat => decide (seat ≠ (ref, loserSlot))
  | _ => timers

def graceStep : Machine (RoomManager × GraceTimers) ManagerEvent
  | (m, timers), event =>
      let m' := step runtime config expectedScore m event
      (m', m.graceTimers m' timers event)

structure Rejoins (m : RoomManager) (ref : RoomRef) (slot : Slot)
    (ws : SocketRef) (data : List UInt8) : Prop where
  running : m.crashed = false
  unused : (m.sockets ws).firstMessage = none
  opened : (m.sockets ws).readyState = .opened
  join : ∃ room msg key, m.created[ref]? = some room ∧
    decodeClientMsg runtime data = .ok (some msg) ∧
    (Json.get "type" msg).strictEq
      (some (.nat MsgType.clientJoin.code)) = true ∧
    (Json.get "roomId" msg).strictEq room.cfg.roomId = true ∧
    (Json.get "playerId" msg).strictEq (room.cfg.playerId slot) = true ∧
    slotKey (Json.get "slot" msg) = .ok (some key) ∧ key.index = slot

structure Forgives (state : RoomManager × GraceTimers)
    (event : ManagerEvent) : Prop where
  /-- Who is back before the timer has fired is attached again. -/
  rejoins : ∀ ref slot ws data now, event = .message ws data now →
    (ref, slot) ∈ state.2 → state.1.Rejoins runtime ref slot ws data →
      ∃ room', (step runtime config expectedScore state.1 event).created[ref]?
          = some room' ∧ room'.state ≠ .closed ∧
        ∃ info ∈ room'.slots slot, info.ws = ws
  /-- An active room is ended only by a timer that runs. -/
  forfeits : ∀ (ref : RoomRef) (room room' : RelayRoom),
    state.1.created[ref]? = some room → room.state = .active →
    (step runtime config expectedScore state.1 event).created[ref]? =
      some room' → room'.state = .closed →
      ∃ slot now, event = .forfeit ref slot now ∧ (ref, slot) ∈ state.2

/-- The event is the close of a socket that is attached to the room, or a call
of the forfeit callback for it. -/
def Disturbs (m : RoomManager) (ref : RoomRef) (room : RelayRoom) :
    ManagerEvent → Prop
  | .close ws _ =>
      m.crashed = false ∧ (m.sockets ws).readyState ≠ .closed ∧
        ∃ key, (m.sockets ws).attached = some (ref, key)
  | .forfeit which _ _ =>
      m.crashed = false ∧ which = ref ∧
        room.cfg.roomId.toStringThrows = false
  | _ => False

def Undisturbed (m : RoomManager) (event : ManagerEvent) : Prop :=
  ∀ (ref : RoomRef) (room : RelayRoom), m.created[ref]? = some room →
    room.state = .active → ¬ m.Disturbs ref room event

variable {runtime config expectedScore} {m m' : RoomManager}
  {event : ManagerEvent} {ref : RoomRef} {room : RelayRoom}

theorem onEndCalls_of_disturbs (held : m.created[ref]? = some room)
    (live : room.state ≠ .closed) (disturbs : m.Disturbs ref room event) :
    m.onEndCalls event = [ref] := by
  cases event with
  | close ws now =>
      obtain ⟨running, opened, key, link⟩ := disturbs
      rw [onEndCalls]
      dsimp only
      rw [if_neg (by simp [running, opened])]
      split
      next unlinked =>
        rw [link] at unlinked
        cases unlinked
      next which key' linked =>
        cases link.symm.trans linked
        split
        next absent => cases held.symm.trans absent
        next other at_ref =>
          cases held.symm.trans at_ref
          obtain ⟨sends, _, shape⟩ := RelayRoom.handleClose_live live key
          rw [shape, if_pos rfl]
  | forfeit which loserSlot now =>
      obtain ⟨running, rfl, text⟩ := disturbs
      obtain ⟨sends, _, shape⟩ :=
        RelayRoom.finish_live live (forfeitPayload loserSlot)
      simp only [onEndCalls, running, Bool.false_eq_true, if_false, held,
        text]
      rw [shape, if_pos rfl]
  | _ => exact disturbs.elim

theorem disturbs_of_onEndCalls (held : m.created[ref]? = some room)
    (calls : m.onEndCalls event = [ref]) : m.Disturbs ref room event := by
  cases event with
  | close ws now =>
      rw [onEndCalls] at calls
      dsimp only at calls
      split at calls
      next => cases calls
      next alive =>
        rw [not_or, Bool.not_eq_true] at alive
        split at calls
        next => cases calls
        next which key linked =>
          split at calls
          next => cases calls
          next =>
            split at calls
            next =>
              cases calls
              exact ⟨alive.1, alive.2, key, linked⟩
            next => cases calls
  | forfeit which loserSlot now =>
      rw [onEndCalls] at calls
      split at calls
      next => cases calls
      next running =>
        split at calls
        next => cases calls
        next other at_which =>
          split at calls
          next => cases calls
          next text =>
            split at calls
            next =>
              cases calls
              cases held.symm.trans at_which
              exact ⟨Bool.eq_false_iff.mpr running, rfl,
                Bool.eq_false_iff.mpr text⟩
            next => cases calls
  | _ => cases calls

/-- A room that is closed by a step has had its `onEnd` called. -/
theorem Acts.called {calls : List RoomRef} {room' : RelayRoom}
    (joint : m.Joint) (acts : Acts runtime config m event m' calls)
    (held : m.created[ref]? = some room) (live : room.state ≠ .closed)
    (held' : m'.created[ref]? = some room') (closed : room'.state = .closed) :
    calls = [ref] := by
  have unmoved (created : m'.created = m.created) : calls = [ref] := by
    rw [created] at held'
    cases held.symm.trans held'
    exact absurd closed live
  have moved {which : RoomRef} {old new : RelayRoom}
      (at_which : m.created[which]? = some old)
      (created : m'.created = m.created.set which new) :
      (which = ref ∧ old = room ∧ new = room') ∨ calls = [ref] := by
    rw [created, getElem?_set_of_held at_which] at held'
    split at held'
    next same =>
      subst same
      cases held.symm.trans at_which
      exact .inl ⟨rfl, rfl, Option.some.inj held'⟩
    next =>
      cases held.symm.trans held'
      exact absurd closed live
  cases acts with
  | idle _ created _ _ _ => exact unmoved created
  | create _ _ _ created _ _ =>
      rw [created] at held'
      cases (getElem?_concat_of_held held _).symm.trans held'
      exact absurd closed live
  | attach _ _ _ at_which attached _ created _ _ _ _ =>
      rcases moved at_which created with ⟨rfl, rfl, rfl⟩ | called
      · have state := RelayRoom.attach_state attached
          (joint.settled_of_held held) live
        rw [closed] at state
        split at state
        next => cases state
        next => cases state
      · exact called
  | relay _ _ at_which handled _ created _ _ =>
      rcases moved at_which created with ⟨rfl, rfl, rfl⟩ | called
      · have same := (RelayRoom.handleMessage_sameSeats handled).state
        exact absurd (same.symm.trans closed) live
      · exact called
  | ping _ _ _ _ created _ _ => exact unmoved created
  | finish _ _ at_which _ _ _ created _ _ =>
      rcases moved at_which created with ⟨rfl, _, _⟩ | called
      · rfl
      · exact called

theorem closed_iff_disturbs (joint : m.Joint)
    (held : m.created[ref]? = some room) (live : room.state ≠ .closed) :
    (∃ room', (step runtime config expectedScore m event).created[ref]? =
      some room' ∧ room'.state = .closed) ↔ m.Disturbs ref room event := by
  have acts : Acts runtime config m event
    (step runtime config expectedScore m event) _ := step_acts m event
  constructor
  · rintro ⟨room', held', closed⟩
    exact disturbs_of_onEndCalls held
      (acts.called joint held live held' closed)
  · intro disturbs
    rcases acts.closes with none | ⟨which, _, one, _, _, closed⟩
    · rw [onEndCalls_of_disturbs held live disturbs] at none
      cases none
    · rw [onEndCalls_of_disturbs held live disturbs] at one
      cases one
      exact closed

/-- Nobody leaves an active room, so no timer is ever started. -/
theorem graceTimers_undisturbed (undisturbed : m.Undisturbed event) :
    m.graceTimers m' [] event = [] := by
  cases event with
  | close ws now =>
      rw [graceTimers]
      cases seat : m.leaves ws with
      | none => rfl
      | some left =>
          rw [leaves] at seat
          split at seat
          next => cases seat
          next alive =>
            rw [not_or, Bool.not_eq_true] at alive
            obtain ⟨⟨ref, key⟩, linked, seat⟩ :=
              Option.bind_eq_some_iff.mp seat
            obtain ⟨room, held, seat⟩ := Option.bind_eq_some_iff.mp seat
            split at seat
            next active =>
              exact absurd ⟨alive.1, alive.2, key, linked⟩
                (undisturbed ref room held active)
            next => cases seat
  | message ws data now =>
      rw [graceTimers]
      split
      next => rfl
      next => rfl
  | _ => rfl

/-- A player who comes back is attached again, and an active room is ended
only by a timer that runs, exactly as long as no socket of an active room
closes and no forfeit callback is called for one. -/
theorem forgives_iff_undisturbed (runtime : JsRuntime) (config : RelayConfig)
    (expectedScore : Int → Int → R) (players : String → Option Player)
    (events : List ManagerEvent) :
    (graceStep runtime config expectedScore).Along
        (Forgives runtime config expectedScore) (.initial players, []) events ↔
      (step runtime config expectedScore).Along Undisturbed
        (.initial players) events := by
  have unseen : (graceStep runtime config expectedScore).Along
      (fun state event => Undisturbed state.1 event) (.initial players, [])
        events ↔
      (step runtime config expectedScore).Along Undisturbed
        (.initial players) events :=
    (Machine.along_map fun _ _ => rfl).symm
  rw [← unseen]
  refine Machine.along_iff_along
    (fun state => state.2 = [] ∧ state.1.Joint) ?_ ?_ ?_
    ⟨rfl, joint_initial players⟩ (Machine.along_of_forall fun _ _ => trivial)
  · rintro ⟨m, timers⟩ event ⟨rfl, joint⟩ _ undisturbed
    exact ⟨graceTimers_undisturbed undisturbed, joint.step (step_acts m event)⟩
  · rintro ⟨m, timers⟩ event ⟨rfl, joint⟩ _ undisturbed
    constructor
    · intro _ _ _ _ _ _ running
      cases running
    · intro ref room room' held active held' closed
      have live : room.state ≠ .closed := by simp [active]
      have disturbs := (closed_iff_disturbs joint held live).mp
        ⟨room', held', closed⟩
      exact absurd disturbs (undisturbed ref room held active)
  · rintro ⟨m, timers⟩ event ⟨rfl, joint⟩ _ disturbed forgives
    refine disturbed fun ref room held active disturbs => ?_
    have live : room.state ≠ .closed := by simp [active]
    obtain ⟨room', held', closed⟩ : ∃ room',
        (step runtime config expectedScore m event).created[ref]? =
          some room' ∧ room'.state = .closed :=
      (closed_iff_disturbs joint held live).mpr disturbs
    obtain ⟨_, _, _, running⟩ :=
      forgives.forfeits ref room room' held active held' closed
    cases running

end RoomManager

def briefDisconnect : List ManagerEvent :=
  [.createRoom (roomJson "room" "a" "b"), .message 0 (joinBytes "a" "0") 1,
    .message 1 (joinBytes "b" "1") 2, .close 0 3,
    .message 2 (joinBytes "a" "0") 4]

theorem not_forgives_briefDisconnect :
    ¬ (RoomManager.graceStep joinRuntime relayConfig evenScore).Along
      (RoomManager.Forgives joinRuntime relayConfig evenScore)
      (.initial noPlayers, []) briefDisconnect := by
  rintro ⟨_, _, _, forgives, _⟩
  have states : (((RoomManager.step joinRuntime relayConfig evenScore).run
      (.initial noPlayers) (briefDisconnect.take 3)).created[0]?.map (·.state),
      ((RoomManager.step joinRuntime relayConfig evenScore).run
        (.initial noPlayers) (briefDisconnect.take 4)).created[0]?.map
          (·.state)) = (some .active, some .closed) := by
    decide +kernel
  obtain ⟨before, after⟩ := Prod.mk.inj states
  obtain ⟨room, held, active⟩ := Option.map_eq_some_iff.mp before
  obtain ⟨room', held', closed⟩ := Option.map_eq_some_iff.mp after
  obtain ⟨_, _, isForfeit, _⟩ :=
    forgives.forfeits 0 room room' held active held' closed
  cases isForfeit

end FuryClash.Server
