import FuryClash.Server.Joint

namespace FuryClash.Server

open FuryClash.Data

variable {R : Type} [Field R] [LinearOrder R] [FloorRing R]
  {runtime : JsRuntime} {config : RelayConfig}
  {expectedScore : Int → Int → R}

/-! Two players who know the id of a room meet in it, in whatever order they
come and whatever else the manager does meanwhile. -/

structure RoomConfig.Names (cfg : RoomConfig) (code : String)
    (ids : Slot → String) : Prop where
  roomId : cfg.roomId = some (.string code)
  playerId : ∀ slot, cfg.playerId slot = some (.string (ids slot))

def Asks (runtime : JsRuntime) (code playerId : String) (slot : Slot)
    (data : List UInt8) : Prop :=
  ∃ msg, decodeClientMsg runtime data = .ok (some msg) ∧
    Json.get "type" msg = some (.nat MsgType.clientJoin.code) ∧
    Json.get "roomId" msg = some (.string code) ∧
    Json.get "playerId" msg = some (.string playerId) ∧
    Json.get "slot" msg = some (.number (.finite slot.number))

namespace RoomManager

/-- The room can be found, no other one has its id, and these sockets sit in
it. -/
structure Waits (m : RoomManager) (ref : RoomRef) (cfg : RoomConfig)
    (seats : Slot → Option SocketRef) : Prop where
  found : m.rooms.lookup (roomKey ref cfg.roomId) = some ref
  held : ∃ room, m.created[ref]? = some room ∧ room.cfg = cfg ∧
    room.state = .waiting ∧
      ∀ slot, (room.slots slot).map (·.ws) = seats slot
  alone : ∀ other room, m.created[other]? = some room →
    room.state ≠ .closed → room.cfg.roomId = cfg.roomId → other = ref

def Placed (m : RoomManager) : Prop :=
  ∀ ws ref key, (m.sockets ws).attached = some (ref, key) →
    ∃ room, m.created[ref]? = some room ∧
      (room.slots key.index).map (·.ws) = some ws

structure Fresh (m : RoomManager) (ws : SocketRef) : Prop where
  unheard : (m.sockets ws).firstMessage = none
  alive : (m.sockets ws).readyState ≠ .closed

/-- Nobody else creates a room with the id or asks for it, and the players
stay. What they send once they are in is free. -/
def Aside (runtime : JsRuntime) (code : String) (ref : RoomRef)
    (players : Slot → SocketRef) (m : RoomManager) : ManagerEvent → Prop
  | .createRoom cfg => Json.get "roomId" cfg.spread ≠ some (.string code)
  | .message ws data _ => (m.sockets ws).firstMessage = none →
      (∀ slot, ws ≠ players slot) ∧
        ∀ msg, decodeClientMsg runtime data = .ok (some msg) →
          Json.get "roomId" msg ≠ some (.string code)
  | .closing ws => ∀ slot, ws ≠ players slot
  | .close ws _ => ∀ slot, ws ≠ players slot
  | .forfeit which _ _ => which ≠ ref
  | .pingTimer _ _ => True
  | .db _ => True

variable {m m' : RoomManager} {ref : RoomRef} {cfg : RoomConfig}
  {code : String} {ids : Slot → String} {seats : Slot → Option SocketRef}
  {players : Slot → SocketRef} {event : ManagerEvent}

theorem primitive_eq_string {id : JsVal}
    (isText : primitive id = some (.string code)) :
    id = some (.string code) := by
  rcases id with _ | (_ | _ | _ | text | _ | _) <;> cases isText
  rfl

theorem roomKey_text (ref : RoomRef) (code : String) :
    roomKey ref (some (.string code)) = .value (.string code) := rfl

/-- The key of a text belongs to rooms with this id alone. -/
theorem roomKey_eq_text {id : JsVal}
    (same : roomKey ref id = .value (.string code)) :
    id = some (.string code) := by
  rw [roomKey] at same
  split at same
  next key isKey =>
    cases same
    exact primitive_eq_string isKey
  next => cases same

theorem handleNewConnection_others {ws other : SocketRef} (ne : other ≠ ws)
    (data : List UInt8) (now : Nat) :
    (m.handleNewConnection runtime ws data now).sockets other =
      m.sockets other := by
  rcases m.handleNewConnection_cases runtime ws data now with
    crashed | refused | ⟨_, _, ref, room, key, _, _, _, _, _, _, _, _, _, seated⟩
  · rw [crashed]
    exact setSocket_of_ne ne _
  · rw [refused, closeSocket, setSocket_of_ne ne]
    exact setSocket_of_ne ne _
  · rw [seated]
    exact (@listen_takeFirst m ws data ref key).2.2 other ne

theorem roomMessage_sockets (ref : RoomRef) (key : SlotKey)
    (data : List UInt8) :
    (m.roomMessage runtime ref key data).sockets = m.sockets := by
  rw [roomMessage]
  split
  next => rfl
  next => split <;> rfl

theorem endRoom_sockets (ref : RoomRef) (outcome : Bool × RelayRoom × Sends)
    (payload : MatchEndPayload) (now : Nat) :
    (m.endRoom config ref outcome payload now).sockets = m.sockets := by
  obtain ⟨ended, room, sends⟩ := outcome
  rw [endRoom]
  split
  next =>
    rw [handleRoomEnd]
    split
    next => rfl
    next => split <;> rfl
  next => rfl

/-- The players of the slots, as far as they are in. -/
def seated (players : Slot → SocketRef) (inside : Slot → Bool) (slot : Slot) :
    Option SocketRef :=
  if inside slot then some (players slot) else none

/-- The room waits, with some of its players in it and the others to come. -/
structure Gathers (m : RoomManager) (ref : RoomRef) (cfg : RoomConfig)
    (players : Slot → SocketRef) (inside : Slot → Bool) : Prop where
  joint : m.Joint
  placed : m.Placed
  waits : m.Waits ref cfg (seated players inside)
  fresh : ∀ slot, inside slot = false → m.Fresh (players slot)
  attached : ∀ slot, inside slot = true →
    (m.sockets (players slot)).attached = some (ref, ⟨slot, true⟩)

/-- Both players are in the room, and its match runs. -/
structure Meets (m : RoomManager) (ref : RoomRef) (cfg : RoomConfig)
    (players : Slot → SocketRef) : Prop where
  room : ∃ room, m.created[ref]? = some room ∧ room.cfg = cfg ∧
    room.state = .active ∧
      ∀ slot, (room.slots slot).map (·.ws) = some (players slot)
  attached : ∀ slot, (m.sockets (players slot)).attached =
    some (ref, ⟨slot, true⟩)

def Concerns (ws : SocketRef) : ManagerEvent → Prop
  | .message which _ _ => which = ws
  | .closing which => which = ws
  | .close which _ => which = ws
  | _ => False

theorem step_sockets {ws : SocketRef} (other : ¬ Concerns ws event) :
    (step runtime config expectedScore m event).sockets ws =
      m.sockets ws := by
  rw [step]
  split
  next => rfl
  next =>
    cases event with
    | createRoom cfg =>
        rw [handle, createRoom]
        split <;> rfl
    | message which data now =>
        have ne : ws ≠ which := fun same => other same.symm
        rw [handle, message]
        split
        next => rfl
        next =>
          split
          next => exact handleNewConnection_others ne data now
          next => rfl
          next => rw [roomMessage_sockets]
    | closing which =>
        have ne : ws ≠ which := fun same => other same.symm
        rw [handle]
        split
        next => exact setSocket_of_ne ne _
        next => rfl
    | close which now =>
        have ne : ws ≠ which := fun same => other same.symm
        have kept := @setSocket_of_ne m which ws ne
          { m.sockets which with readyState := .closed }
        rw [handle, close]
        dsimp only
        split
        next => rfl
        next =>
          split
          next => exact kept
          next =>
            split
            next => exact kept
            next =>
              rw [endRoom_sockets]
              exact kept
    | pingTimer which now =>
        rw [handle, pingTimer]
        split
        next => rfl
        next => split <;> rfl
    | forfeit which loserSlot now =>
        rw [handle, forfeit]
        split
        next => rfl
        next =>
          split
          next => rfl
          next => rw [endRoom_sockets]
    | db event => rfl

/-- A first message seats its socket in the room of the table that it names. -/
theorem found_of_attached (joint : m.Joint) (running : m.crashed = false)
    {ws : SocketRef} {data : List UInt8} {now : Nat}
    (first : (m.sockets ws).firstMessage = none) {ref : RoomRef}
    {key : SlotKey}
    (link : ((step runtime config expectedScore m
      (.message ws data now)).sockets ws).attached = some (ref, key)) :
    ∃ msg id, decodeClientMsg runtime data = .ok (some msg) ∧
      primitive (Json.get "roomId" msg) = some id ∧
        m.rooms.lookup (.value id) = some ref := by
  have unlinked := joint.greeted ws first
  rw [step, if_neg (by simp [running]), handle, message] at link
  split at link
  next =>
    rw [unlinked] at link
    cases link
  next =>
    rw [first] at link
    rcases m.handleNewConnection_cases runtime ws data now with
      crashed | refused | ⟨msg, id, found, room, taken, room', sends, decoded,
        _, named, lookup, held, _, _, seated⟩
    · have same := (takeFirst_idle data first).2.attached ws
      rw [unlinked] at same
      exact absurd ((crashed ▸ link).symm.trans same) (Option.some_ne_none _)
    · have same := (refused_idle data first).2.attached ws
      rw [unlinked] at same
      exact absurd ((refused ▸ link).symm.trans same) (Option.some_ne_none _)
    · have isLink := (@listen_takeFirst m ws data found taken).2.1
      have same := (seated ▸ link).symm.trans isLink
      cases same
      exact ⟨msg, id, decoded, named, lookup⟩

theorem attached_elsewhere (joint : m.Joint) (running : m.crashed = false)
    (waits : m.Waits ref cfg seats) (names : cfg.Names code ids)
    {ws : SocketRef} {data : List UInt8} {now : Nat}
    (first : (m.sockets ws).firstMessage = none)
    (other : ∀ msg, decodeClientMsg runtime data = .ok (some msg) →
      Json.get "roomId" msg ≠ some (.string code))
    {which : RoomRef} {key : SlotKey}
    (link : ((step runtime config expectedScore m
      (.message ws data now)).sockets ws).attached = some (which, key)) :
    which ≠ ref := by
  rintro rfl
  obtain ⟨msg, id, decoded, named, lookup⟩ :=
    found_of_attached joint running first link
  obtain ⟨room, at_ref, _, isKey⟩ := joint.table running _ _ lookup
  obtain ⟨room₀, at_ref₀, isCfg, _⟩ := waits.held
  cases at_ref.symm.trans at_ref₀
  rw [isCfg, names.roomId, roomKey_text] at isKey
  cases isKey
  exact other msg decoded (primitive_eq_string named)

/-- Another room has changed, but neither its id nor come back to life. -/
theorem Waits.set (waits : m.Waits ref cfg seats) {which : RoomRef}
    {room room' : RelayRoom} (elsewhere : which ≠ ref)
    (held : m.created[which]? = some room) (isCfg : room'.cfg = room.cfg)
    (closed : room.state = .closed → room'.state = .closed)
    (found : m'.rooms.lookup (roomKey ref cfg.roomId) = some ref)
    (created : m'.created = m.created.set which room') :
    m'.Waits ref cfg seats where
  found := found
  held := by
    rw [created, getElem?_set_of_held held, if_neg elsewhere]
    exact waits.held
  alone other room₀ at_other live same := by
    rw [created, getElem?_set_of_held held] at at_other
    split at at_other
    next isWhich =>
      cases at_other
      rw [← isWhich]
      exact waits.alone which room held (fun old => live (closed old))
        (isCfg ▸ same)
    next => exact waits.alone other room₀ at_other live same

theorem Waits.same (waits : m.Waits ref cfg seats)
    (rooms : m'.rooms = m.rooms) (created : m'.created = m.created) :
    m'.Waits ref cfg seats where
  found := rooms ▸ waits.found
  held := created ▸ waits.held
  alone := created ▸ waits.alone

theorem Waits.step (waits : m.Waits ref cfg seats) (joint : m.Joint)
    (placed : m.Placed) (names : cfg.Names code ids)
    (sitting : ∀ slot ws, seats slot = some ws → ws = players slot)
    (aside : m.Aside runtime code ref players event)
    (alive : (RoomManager.step runtime config expectedScore m event).crashed = false) :
    (RoomManager.step runtime config expectedScore m event).Waits ref cfg seats := by
  have acts := @step_acts R _ _ _ runtime config expectedScore m event
  have elsewhere := @attached_elsewhere R _ _ _ runtime config expectedScore m
    ref cfg code ids seats joint
  generalize isNext : RoomManager.step runtime config expectedScore m event = m' at *
  generalize m.onEndCalls event = calls at acts
  obtain ⟨room, held, isCfg, waiting, seated⟩ := waits.held
  cases acts with
  | idle rooms created => exact waits.same rooms created
  | create running isNew rooms created sent links =>
      subst isNew
      have key := names.roomId ▸ roomKey_text ref code
      refine ⟨?_, ⟨room, ?_, isCfg, waiting, seated⟩, ?_⟩
      · rw [rooms, AList.lookup_insert_ne, waits.found]
        intro same
        rw [key] at same
        exact aside (roomKey_eq_text same.symm)
      · rw [created]
        exact getElem?_concat_of_held held _
      · intro other room' at_other live same
        rw [created] at at_other
        rcases of_getElem?_concat at_other with old | ⟨_, rfl⟩
        · exact waits.alone other room' old live same
        · exact absurd (same.trans names.roomId) aside
  | @attach ws data now id slot playerId fighterId which room₁ room' key sends
      _ running first found at_which attached rooms created sent message link
      others =>
      have away := elsewhere running waits names first (aside first).2
        (isNext ▸ link)
      have live := joint.live_of_found running found at_which
      exact waits.set away at_which (RelayRoom.attach_spec attached).cfg
        (fun closed => absurd closed live) (rooms ▸ waits.found) created
  | @relay ws data now which room₁ room' key sends _ running link at_which
      handled rooms created sent links =>
      by_cases same : which = ref
      · subst same
        cases held.symm.trans at_which
        -- A room that waits takes no notice of what its player sends.
        rw [RelayRoom.handleMessage, if_pos (by rw [waiting]; decide)]
          at handled
        cases handled
        rw [set_of_getElem? held] at created
        exact waits.same rooms created
      · have seats := (RelayRoom.handleMessage_relays handled).1.seats
        exact waits.set same at_which seats.cfg (fun closed =>
          seats.state.trans closed) (rooms ▸ waits.found) created
  | ping _ _ _ rooms created => exact waits.same rooms created
  | @finish _ which room₁ sends _ running ends at_which live finishes rooms
      created sent links =>
      have away : which ≠ ref := by
        rintro rfl
        cases ends with
        | @close ws now key link _ =>
            obtain ⟨room', at_ref, sits⟩ := placed ws _ key link
            cases held.symm.trans at_ref
            exact aside _ (sitting _ ws (seated key.index ▸ sits))
        | forfeit => exact aside rfl
      rcases rooms with crashed | erased
      · rw [alive] at crashed
        cases crashed
      have isCfg' : ({ room₁ with
          state := .closed
          pingTimer := false } : RelayRoom).cfg = room₁.cfg := rfl
      refine waits.set away at_which isCfg' (fun _ => rfl) ?_ created
      rw [erased, AList.lookup_erase_ne, waits.found]
      intro same
      rw [names.roomId, roomKey_text] at same
      have sameId := roomKey_eq_text same.symm
      exact away (waits.alone which room₁ at_which live
        (sameId.trans names.roomId.symm))

theorem Placed.set (placed : m.Placed) {which : RoomRef}
    {room room' : RelayRoom} (held : m.created[which]? = some room)
    (created : m'.created = m.created.set which room')
    (kept : ∀ slot ws, (room.slots slot).map (·.ws) = some ws →
      (room'.slots slot).map (·.ws) = some ws)
    (links : ∀ ws ref key, (m'.sockets ws).attached = some (ref, key) →
      (m.sockets ws).attached = some (ref, key) ∨
        ref = which ∧ (room'.slots key.index).map (·.ws) = some ws) :
    m'.Placed := by
  intro ws ref key link
  rw [created, getElem?_set_of_held held]
  rcases links ws ref key link with old | ⟨rfl, sits⟩
  · obtain ⟨room₀, at_ref, sits⟩ := placed ws ref key old
    split
    next same =>
      subst same
      cases held.symm.trans at_ref
      exact ⟨room', rfl, kept _ ws sits⟩
    next => exact ⟨room₀, at_ref, sits⟩
  · rw [if_pos rfl]
    exact ⟨room', rfl, sits⟩

theorem Placed.same (placed : m.Placed) (created : m'.created = m.created)
    (links : SameLinks m m') : m'.Placed := by
  intro ws ref key link
  rw [created]
  exact placed ws ref key (links.attached ws ▸ link)

theorem Placed.step {calls : List RoomRef} (placed : m.Placed)
    (acts : Acts runtime config m event m' calls) : m'.Placed := by
  cases acts with
  | idle _ created _ links => exact placed.same created links
  | create _ _ _ created _ links =>
      intro ws ref key link
      obtain ⟨room, held, sits⟩ :=
        placed ws ref key (links.attached ws ▸ link)
      rw [created]
      exact ⟨room, getElem?_concat_of_held held _, sits⟩
  | @attach ws data now id slot playerId fighterId which room room' key sends _
      running first found held attached rooms created sent message link
      others =>
      have spec := RelayRoom.attach_spec attached
      refine placed.set held created (fun slot ws sits => ?_)
        fun other ref key' link' => ?_
      · rw [spec.slots, RelayRoom.setSlot_of_ne]
        · exact sits
        · rintro rfl
          rw [spec.free] at sits
          cases sits
      · by_cases same : other = ws
        · rw [same, link] at link'
          cases link'
          refine .inr ⟨rfl, ?_⟩
          rw [RelayRoom.attach_seated attached, same]
          rfl
        · rw [others other same] at link'
          exact .inl link'
  | relay _ _ held handled _ created _ links =>
      have seats := (RelayRoom.handleMessage_relays handled).1.seats
      exact placed.set held created (fun slot ws sits =>
        (seats.sockets slot).trans sits)
          fun ws ref key link => .inl (links.attached ws ▸ link)
  | ping _ _ _ _ created _ links => exact placed.same created links
  | finish _ _ held _ _ _ created _ links =>
      exact placed.set held created (fun _ _ sits => sits)
        fun ws ref key link => .inl (links.attached ws ▸ link)

theorem placed_initial (players : String → Option Player) :
    (initial players).Placed := by
  intro ws ref key link
  cases link

variable {inside : Slot → Bool}

theorem running_of_step
    (alive : (step runtime config expectedScore m event).crashed = false) :
    m.crashed = false := by
  have acts := @step_acts R _ _ _ runtime config expectedScore m event
  generalize step runtime config expectedScore m event = m' at acts alive
  generalize m.onEndCalls event = calls at acts
  cases acts with
  | idle _ _ _ _ crashed => exact crashed alive
  | create running => exact running
  | attach running => exact running
  | relay running => exact running
  | ping running => exact running
  | finish running => exact running

theorem running_of_run {events : List ManagerEvent}
    (alive : ((step runtime config expectedScore).run m events).crashed =
      false) : m.crashed = false := by
  induction events generalizing m with
  | nil => exact alive
  | cons event rest ih => exact running_of_step (ih alive)

theorem attached_of_step (joint : m.Joint) {ws : SocketRef}
    {link : RoomRef × SlotKey} (attached : (m.sockets ws).attached = some link) :
    ((step runtime config expectedScore m event).sockets ws).attached =
      some link := by
  have acts := @step_acts R _ _ _ runtime config expectedScore m event
  generalize step runtime config expectedScore m event = m' at acts
  generalize m.onEndCalls event = calls at acts
  cases acts with
  | idle _ _ _ links => exact (links.attached ws).trans attached
  | create _ _ _ _ _ links => exact (links.attached ws).trans attached
  | @attach which _ _ _ _ _ _ _ _ _ _ _ _ _ first _ _ _ _ _ _ _ _ others =>
      rw [others ws]
      · exact attached
      · rintro rfl
        rw [joint.greeted ws first] at attached
        cases attached
  | relay _ _ _ _ _ _ _ links => exact (links.attached ws).trans attached
  | ping _ _ _ _ _ _ links => exact (links.attached ws).trans attached
  | finish _ _ _ _ _ _ _ _ links => exact (links.attached ws).trans attached

theorem Aside.unconcerned {ws : SocketRef} (fresh : m.Fresh ws)
    (player : ∃ slot, ws = players slot)
    (aside : m.Aside runtime code ref players event) :
    ¬ Concerns ws event := by
  obtain ⟨slot, rfl⟩ := player
  intro concerns
  cases event with
  | message which data now =>
      rw [Concerns] at concerns
      subst concerns
      exact (aside fresh.unheard).1 slot rfl
  | closing which => exact aside slot concerns
  | close which now => exact aside slot concerns
  | _ => exact concerns

theorem Gathers.step (gathers : m.Gathers ref cfg players inside)
    (names : cfg.Names code ids)
    (aside : m.Aside runtime code ref players event)
    (alive : (RoomManager.step runtime config expectedScore m event).crashed =
      false) :
    (RoomManager.step runtime config expectedScore m event).Gathers ref cfg
      players inside where
  joint := gathers.joint.step (step_acts m event)
  placed := gathers.placed.step (step_acts m event)
  waits := gathers.waits.step gathers.joint gathers.placed names (fun slot ws sits => by
    rw [seated] at sits
    split at sits
    next => exact (Option.some.inj sits).symm
    next => cases sits) aside alive
  fresh slot outside := by
    have fresh := gathers.fresh slot outside
    have same := @step_sockets R _ _ _ runtime config expectedScore m event _
      (aside.unconcerned fresh ⟨slot, rfl⟩)
    exact ⟨same ▸ fresh.unheard, same ▸ fresh.alive⟩
  attached slot within :=
    attached_of_step gathers.joint (gathers.attached slot within)

theorem Gathers.run (gathers : m.Gathers ref cfg players inside)
    (names : cfg.Names code ids) {events : List ManagerEvent}
    (aside : (RoomManager.step runtime config expectedScore).Along
      (Aside runtime code ref players) m events)
    (alive : ((RoomManager.step runtime config expectedScore).run m
      events).crashed = false) :
    ((RoomManager.step runtime config expectedScore).run m events).Gathers ref
      cfg players inside := by
  induction events generalizing m with
  | nil => exact gathers
  | cons event rest ih =>
      refine ih (gathers.step names aside.1 ?_) aside.2 alive
      exact running_of_run alive

theorem slotKey_number (slot : Slot) :
    slotKey (some (.number (.finite slot.number))) = .ok (some ⟨slot, true⟩) := by
  cases slot with
  | p1 => rfl
  | p2 => rfl

theorem expectedPlayerId_number (cfg : RoomConfig) (slot : Slot) :
    cfg.expectedPlayerId (some (.number (.finite slot.number))) =
      cfg.playerId slot := by
  cases slot with
  | p1 => rfl
  | p2 => rfl

theorem attach_free {room : RelayRoom} {slot : Slot}
    (free : room.slots slot = none) (ws : SocketRef) (playerId fighterId : JsVal)
    (now : Nat) :
    ∃ room' sends,
      room.attach (some (.number (.finite slot.number))) ws playerId fighterId
        now = .ok (some (⟨slot, true⟩, room', sends)) := by
  rw [RelayRoom.attach, slotKey_number]
  dsimp only [bind, Except.bind]
  rw [if_neg (by rw [free]; decide)]
  split
  next => exact ⟨_, _, rfl⟩
  next => exact ⟨_, _, rfl⟩

/-- What a join that names a free slot of the room does. -/
theorem handleNewConnection_asks {room : RelayRoom} {slot : Slot}
    (names : cfg.Names code ids)
    (found : m.rooms.lookup (roomKey ref cfg.roomId) = some ref)
    (held : m.created[ref]? = some room) (isCfg : room.cfg = cfg)
    (free : room.slots slot = none) {data : List UInt8}
    (asks : Asks runtime code (ids slot) slot data) (ws : SocketRef)
    (now : Nat) :
    ∃ playerId fighterId room' sends,
      room.attach (some (.number (.finite slot.number))) ws playerId fighterId
          now = .ok (some (⟨slot, true⟩, room', sends)) ∧
        m.handleNewConnection runtime ws data now =
          { (m.takeFirst ws data).listen ws ref ⟨slot, true⟩ with
            created := m.created.set ref room', sent := m.sent ++ sends } := by
  obtain ⟨msg, decoded, type, roomId, playerId, number⟩ := asks
  obtain ⟨room', sends, attached⟩ := attach_free free ws
    (some (.string (ids slot)))
    (cfg.fighterId (some (.number (.finite slot.number)))) now
  refine ⟨_, _, room', sends, attached, ?_⟩
  have isJoin : JsVal.strictEq (some (.nat MsgType.clientJoin.code))
      (some (.nat MsgType.clientJoin.code)) = true :=
    (JsVal.strictEq_nat_iff ..).mpr rfl
  have expected : JsVal.strictEq (some (.string (ids slot)))
      (cfg.expectedPlayerId (some (.number (.finite slot.number)))) = true := by
    rw [expectedPlayerId_number, names.playerId, JsVal.strictEq]
    exact beq_self_eq_true _
  have lookup : (m.takeFirst ws data).rooms.lookup (.value (.string code)) =
      some ref := by
    rw [names.roomId] at found
    exact found
  have at_ref : (m.takeFirst ws data).created[ref]? = some room := held
  rw [handleNewConnection]
  simp only [decoded, type, isJoin, roomId, playerId, number, primitive,
    Option.bind_some, lookup, at_ref, expected, isCfg, attached, if_true]
  rfl

def joinSends (cfg : RoomConfig) (players : Slot → SocketRef) (slot : Slot)
    (both : Bool) : Sends :=
  (players slot, .waiting) ::
    if both then
      [(players .p1, .start .p1 cfg), (players .p2, .start .p2 cfg)]
    else []

section

variable {slot : Slot} {room room' : RelayRoom} {playerId fighterId : JsVal}
  {now : Nat} {sends : Sends}

theorem attach_seats (seats : ∀ which, (room.slots which).map (·.ws) =
      seated players inside which)
    (attached : room.attach (some (.number (.finite slot.number)))
      (players slot) playerId fighterId now =
        .ok (some (⟨slot, true⟩, room', sends))) (which : Slot) :
    (room'.slots which).map (·.ws) =
      seated players (fun which => decide (which = slot) || inside which)
        which := by
  by_cases same : which = slot
  · subst same
    have taken := RelayRoom.attach_seated attached
    rw [taken, Option.map_some, seated, if_pos (by simp)]
  · rw [Slot.eq_other_of_ne same] at *
    have kept := RelayRoom.attach_other attached
    rw [kept, seats, seated, seated]
    simp

theorem attach_joinSends (cfg' : room.cfg = cfg)
    (seats : ∀ which, (room.slots which).map (·.ws) =
      seated players inside which)
    (attached : room.attach (some (.number (.finite slot.number)))
      (players slot) playerId fighterId now =
        .ok (some (⟨slot, true⟩, room', sends))) :
    room'.full = inside slot.other ∧
      sends = joinSends cfg players slot (inside slot.other) := by
  have full : room'.full = inside slot.other := by
    have other := RelayRoom.attach_full attached
    rw [other, ← Option.isSome_map (f := fun info => info.ws), seats, seated]
    cases inside slot.other <;> rfl
  refine ⟨full, ?_⟩
  rw [(RelayRoom.attach_sends attached).2, joinSends, full]
  cases both : inside slot.other with
  | false => rfl
  | true =>
      rw [both] at full
      obtain ⟨first, atFirst, second, atSecond, starts⟩ :=
        RelayRoom.startSends_of_full full
      have ws (which : Slot) (info : SlotInfo)
          (at_which : room'.slots which = some info) :
          info.ws = players which := by
        have seat := attach_seats seats attached which
        rw [at_which, Option.map_some, seated] at seat
        split at seat
        next => exact Option.some.inj seat
        next => cases seat
      rw [if_pos rfl, if_pos rfl, starts, ws .p1 first atFirst,
        ws .p2 second atSecond, (RelayRoom.attach_spec attached).cfg, cfg']

end

theorem Gathers.join (gathers : m.Gathers ref cfg players inside)
    (running : m.crashed = false) (names : cfg.Names code ids)
    (apart : players .p1 ≠ players .p2) {slot : Slot}
    (outside : inside slot = false) {data : List UInt8}
    (asks : Asks runtime code (ids slot) slot data) (now : Nat)
    (isNext : m' = RoomManager.step runtime config expectedScore m
      (.message (players slot) data now)) :
    m'.sent = m.sent ++ joinSends cfg players slot (inside slot.other) ∧
      m'.crashed = false ∧
      if inside slot.other then m'.Meets ref cfg players
      else m'.Gathers ref cfg players fun which =>
        decide (which = slot) || inside which := by
  obtain ⟨room, held, isCfg, waiting, seats⟩ := gathers.waits.held
  have fresh := gathers.fresh slot outside
  have free : room.slots slot = none := by
    have none_in := seats slot
    rw [seated, outside] at none_in
    exact Option.map_eq_none_iff.mp none_in
  obtain ⟨playerId, fighterId, room', sends, attached, shape⟩ :=
    handleNewConnection_asks (m := m) names gathers.waits.found held isCfg free
      asks (players slot) now
  have moved : m' =
      { (m.takeFirst (players slot) data).listen (players slot) ref
          ⟨slot, true⟩ with
        created := m.created.set ref room', sent := m.sent ++ sends } := by
    rw [isNext, RoomManager.step, if_neg (by simp [running]), handle, message,
      if_neg fresh.alive, fresh.unheard]
    exact shape
  have settled := gathers.joint.settled_of_held held
  have live : room.state ≠ .closed := by
    rw [waiting]
    decide
  obtain ⟨full, told⟩ := attach_joinSends isCfg seats attached
  have spec := RelayRoom.attach_spec attached
  have seats' := attach_seats seats attached
  have state := RelayRoom.attach_state attached settled live
  obtain ⟨message, link, others⟩ :=
    @listen_takeFirst m (players slot) data ref ⟨slot, true⟩
  have at_ref : m'.created[ref]? = some room' := by
    rw [moved]
    exact (getElem?_set_of_held held room' ref).trans (if_pos rfl)
  have joined : (m'.sockets (players slot)).attached =
      some (ref, ⟨slot, true⟩) := by
    rw [moved]
    exact link
  have kept (other : SocketRef) (ne : other ≠ players slot) :
      m'.sockets other = m.sockets other := by
    rw [moved]
    exact others other ne
  have elsewhere : players slot.other ≠ players slot := by
    cases slot with
    | p1 => exact apart.symm
    | p2 => exact apart
  refine ⟨by rw [moved, told], by rw [moved]; exact running, ?_⟩
  cases both : inside slot.other with
  | true =>
      refine ⟨⟨room', at_ref, spec.cfg.trans isCfg, ?_, fun which => ?_⟩,
        fun which => ?_⟩
      · rw [state, full, both, if_pos rfl]
      · rw [seats', seated, if_pos]
        by_cases same : which = slot
        · simp [same]
        · rw [Slot.eq_other_of_ne same, both, Bool.or_true]
      · by_cases same : which = slot
        · rw [same]
          exact joined
        · rw [Slot.eq_other_of_ne same, kept _ elsewhere]
          exact gathers.attached _ both
  | false =>
      refine ⟨isNext ▸ gathers.joint.step (step_acts m _),
        isNext ▸ gathers.placed.step (step_acts m _), ⟨?_, ⟨room', at_ref,
          spec.cfg.trans isCfg, ?_, seats'⟩, ?_⟩, ?_, ?_⟩
      · rw [moved]
        exact gathers.waits.found
      · rw [state, full, both]
        rfl
      · intro other room₀ at_other live₀ same
        rw [moved] at at_other
        have place := getElem?_set_of_held held room' other
        rw [place] at at_other
        split at at_other
        next isRef => exact isRef.symm
        next => exact gathers.waits.alone other room₀ at_other live₀ same
      · intro which out
        rw [Bool.or_eq_false_iff, decide_eq_false_iff_not] at out
        have isOther := Slot.eq_other_of_ne out.1
        have old := gathers.fresh which out.2
        rw [isOther] at old ⊢
        have same := kept _ elsewhere
        exact ⟨same ▸ old.unheard, same ▸ old.alive⟩
      · intro which within
        by_cases same : which = slot
        · rw [same]
          exact joined
        · have old : inside which = true := by simpa [same] using within
          rw [Slot.eq_other_of_ne same] at old ⊢
          rw [kept _ elsewhere]
          exact gathers.attached _ old

/-- The id is new, and there is a place. -/
structure Opens (config : RelayConfig) (m : RoomManager) (code : String) :
    Prop where
  running : m.crashed = false
  place : m.rooms.keys.length < config.maxRooms
  isNew : ∀ (ref : RoomRef) (room : RelayRoom), m.created[ref]? = some room →
    room.state ≠ .closed → room.cfg.roomId ≠ some (.string code)

theorem Opens.step (opens : m.Opens config code) (json : Json) :
    (RoomManager.step runtime config expectedScore m
        (.createRoom json)).crashed = false ∧
      (RoomManager.step runtime config expectedScore m
        (.createRoom json)).created =
          m.created ++ [.new (.ofJson json config.pingIntervalMs)] ∧
      (RoomManager.step runtime config expectedScore m
        (.createRoom json)).rooms = m.rooms.insert (roomKey m.created.length
          (RoomConfig.ofJson json config.pingIntervalMs).roomId)
            m.created.length ∧
      (RoomManager.step runtime config expectedScore m
        (.createRoom json)).sockets = m.sockets := by
  have place := opens.place
  rw [RoomManager.step, if_neg (by simp [opens.running]), handle, createRoom,
    if_neg (by omega)]
  exact ⟨opens.running, rfl, rfl, rfl⟩

theorem Opens.gathers (opens : m.Opens config code) (joint : m.Joint)
    (placed : m.Placed) {json : Json}
    (names : (RoomConfig.ofJson json config.pingIntervalMs).Names code ids)
    (fresh : ∀ slot, m.Fresh (players slot)) :
    (RoomManager.step runtime config expectedScore m
      (.createRoom json)).Gathers m.created.length
        (.ofJson json config.pingIntervalMs) players fun _ => false := by
  obtain ⟨_, created, rooms, sockets⟩ :=
    @Opens.step R _ _ _ runtime config expectedScore m code opens json
  refine ⟨joint.step (step_acts m _), placed.step (step_acts m _),
    ⟨?_, ⟨.new (.ofJson json config.pingIntervalMs), ?_, rfl, rfl,
      fun _ => rfl⟩, ?_⟩, fun slot _ => ?_, fun slot within => ?_⟩
  · rw [rooms, AList.lookup_insert]
  · rw [created, List.getElem?_concat_length]
  · intro other room at_other live same
    rw [created] at at_other
    rcases of_getElem?_concat at_other with old | ⟨isNew, _⟩
    · exact absurd (same.trans names.roomId) (opens.isNew other room old live)
    · exact isNew
  · have player := fresh slot
    exact ⟨sockets ▸ player.unheard, sockets ▸ player.alive⟩
  · cases within

/-- The two joins, with other events in front of each. -/
structure Arrivals where
  first : Slot
  before : List ManagerEvent
  between : List ManagerEvent
  now : Slot → Nat

namespace Arrivals

variable (arrivals : Arrivals) (players : Slot → SocketRef)
  (data : Slot → List UInt8)

def join (slot : Slot) : ManagerEvent :=
  .message (players slot) (data slot) (arrivals.now slot)

def events : List ManagerEvent :=
  arrivals.before ++ arrivals.join players data arrivals.first ::
    arrivals.between

structure Undisturbed (runtime : JsRuntime) (code : String) (ref : RoomRef)
    (step : Machine RoomManager ManagerEvent) (m : RoomManager) : Prop where
  before : step.Along (Aside runtime code ref players) m arrivals.before
  between : step.Along (Aside runtime code ref players)
    (step.run m (arrivals.before ++ [arrivals.join players data
      arrivals.first])) arrivals.between
  alive : (step.run m (arrivals.events players data)).crashed = false

end Arrivals

/-- Whoever comes first waits, and with the other one the match starts. -/
theorem Gathers.meets {data : Slot → List UInt8} {arrivals : Arrivals}
    (gathers : m.Gathers ref cfg players fun _ => false)
    (names : cfg.Names code ids) (apart : players .p1 ≠ players .p2)
    (asks : ∀ slot, Asks runtime code (ids slot) slot (data slot))
    (undisturbed : arrivals.Undisturbed players data runtime code ref
      (RoomManager.step runtime config expectedScore) m)
    (isLast : m' = (RoomManager.step runtime config expectedScore).run m
      (arrivals.events players data)) :
    let met := RoomManager.step runtime config expectedScore m'
      (arrivals.join players data arrivals.first.other)
    met.Meets ref cfg players ∧ met.crashed = false ∧
      met.sent = m'.sent ++
        joinSends cfg players arrivals.first.other true := by
  obtain ⟨before, between, alive⟩ := undisturbed
  subst isLast
  rw [Arrivals.events, Machine.run_append, Machine.run_cons] at alive ⊢
  rw [Machine.run_append] at between
  have running := running_of_step (running_of_run alive)
  have waiting := gathers.run names before running
  obtain ⟨_, _, joined⟩ := waiting.join running names apart (Eq.refl false)
    (asks arrivals.first) (arrivals.now arrivals.first)
      (Eq.refl (RoomManager.step runtime config expectedScore _ _))
  rw [if_neg Bool.false_ne_true] at joined
  have ready := joined.run names between alive
  have outside : (decide (arrivals.first.other = arrivals.first) || false) =
      false := by simp
  obtain ⟨sent, still, meets⟩ := ready.join alive names apart outside
    (asks arrivals.first.other) (arrivals.now arrivals.first.other)
      (Eq.refl (RoomManager.step runtime config expectedScore _ _))
  have inside : (decide (arrivals.first.other.other = arrivals.first) ||
      false) = true := by simp
  rw [inside] at sent meets
  exact ⟨meets, still, sent⟩

end RoomManager

end FuryClash.Server
