import FuryClash.Server.Moves
import FuryClash.Server.RoomSends

namespace FuryClash.Server

open FuryClash.Data

variable {R : Type} [Field R] [LinearOrder R] [FloorRing R]
  (runtime : JsRuntime) (config : RelayConfig)
  (expectedScore : Int → Int → R)

/-! Which room acts in a step of the manager, and what it sends. -/

namespace RoomManager

def onEndCalls (m : RoomManager) : ManagerEvent → List RoomRef
  | .close ws _ =>
      let socket := m.sockets ws
      if m.crashed ∨ socket.readyState = .closed then []
      else
        let m := m.setSocket ws { socket with readyState := .closed }
        match socket.attached with
        | none => []
        | some (ref, key) =>
            match m.created[ref]? with
            | none => []
            | some room =>
                if (room.handleClose m.isOpen key).1 then [ref] else []
  | .forfeit ref loserSlot _ =>
      if m.crashed then []
      else
        match m.created[ref]? with
        | none => []
        | some room =>
            if room.cfg.roomId.toStringThrows then []
            else if (room.finish m.isOpen (forfeitPayload loserSlot)).1 then
              [ref]
            else []
  | _ => []

inductive Acts (m : RoomManager) :
    ManagerEvent → RoomManager → List RoomRef → Prop where
  | idle {event : ManagerEvent} {m' : RoomManager}
      (rooms : m'.rooms = m.rooms) (created : m'.created = m.created)
      (sent : m'.sent = m.sent) (links : SameLinks m m')
      (crashed : m'.crashed = false → m.crashed = false) :
      Acts m event m' []
  | create {cfg : Json} {room : RelayRoom} {m' : RoomManager}
      (running : m.crashed = false)
      (isNew : room = .new (.ofJson cfg config.pingIntervalMs))
      (rooms : m'.rooms = m.rooms.insert
        (roomKey m.created.length room.cfg.roomId) m.created.length)
      (created : m'.created = m.created ++ [room])
      (sent : m'.sent = m.sent) (links : SameLinks m m') :
      Acts m (.createRoom cfg) m' []
  | attach {ws : SocketRef} {data : List UInt8} {now : Nat} {id : RoomKey}
      {slot playerId fighterId : JsVal} {ref : RoomRef}
      {room room' : RelayRoom} {key : SlotKey} {sends : Sends}
      {m' : RoomManager} (running : m.crashed = false)
      (first : (m.sockets ws).firstMessage = none)
      (found : m.rooms.lookup id = some ref)
      (held : m.created[ref]? = some room)
      (attached : room.attach slot ws playerId fighterId now =
        .ok (some (key, room', sends)))
      (rooms : m'.rooms = m.rooms)
      (created : m'.created = m.created.set ref room')
      (sent : m'.sent = m.sent ++ sends)
      (message : (m'.sockets ws).firstMessage = some data)
      (link : (m'.sockets ws).attached = some (ref, key))
      (others : ∀ other, other ≠ ws → m'.sockets other = m.sockets other) :
      Acts m (.message ws data now) m' []
  | relay {ws : SocketRef} {data : List UInt8} {now : Nat} {ref : RoomRef}
      {room room' : RelayRoom} {key : SlotKey} {sends : Sends}
      {m' : RoomManager} (running : m.crashed = false)
      (linked : (m.sockets ws).attached = some (ref, key))
      (held : m.created[ref]? = some room)
      (handled : room.handleMessage runtime m.isOpen key data =
        .ok (room', sends))
      (rooms : m'.rooms = m.rooms)
      (created : m'.created = m.created.set ref room')
      (sent : m'.sent = m.sent ++ sends) (links : SameLinks m m') :
      Acts m (.message ws data now) m' []
  | ping {ref : RoomRef} {now : Nat} {room : RelayRoom} {m' : RoomManager}
      (running : m.crashed = false) (held : m.created[ref]? = some room)
      (timer : room.pingTimer = true) (rooms : m'.rooms = m.rooms)
      (created : m'.created = m.created)
      (sent : m'.sent = m.sent ++ room.sendPing m.isOpen now)
      (links : SameLinks m m') : Acts m (.pingTimer ref now) m' []
  /-- A room whose id has no text stays in the table, and the process ends. -/
  | finish {event : ManagerEvent} {ref : RoomRef} {room : RelayRoom}
      {sends : Sends} {m' : RoomManager} (running : m.crashed = false)
      (ends : m.Ends ref event) (held : m.created[ref]? = some room)
      (live : room.state ≠ .closed) (finishes : room.Finishes sends)
      (rooms : m'.crashed = true ∨
        m'.rooms = m.rooms.erase (roomKey ref room.cfg.roomId))
      (created : m'.created = m.created.set ref
        { room with state := .closed, pingTimer := false })
      (sent : m'.sent = m.sent ++ sends) (links : SameLinks m m') :
      Acts m event m' [ref]

variable {runtime config expectedScore} {m : RoomManager}

theorem endRoom_acts {event : ManagerEvent} {ref : RoomRef}
    {room : RelayRoom} {sends : Sends} {payload : MatchEndPayload} {now : Nat}
    {n : RoomManager} (running : m.crashed = false)
    (rooms : n.rooms = m.rooms) (created : n.created = m.created)
    (sent : n.sent = m.sent) (links : SameLinks m n)
    (ends : m.Ends ref event) (held : m.created[ref]? = some room)
    (live : room.state ≠ .closed) (finishes : room.Finishes sends) :
    Acts runtime config m event
      (n.endRoom config ref
        (true, { room with state := .closed, pingTimer := false }, sends)
        payload now) [ref] := by
  have record (m' : RoomManager)
      (shape : m' = n.endRoom config ref
        (true, { room with state := .closed, pingTimer := false }, sends)
        payload now) :
      (m'.crashed = true ∨
        m'.rooms = n.rooms.erase (roomKey ref room.cfg.roomId)) ∧
      m'.created = n.created.set ref
        { room with state := .closed, pingTimer := false } ∧
      m'.sent = n.sent ++ sends ∧ m'.sockets = n.sockets := by
    subst shape
    rw [endRoom]
    simp only [if_true, handleRoomEnd]
    split
    next => exact ⟨.inl rfl, rfl, rfl, rfl⟩
    next =>
      split
      next => exact ⟨.inr rfl, rfl, rfl, rfl⟩
      next => exact ⟨.inr rfl, rfl, rfl, rfl⟩
  obtain ⟨rooms', created', sent', sockets'⟩ := record _ rfl
  rw [rooms] at rooms'
  rw [created] at created'
  rw [sent] at sent'
  exact .finish running ends held live finishes rooms' created' sent'
    (links.trans (.of_sockets sockets'))

theorem endRoom_closed {ref : RoomRef} {room : RelayRoom}
    {payload : MatchEndPayload} {now : Nat}
    (held : m.created[ref]? = some room) :
    m.endRoom config ref (false, room, []) payload now = m := by
  rw [endRoom]
  simp only [Bool.false_eq_true, if_false, List.append_nil,
    set_of_getElem? held]

theorem handleNewConnection_acts {ws : SocketRef} (data : List UInt8)
    (now : Nat) (running : m.crashed = false)
    (first : (m.sockets ws).firstMessage = none) :
    Acts runtime config m (.message ws data now)
      (m.handleNewConnection runtime ws data now) [] := by
  obtain ⟨_, sameLinks⟩ := takeFirst_idle data first
  obtain ⟨_, refusedLinks⟩ := refused_idle data first
  rcases m.handleNewConnection_cases runtime ws data now with
    crashed | refused | ⟨msg, roomId, ref, room, key, room', sends, _, _,
      _, found, held, _, attached, seated⟩
  · rw [crashed]
    exact .idle rfl rfl rfl ⟨sameLinks.attached, sameLinks.first⟩
      fun _ => running
  · rw [refused]
    exact .idle rfl rfl rfl refusedLinks fun _ => running
  · obtain ⟨message, link, others⟩ := @listen_takeFirst m ws data ref key
    rw [seated]
    exact .attach running first found held attached rfl rfl rfl message link
      others

theorem message_acts (ws : SocketRef) (data : List UInt8) (now : Nat)
    (running : m.crashed = false) :
    Acts runtime config m (.message ws data now)
      (m.message runtime ws data now) [] := by
  have idle : Acts runtime config m (.message ws data now) m [] :=
    .idle rfl rfl rfl .refl fun _ => running
  rw [message]
  split
  next => exact idle
  next =>
    split
    next _ first => exact handleNewConnection_acts data now running first
    next => exact idle
    next ref key _ attached =>
      rw [roomMessage]
      split
      next => exact idle
      next room held =>
        split
        next => exact .idle rfl rfl rfl (.of_sockets rfl) fun _ => running
        next room' sends handled =>
          exact .relay running attached held handled rfl rfl rfl
            (.of_sockets rfl)

theorem close_acts (ws : SocketRef) (now : Nat)
    (running : m.crashed = false) :
    Acts runtime config m (.close ws now) (m.close config ws now)
      (m.onEndCalls (.close ws now)) := by
  rw [close, onEndCalls]
  simp only [running, Bool.false_eq_true, false_or]
  have links : SameLinks m (m.setSocket ws
      { m.sockets ws with readyState := .closed }) :=
    setSocket_sameLinks rfl fun _ => id
  -- The manager of the handler differs from `m` in the socket alone.
  obtain ⟨n, isNext⟩ : ∃ n, m.setSocket ws
      { m.sockets ws with readyState := .closed } = n := ⟨_, rfl⟩
  obtain ⟨rooms, created, sent⟩ : n.rooms = m.rooms ∧
      n.created = m.created ∧ n.sent = m.sent := by
    subst isNext
    exact ⟨rfl, rfl, rfl⟩
  rw [isNext] at links ⊢
  have idle : Acts runtime config m (.close ws now) n [] :=
    .idle rooms created sent links fun _ => running
  by_cases gone : (m.sockets ws).readyState = .closed
  · rw [if_pos gone, if_pos gone]
    exact .idle rfl rfl rfl .refl fun _ => running
  · rw [if_neg gone, if_neg gone]
    cases attached : (m.sockets ws).attached with
    | none => exact idle
    | some link =>
        obtain ⟨ref, key⟩ := link
        dsimp only
        rw [created]
        cases held : m.created[ref]? with
        | none => exact idle
        | some room =>
            dsimp only
            by_cases live : room.state = .closed
            · have closed : room.handleClose n.isOpen key =
                  (false, room, []) := if_pos live
              rw [closed, endRoom_closed (created ▸ held)]
              exact idle
            · obtain ⟨sends, finishes, shape⟩ :=
                RelayRoom.handleClose_live live key
              rw [shape]
              exact endRoom_acts running rooms created sent links
                (.close attached gone) held live finishes

theorem forfeit_acts (ref : RoomRef) (loserSlot : Slot) (now : Nat)
    (running : m.crashed = false) :
    Acts runtime config m (.forfeit ref loserSlot now)
      (m.forfeit config ref loserSlot now)
      (m.onEndCalls (.forfeit ref loserSlot now)) := by
  have idle : Acts runtime config m (.forfeit ref loserSlot now) m [] :=
    .idle rfl rfl rfl .refl fun _ => running
  rw [forfeit, onEndCalls]
  simp only [running, Bool.false_eq_true, if_false]
  cases held : m.created[ref]? with
  | none => exact idle
  | some room =>
      by_cases noText : room.cfg.roomId.toStringThrows = true
      · simpa only [noText, if_true] using idle
      · by_cases live : room.state = .closed
        · have closed : room.finish m.isOpen (forfeitPayload loserSlot) =
              (false, room, []) := if_pos live
          simp only [noText, closed, Bool.false_eq_true, if_false]
          rw [endRoom_closed held]
          exact idle
        · obtain ⟨sends, finishes, shape⟩ :=
            RelayRoom.finish_live live (forfeitPayload loserSlot)
          simp only [noText, Bool.false_eq_true, if_false]
          rw [shape]
          exact endRoom_acts running rfl rfl rfl .refl .forfeit held live
            finishes

theorem step_acts (m : RoomManager) (event : ManagerEvent) :
    Acts runtime config m event (step runtime config expectedScore m event)
      (m.onEndCalls event) := by
  rw [step]
  split
  next crashed =>
    have silent : m.onEndCalls event = [] := by
      cases event with
      | close => simp [onEndCalls, crashed.1]
      | forfeit => simp [onEndCalls, crashed.1]
      | _ => rfl
    rw [silent]
    exact .idle rfl rfl rfl .refl id
  next notCrashed =>
    cases event with
    | db event => exact .idle rfl rfl rfl (.of_sockets rfl) id
    | createRoom cfg =>
        have running : m.crashed = false := by
          simpa [ManagerEvent.ofWorker] using notCrashed
        rw [handle, createRoom]
        split
        next => exact .idle rfl rfl rfl .refl fun _ => running
        next => exact .create running rfl rfl rfl rfl (.of_sockets rfl)
    | message ws data now =>
        exact message_acts ws data now
          (by simpa [ManagerEvent.ofWorker] using notCrashed)
    | closing ws =>
        rw [handle]
        split
        next => exact .idle rfl rfl rfl (closeSocket_idle ws).2 id
        next => exact .idle rfl rfl rfl .refl id
    | close ws now =>
        exact close_acts ws now
          (by simpa [ManagerEvent.ofWorker] using notCrashed)
    | pingTimer ref now =>
        have running : m.crashed = false := by
          simpa [ManagerEvent.ofWorker] using notCrashed
        rw [handle, pingTimer]
        split
        next => exact .idle rfl rfl rfl .refl id
        next room held =>
          split
          next timer =>
            exact .ping running held timer rfl rfl rfl (.of_sockets rfl)
          next => exact .idle rfl rfl rfl .refl id
    | forfeit ref loserSlot now =>
        exact forfeit_acts ref loserSlot now
          (by simpa [ManagerEvent.ofWorker] using notCrashed)

end RoomManager

end FuryClash.Server
