import FuryClash.Data.ListUpdate
import FuryClash.Server.RoomManager

namespace FuryClash.Server

open FuryClash.Data

variable {R : Type} [Field R] [LinearOrder R] [FloorRing R]
  (runtime : JsRuntime) (config : RelayConfig)
  (expectedScore : Int → Int → R)

/-! What a step of the manager can do to the rooms, the table and the database,
said once for all the properties of its runs. -/

namespace RoomManager

structure SameRooms (m m' : RoomManager) : Prop where
  rooms : m'.rooms = m.rooms
  created : m'.created = m.created
  db : m'.db = m.db

structure SameLinks (m m' : RoomManager) : Prop where
  attached : ∀ ws, (m'.sockets ws).attached = (m.sockets ws).attached
  first : ∀ ws, ∀ data ∈ (m.sockets ws).firstMessage,
    (m'.sockets ws).firstMessage = some data

/-- The `CLIENT_JOIN` that the socket has sent. -/
def JoinOf (m : RoomManager) (ws : SocketRef) (msg : DecodedMsg) : Prop :=
  ∃ data ∈ (m.sockets ws).firstMessage,
    decodeClientMsg runtime data = .ok (some msg) ∧
      (Json.get "type" msg).strictEq
        (some (.nat MsgType.clientJoin.code)) = true

inductive Ends (m : RoomManager) (ref : RoomRef) : ManagerEvent → Prop where
  | close {ws : SocketRef} {now : Nat} {key : SlotKey}
      (attached : (m.sockets ws).attached = some (ref, key))
      (alive : (m.sockets ws).readyState ≠ .closed) :
      Ends m ref (.close ws now)
  | forfeit {loserSlot : Slot} {now : Nat} :
      Ends m ref (.forfeit ref loserSlot now)

inductive Moves (m : RoomManager) : ManagerEvent → RoomManager → Prop where
  | idle {event : ManagerEvent} {m' : RoomManager}
      (same : SameRooms m m') (links : SameLinks m m') : Moves m event m'
  | create {cfg : Json} {m' : RoomManager} (running : m.crashed = false)
      (capacity : m.rooms.keys.length < config.maxRooms)
      (rooms : m'.rooms = m.rooms.insert
        (roomKey m.created.length (Json.get "roomId" cfg.spread))
        m.created.length)
      (created : m'.created = m.created ++
        [.new (.ofJson cfg config.pingIntervalMs)])
      (db : m'.db = m.db) (links : SameLinks m m') :
      Moves m (.createRoom cfg) m'
  | seat {ws : SocketRef} {data : List UInt8} {now : Nat} {msg : DecodedMsg}
      {roomId : JsPrimitive} {ref : RoomRef} {room room' : RelayRoom}
      {key : SlotKey} {fighterId : JsVal} {m' : RoomManager}
      (first : (m.sockets ws).firstMessage = none)
      (decoded : decodeClientMsg runtime data = .ok (some msg))
      (join : (Json.get "type" msg).strictEq
        (some (.nat MsgType.clientJoin.code)) = true)
      (found : m.rooms.lookup (.value roomId) = some ref)
      (held : m.created[ref]? = some room)
      (expected : (Json.get "playerId" msg).strictEq
        (room.cfg.expectedPlayerId (Json.get "slot" msg)) = true)
      (attached : room.Attached (Json.get "slot" msg) ws
        (Json.get "playerId" msg) fighterId key room')
      (rooms : m'.rooms = m.rooms)
      (created : m'.created = m.created.set ref room')
      (db : m'.db = m.db)
      (message : (m'.sockets ws).firstMessage = some data)
      (link : (m'.sockets ws).attached = some (ref, key))
      (others : ∀ other, other ≠ ws → m'.sockets other = m.sockets other) :
      Moves m (.message ws data now) m'
  | relay {ws : SocketRef} {data : List UInt8} {now : Nat} {ref : RoomRef}
      {room room' : RelayRoom} {m' : RoomManager}
      (held : m.created[ref]? = some room) (same : room.SameSeats room')
      (rooms : m'.rooms = m.rooms)
      (created : m'.created = m.created.set ref room')
      (db : m'.db = m.db) (links : SameLinks m m') :
      Moves m (.message ws data now) m'
  | finish {event : ManagerEvent} {ref : RoomRef} {room : RelayRoom}
      {ending : Ending} {m' : RoomManager} (ends : m.Ends ref event)
      (held : m.created[ref]? = some room) (live : room.state ≠ .closed)
      (rooms : m'.rooms = m.rooms.erase (roomKey ref room.cfg.roomId))
      (created : m'.created = m.created.set ref
        { room with state := .closed, pingTimer := false })
      (db : m'.db = if config.skipDb then m.db else m.db.roomEnd ref ending)
      (links : SameLinks m m') : Moves m event m'
  /-- The room has an id without a text, and the process ends. -/
  | lose {ws : SocketRef} {now : Nat} {ref : RoomRef} {key : SlotKey}
      {room room' : RelayRoom} {m' : RoomManager}
      (attached : (m.sockets ws).attached = some (ref, key))
      (held : m.created[ref]? = some room)
      (throws : room.cfg.roomId.toStringThrows = true)
      (rooms : m'.rooms = m.rooms)
      (created : m'.created = m.created.set ref room')
      (slots : room'.slots = room.slots) (cfg : room'.cfg = room.cfg)
      (db : m'.db = m.db) (links : SameLinks m m') :
      Moves m (.close ws now) m'
  | persist {event : DbEvent} {m' : RoomManager}
      (rooms : m'.rooms = m.rooms) (created : m'.created = m.created)
      (db : m'.db = m.db.dbStep expectedScore event)
      (links : SameLinks m m') : Moves m (.db event) m'

variable {runtime config expectedScore} {m : RoomManager}

theorem SameLinks.refl : SameLinks m m := ⟨fun _ => rfl, fun _ _ => id⟩

@[simp] theorem setSocket_self (ws : SocketRef) (socket : Socket) :
    (m.setSocket ws socket).sockets ws = socket :=
  Function.update_self ..

theorem setSocket_of_ne {ws other : SocketRef} (ne : other ≠ ws)
    (socket : Socket) :
    (m.setSocket ws socket).sockets other = m.sockets other :=
  Function.update_of_ne ne ..

theorem setSocket_sameRooms (ws : SocketRef) (socket : Socket) :
    SameRooms m (m.setSocket ws socket) :=
  ⟨rfl, rfl, rfl⟩

theorem SameRooms.trans {m' m'' : RoomManager} (left : SameRooms m m')
    (right : SameRooms m' m'') : SameRooms m m'' :=
  ⟨right.rooms.trans left.rooms, right.created.trans left.created,
    right.db.trans left.db⟩

theorem SameLinks.trans {m' m'' : RoomManager} (left : SameLinks m m')
    (right : SameLinks m' m'') : SameLinks m m'' :=
  ⟨fun ws => (right.attached ws).trans (left.attached ws),
    fun ws data first => right.first ws data (left.first ws data first)⟩

theorem SameLinks.of_sockets {m' : RoomManager}
    (same : m'.sockets = m.sockets) : SameLinks m m' := by
  refine ⟨fun ws => ?_, fun ws data first => ?_⟩
  · rw [same]
  · rw [same]
    exact first

theorem setSocket_sameLinks {ws : SocketRef} {socket : Socket}
    (attached : socket.attached = (m.sockets ws).attached)
    (first : ∀ data ∈ (m.sockets ws).firstMessage,
      socket.firstMessage = some data) :
    SameLinks m (m.setSocket ws socket) := by
  refine ⟨fun other => ?_, fun other data known => ?_⟩
  · by_cases same : other = ws
    · subst same
      rw [setSocket_self, attached]
    · rw [setSocket_of_ne same]
  · by_cases same : other = ws
    · subst same
      rw [setSocket_self]
      exact first data known
    · rw [setSocket_of_ne same]
      exact known

theorem closeSocket_idle (ws : SocketRef) :
    SameRooms m (m.closeSocket ws) ∧ SameLinks m (m.closeSocket ws) :=
  ⟨setSocket_sameRooms .., setSocket_sameLinks rfl fun _ => id⟩

theorem takeFirst_idle {ws : SocketRef} (data : List UInt8)
    (first : (m.sockets ws).firstMessage = none) :
    SameRooms m (m.takeFirst ws data) ∧
      SameLinks m (m.takeFirst ws data) := by
  refine ⟨setSocket_sameRooms .., setSocket_sameLinks rfl ?_⟩
  intro other known
  rw [first] at known
  cases known

theorem refused_idle {ws : SocketRef} (data : List UInt8)
    (first : (m.sockets ws).firstMessage = none) :
    SameRooms m ((m.takeFirst ws data).closeSocket ws) ∧
      SameLinks m ((m.takeFirst ws data).closeSocket ws) := by
  obtain ⟨rooms, links⟩ := takeFirst_idle data first
  obtain ⟨rooms', links'⟩ := @closeSocket_idle (m.takeFirst ws data) ws
  exact ⟨rooms.trans rooms', links.trans links'⟩

theorem listen_takeFirst (ws : SocketRef) (data : List UInt8)
    (ref : RoomRef) (key : SlotKey) :
    (((m.takeFirst ws data).listen ws ref key).sockets ws).firstMessage =
        some data ∧
      (((m.takeFirst ws data).listen ws ref key).sockets ws).attached =
        some (ref, key) ∧
      ∀ other, other ≠ ws →
        (((m.takeFirst ws data).listen ws ref key).sockets other) =
          m.sockets other := by
  refine ⟨?_, ?_, fun other ne => ?_⟩
  · rw [listen, setSocket_self, takeFirst, setSocket_self]
  · rw [listen, setSocket_self]
  · rw [listen, setSocket_of_ne ne, takeFirst, setSocket_of_ne ne]

/-- The ways through `handleNewConnection`. -/
theorem handleNewConnection_cases (runtime : JsRuntime) (m : RoomManager)
    (ws : SocketRef) (data : List UInt8) (now : Nat) :
    m.handleNewConnection runtime ws data now =
        (m.takeFirst ws data).crash ∨
      m.handleNewConnection runtime ws data now =
        (m.takeFirst ws data).closeSocket ws ∨
      ∃ msg roomId ref room key room' sends,
        decodeClientMsg runtime data = .ok (some msg) ∧
        (Json.get "type" msg).strictEq
          (some (.nat MsgType.clientJoin.code)) = true ∧
        primitive (Json.get "roomId" msg) = some roomId ∧
        m.rooms.lookup (.value roomId) = some ref ∧
        m.created[ref]? = some room ∧
        (Json.get "playerId" msg).strictEq
          (room.cfg.expectedPlayerId (Json.get "slot" msg)) = true ∧
        room.attach (Json.get "slot" msg) ws (Json.get "playerId" msg)
            (room.cfg.fighterId (Json.get "slot" msg)) now =
          .ok (some (key, room', sends)) ∧
        m.handleNewConnection runtime ws data now =
          { (m.takeFirst ws data).listen ws ref key with
            created := m.created.set ref room', sent := m.sent ++ sends } := by
  rw [handleNewConnection]
  dsimp only
  split
  next => exact .inl rfl
  next => exact .inr (.inl rfl)
  next msg decoded =>
    split
    next join =>
      split
      next => exact .inr (.inl rfl)
      next ref found =>
        obtain ⟨roomId, named, found⟩ := Option.bind_eq_some_iff.mp found
        split
        next => exact .inr (.inl rfl)
        next room held =>
          split
          next expected =>
            split
            next => exact .inl rfl
            next => exact .inr (.inl rfl)
            next key room' sends attached =>
              exact .inr (.inr ⟨msg, roomId, ref, room, key, room', sends,
                decoded, join, named, found, held, expected, attached, rfl⟩)
          next => exact .inr (.inl rfl)
    next => exact .inr (.inl rfl)

theorem handleNewConnection_moves {ws : SocketRef} (data : List UInt8)
    (now : Nat) (first : (m.sockets ws).firstMessage = none) :
    Moves runtime config expectedScore m (.message ws data now)
      (m.handleNewConnection runtime ws data now) := by
  obtain ⟨sameRooms, sameLinks⟩ := takeFirst_idle data first
  obtain ⟨refusedRooms, refusedLinks⟩ := refused_idle data first
  rcases m.handleNewConnection_cases runtime ws data now with
    crashed | refused | ⟨msg, roomId, ref, room, key, room', sends, decoded,
      join, _, found, held, expected, attached, seated⟩
  · rw [crashed]
    exact .idle ⟨sameRooms.rooms, sameRooms.created, sameRooms.db⟩
      ⟨sameLinks.attached, sameLinks.first⟩
  · rw [refused]
    exact .idle refusedRooms refusedLinks
  · obtain ⟨message, link, others⟩ := @listen_takeFirst m ws data ref key
    rw [seated]
    exact .seat first decoded join found held expected
      (RelayRoom.attach_spec attached) rfl rfl rfl message link others

theorem message_moves (ws : SocketRef) (data : List UInt8) (now : Nat) :
    Moves runtime config expectedScore m (.message ws data now)
      (m.message runtime ws data now) := by
  have idle : Moves runtime config expectedScore m (.message ws data now) m :=
    .idle ⟨rfl, rfl, rfl⟩ (.of_sockets rfl)
  rw [message]
  split
  next => exact idle
  next =>
    split
    next _ first => exact handleNewConnection_moves data now first
    next => exact idle
    next ref key _ attached =>
      rw [roomMessage]
      split
      next => exact idle
      next room held =>
        split
        next => exact .idle ⟨rfl, rfl, rfl⟩ (.of_sockets rfl)
        next room' sends handled =>
          exact .relay held (RelayRoom.handleMessage_sameSeats handled) rfl
            rfl rfl (.of_sockets rfl)

theorem endRoom_moves {event : ManagerEvent} {ref : RoomRef}
    {room : RelayRoom} {sends : Sends} {payload : MatchEndPayload} {now : Nat}
    {n : RoomManager} (same : SameRooms m n) (links : SameLinks m n)
    (ends : m.Ends ref event) (held : m.created[ref]? = some room)
    (live : room.state ≠ .closed)
    (text : room.cfg.roomId.toStringThrows = false) :
    Moves runtime config expectedScore m event
      (n.endRoom config ref
        (true, { room with state := .closed, pingTimer := false }, sends)
        payload now) := by
  obtain ⟨rooms, created, db⟩ := same
  have record (m' : RoomManager)
      (shape : m' = n.endRoom config ref
        (true, { room with state := .closed, pingTimer := false }, sends)
        payload now) :
      m'.rooms = n.rooms.erase (roomKey ref room.cfg.roomId) ∧
      m'.created = n.created.set ref
        { room with state := .closed, pingTimer := false } ∧
      m'.sockets = n.sockets ∧
      ∃ ending, m'.db =
        if config.skipDb then n.db else n.db.roomEnd ref ending := by
    subst shape
    rw [endRoom]
    simp only [if_true, handleRoomEnd, text, Bool.false_eq_true, if_false]
    split
    next => exact ⟨rfl, rfl, rfl, ⟨room.cfg, payload, 0, []⟩, rfl⟩
    next => exact ⟨rfl, rfl, rfl, _, rfl⟩
  obtain ⟨rooms', created', sockets', ending, db'⟩ := record _ rfl
  rw [rooms] at rooms'
  rw [created] at created'
  rw [db] at db'
  exact .finish ends held live rooms' created' db'
    (links.trans (.of_sockets sockets'))

theorem close_moves (ws : SocketRef) (now : Nat) :
    Moves runtime config expectedScore m (.close ws now)
      (m.close config ws now) := by
  rw [close]
  split
  next => exact .idle ⟨rfl, rfl, rfl⟩ (.of_sockets rfl)
  next alive =>
    have same : SameRooms m (m.setSocket ws
      { m.sockets ws with readyState := .closed }) := setSocket_sameRooms ..
    have links : SameLinks m (m.setSocket ws
      { m.sockets ws with readyState := .closed }) :=
        setSocket_sameLinks rfl fun _ => id
    split
    next => exact .idle same links
    next ref key attached =>
      dsimp only
      split
      next => exact .idle same links
      next room held =>
        have held : m.created[ref]? = some room := held
        rw [RelayRoom.handleClose]
        split
        next =>
          refine .idle ⟨rfl, ?_, rfl⟩ (links.trans (.of_sockets rfl))
          exact set_of_getElem? held
        next live =>
          rw [RelayRoom.finish, if_neg live]
          cases text : room.cfg.roomId.toStringThrows with
          | false =>
              exact endRoom_moves same links (.close attached alive) held live
                text
          | true =>
              rw [endRoom]
              simp only [if_true, handleRoomEnd, text]
              exact .lose attached held text rfl rfl rfl rfl rfl
                (links.trans (.of_sockets rfl))

theorem forfeit_moves (ref : RoomRef) (loserSlot : Slot) (now : Nat) :
    Moves runtime config expectedScore m (.forfeit ref loserSlot now)
      (m.forfeit config ref loserSlot now) := by
  rw [forfeit]
  split
  next => exact .idle ⟨rfl, rfl, rfl⟩ (.of_sockets rfl)
  next room held =>
    cases text : room.cfg.roomId.toStringThrows with
    | true => exact .idle ⟨rfl, rfl, rfl⟩ (.of_sockets rfl)
    | false =>
        rw [if_neg Bool.false_ne_true, RelayRoom.finish]
        split
        next =>
          refine .idle ⟨rfl, ?_, rfl⟩ (.of_sockets rfl)
          exact set_of_getElem? held
        next live =>
          exact endRoom_moves ⟨rfl, rfl, rfl⟩ .refl .forfeit held live text

theorem createRoom_moves (running : m.crashed = false) (cfg : Json) :
    Moves runtime config expectedScore m (.createRoom cfg)
      (m.createRoom config cfg) := by
  rw [createRoom]
  split
  next => exact .idle ⟨rfl, rfl, rfl⟩ (.of_sockets rfl)
  next space =>
    exact .create running (Nat.lt_of_not_le space) rfl rfl rfl (.of_sockets rfl)

theorem step_moves (m : RoomManager) (event : ManagerEvent) :
    Moves runtime config expectedScore m event
      (step runtime config expectedScore m event) := by
  rw [step]
  split
  next => exact .idle ⟨rfl, rfl, rfl⟩ (.of_sockets rfl)
  next running =>
    cases event with
    | createRoom cfg =>
        exact createRoom_moves (by simpa [ManagerEvent.ofWorker] using running)
          cfg
    | message ws data now => exact message_moves ws data now
    | closing ws =>
        rw [handle]
        split
        next => exact .idle (closeSocket_idle ws).1 (closeSocket_idle ws).2
        next => exact .idle ⟨rfl, rfl, rfl⟩ (.of_sockets rfl)
    | close ws now => exact close_moves ws now
    | pingTimer ref now =>
        rw [handle, pingTimer]
        split
        next => exact .idle ⟨rfl, rfl, rfl⟩ (.of_sockets rfl)
        next =>
          split
          next => exact .idle ⟨rfl, rfl, rfl⟩ (.of_sockets rfl)
          next => exact .idle ⟨rfl, rfl, rfl⟩ (.of_sockets rfl)
    | forfeit ref loserSlot now => exact forfeit_moves ref loserSlot now
    | db event => exact .persist rfl rfl rfl (.of_sockets rfl)

theorem Moves.first {event : ManagerEvent} {m' : RoomManager}
    (moves : Moves runtime config expectedScore m event m')
    {ws : SocketRef} {data : List UInt8}
    (known : (m.sockets ws).firstMessage = some data) :
    (m'.sockets ws).firstMessage = some data := by
  cases moves with
  | idle _ links => exact links.first ws data known
  | create _ _ _ _ _ links => exact links.first ws data known
  | @seat joined _ _ _ _ _ _ _ _ _ _ first _ _ _ _ _ _ _ _ _ _ _ others =>
      by_cases same : ws = joined
      · subst same
        rw [first] at known
        cases known
      · rw [others ws same]
        exact known
  | relay _ _ _ _ _ links => exact links.first ws data known
  | finish _ _ _ _ _ _ links => exact links.first ws data known
  | lose _ _ _ _ _ _ _ _ links => exact links.first ws data known
  | persist _ _ _ links => exact links.first ws data known

end RoomManager

end FuryClash.Server
