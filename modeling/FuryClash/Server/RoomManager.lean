import FuryClash.Server.Persistence
import Mathlib.Data.List.AList

namespace FuryClash.Server

open FuryClash.Data

/-! `room-manager.ts`: the connections, the table of rooms and the calls that
end a room. Rooms and sockets are objects; a reference is the order of their
creation. -/

inductive ReadyState where
  | opened
  | closing
  | closed
  deriving DecidableEq

/-- The first message is the one that the `once` listener takes; `attached` is
the room and the slot of the listeners that `attach` adds. -/
structure Socket where
  readyState : ReadyState
  firstMessage : Option (List UInt8)
  attached : Option (RoomRef × SlotKey)

/-- A value that is the same key of a `Map` whenever it is equal. -/
inductive JsPrimitive where
  | undefined
  | null
  | bool (value : Bool)
  | number (value : JsNumber)
  | string (text : String)
  deriving DecidableEq

inductive RoomKey where
  | value (id : JsPrimitive)
  | object (room : RoomRef)
  deriving DecidableEq

structure RelayConfig where
  maxRooms : Nat
  pingIntervalMs : Nat
  skipDb : Bool

structure RoomManager where
  rooms : AList fun _ : RoomKey => RoomRef
  created : List RelayRoom
  sockets : SocketRef → Socket
  db : Persistence
  sent : Sends
  crashed : Bool

inductive ManagerEvent where
  /-- `POST /rooms`, after `JSON.parse`. -/
  | createRoom (cfg : Json)
  | message (ws : SocketRef) (data : List UInt8) (now : Nat)
  /-- The closing handshake has begun, from either side. -/
  | closing (ws : SocketRef)
  | close (ws : SocketRef) (now : Nat)
  | pingTimer (room : RoomRef) (now : Nat)
  /-- The timer of `DisconnectHandler.start` for the room and the slot. -/
  | forfeit (room : RoomRef) (loserSlot : Slot) (now : Nat)
  | db (event : DbEvent)

def ManagerEvent.ofWorker : ManagerEvent → Bool
  | .db (.processEloJob _) => true
  | _ => false

def primitive : JsVal → Option JsPrimitive
  | none => some .undefined
  | some .null => some .null
  | some (.bool value) => some (.bool value)
  | some (.number value) => some (.number value)
  | some (.string text) => some (.string text)
  | some (.array _) => none
  | some (.object _) => none

def roomKey (ref : RoomRef) (roomId : JsVal) : RoomKey :=
  match primitive roomId with
  | some key => .value key
  | none => .object ref

def RoomConfig.ofJson (cfg : Json) (pingIntervalMs : Nat) : RoomConfig where
  roomId := Json.get "roomId" cfg.spread
  p1Id := Json.get "p1Id" cfg.spread
  p2Id := Json.get "p2Id" cfg.spread
  p1Fighter := Json.get "p1Fighter" cfg.spread
  p2Fighter := Json.get "p2Fighter" cfg.spread
  pingIntervalMs := pingIntervalMs

def RoomConfig.expectedPlayerId (cfg : RoomConfig) (slot : JsVal) : JsVal :=
  if slot.strictEq (some (.nat 0)) then cfg.p1Id else cfg.p2Id

def RoomConfig.fighterId (cfg : RoomConfig) (slot : JsVal) : JsVal :=
  if slot.strictEq (some (.nat 0)) then cfg.p1Fighter else cfg.p2Fighter

def forfeitPayload (loserSlot : Slot) : MatchEndPayload where
  winnerSlot := some loserSlot.other
  reason := .forfeit
  p1RoundsWon := if loserSlot = .p1 then 0 else 2
  p2RoundsWon := if loserSlot = .p2 then 0 else 2
  durationFrames := 0

namespace Socket

def fresh : Socket := ⟨.opened, none, none⟩

end Socket

namespace RoomManager

def initial (players : String → Option Player) : RoomManager where
  rooms := ∅
  created := []
  sockets := fun _ => .fresh
  db := .initial players
  sent := []
  crashed := false

def setSocket (ws : SocketRef) (socket : Socket) (m : RoomManager) :
    RoomManager :=
  { m with sockets := Function.update m.sockets ws socket }

def isOpen (m : RoomManager) (ws : SocketRef) : Bool :=
  decide ((m.sockets ws).readyState = .opened)

def crash (m : RoomManager) : RoomManager := { m with crashed := true }

/-- The `once` listener is gone with its message. -/
def takeFirst (ws : SocketRef) (data : List UInt8) (m : RoomManager) :
    RoomManager :=
  m.setSocket ws { m.sockets ws with firstMessage := some data }

def listen (ws : SocketRef) (ref : RoomRef) (key : SlotKey)
    (m : RoomManager) : RoomManager :=
  m.setSocket ws { m.sockets ws with attached := some (ref, key) }

def closeSocket (ws : SocketRef) (m : RoomManager) : RoomManager :=
  m.setSocket ws { m.sockets ws with readyState := .closing }

def createRoom (config : RelayConfig) (cfg : Json) (m : RoomManager) :
    RoomManager :=
  if config.maxRooms ≤ m.rooms.keys.length then m
  else
    let ref := m.created.length
    let room := RelayRoom.new (.ofJson cfg config.pingIntervalMs)
    { m with
      rooms := m.rooms.insert (roomKey ref room.cfg.roomId) ref
      created := m.created ++ [room] }

/-- As far as the first `await`. `clear` turns the id into a text; where that
throws, the promise is rejected and the process ends. -/
def handleRoomEnd (config : RelayConfig) (ref : RoomRef) (room : RelayRoom)
    (payload : MatchEndPayload) (now : Nat) (m : RoomManager) : RoomManager :=
  if room.cfg.roomId.toStringThrows then m.crash
  else
    let m :=
      { m with rooms := m.rooms.erase (roomKey ref room.cfg.roomId) }
    if config.skipDb then m
    else
      { m with
        db := m.db.roomEnd ref
          ⟨room.cfg, payload, room.durationSec now, room.inputLog.entries⟩ }

/-- What `end` or `handleClose` has done to the room and sent. -/
def endRoom (config : RelayConfig) (ref : RoomRef)
    (outcome : Bool × RelayRoom × Sends) (payload : MatchEndPayload)
    (now : Nat) (m : RoomManager) : RoomManager :=
  let (ended, room, sends) := outcome
  let m :=
    { m with created := m.created.set ref room, sent := m.sent ++ sends }
  if ended then m.handleRoomEnd config ref room payload now else m

def handleNewConnection (runtime : JsRuntime) (ws : SocketRef)
    (data : List UInt8) (now : Nat) (m : RoomManager) : RoomManager :=
  let m := m.takeFirst ws data
  match decodeClientMsg runtime data with
  | .error _ => m.crash
  | .ok none => m.closeSocket ws
  | .ok (some msg) =>
      if (Json.get "type" msg).strictEq
          (some (.nat MsgType.clientJoin.code)) then
        match (primitive (Json.get "roomId" msg)).bind fun key =>
            m.rooms.lookup (.value key) with
        | none => m.closeSocket ws
        | some ref =>
            match m.created[ref]? with
            | none => m.closeSocket ws
            | some room =>
                let slot := Json.get "slot" msg
                let playerId := Json.get "playerId" msg
                if playerId.strictEq (room.cfg.expectedPlayerId slot) then
                  match room.attach slot ws playerId
                      (room.cfg.fighterId slot) now with
                  | .error _ => m.crash
                  | .ok none => m.closeSocket ws
                  | .ok (some (key, room, sends)) =>
                      { m.listen ws ref key with
                        created := m.created.set ref room
                        sent := m.sent ++ sends }
                else m.closeSocket ws
      else m.closeSocket ws

def roomMessage (runtime : JsRuntime) (ref : RoomRef) (key : SlotKey)
    (data : List UInt8) (m : RoomManager) : RoomManager :=
  match m.created[ref]? with
  | none => m
  | some room =>
      match room.handleMessage runtime m.isOpen key data with
      | .error _ => m.crash
      | .ok (room, sends) =>
          { m with
            created := m.created.set ref room
            sent := m.sent ++ sends }

def message (runtime : JsRuntime) (ws : SocketRef) (data : List UInt8)
    (now : Nat) (m : RoomManager) : RoomManager :=
  let socket := m.sockets ws
  if socket.readyState = .closed then m
  else match socket.firstMessage, socket.attached with
    | none, _ => m.handleNewConnection runtime ws data now
    | some _, none => m
    | some _, some (ref, key) => m.roomMessage runtime ref key data

def close (config : RelayConfig) (ws : SocketRef) (now : Nat)
    (m : RoomManager) : RoomManager :=
  let socket := m.sockets ws
  if socket.readyState = .closed then m
  else
    let m := m.setSocket ws { socket with readyState := .closed }
    match socket.attached with
    | none => m
    | some (ref, key) =>
        match m.created[ref]? with
        | none => m
        | some room =>
            m.endRoom config ref (room.handleClose m.isOpen key)
              (room.closePayload key) now

def pingTimer (ref : RoomRef) (now : Nat) (m : RoomManager) : RoomManager :=
  match m.created[ref]? with
  | none => m
  | some room =>
      if room.pingTimer then
        { m with sent := m.sent ++ room.sendPing m.isOpen now }
      else m

/-- `start` has turned the id into a text when the timer fires. -/
def forfeit (config : RelayConfig) (ref : RoomRef) (loserSlot : Slot)
    (now : Nat) (m : RoomManager) : RoomManager :=
  match m.created[ref]? with
  | none => m
  | some room =>
      if room.cfg.roomId.toStringThrows then m
      else
        m.endRoom config ref
          (room.finish m.isOpen (forfeitPayload loserSlot))
          (forfeitPayload loserSlot) now

section

variable {R : Type} [Field R] [LinearOrder R] [FloorRing R]
  (runtime : JsRuntime) (config : RelayConfig)
  (expectedScore : Int → Int → R)

def handle (m : RoomManager) : ManagerEvent → RoomManager
  | .createRoom cfg => m.createRoom config cfg
  | .message ws data now => m.message runtime ws data now
  | .closing ws =>
      if (m.sockets ws).readyState = .opened then m.closeSocket ws else m
  | .close ws now => m.close config ws now
  | .pingTimer ref now => m.pingTimer ref now
  | .forfeit ref loserSlot now => m.forfeit config ref loserSlot now
  | .db event => { m with db := m.db.dbStep expectedScore event }

/-- The worker is a process of its own; in the one that an exception has ended
nothing else happens. -/
def step : Machine RoomManager ManagerEvent
  | m, event =>
      if m.crashed ∧ ¬ event.ofWorker then m
      else m.handle runtime config expectedScore event

end

end RoomManager

end FuryClash.Server
