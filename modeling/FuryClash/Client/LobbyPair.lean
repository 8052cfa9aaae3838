import FuryClash.Client.Lobby
import FuryClash.Client.WsClient
import FuryClash.Server.Relay
import FuryClash.Server.RoomSends
import FuryClash.Server.WireFormat

namespace FuryClash.Client

open FuryClash.Data

variable {S : Type}

/-! Two clients and the relay room that the first has created and the second
has joined. What is under way arrives in order, or never. -/

inductive ClientMsg where
  | loadout (pick : Int)
  | input (frame : Int) (input : UInt16)
  deriving DecidableEq

def ClientMsg.bytes : ClientMsg → List UInt8
  | .loadout pick => [msgLoadout, .ofNat (pick % 256).toNat]
  | .input frame bits => Net.inputPayload frame bits

/-- What `dispatch_message` sees in a message of the room. `texts` is what
`json_int` reads in the text of a `SERVER_START`. -/
def received (texts : Slot → Server.RoomConfig → NetMatchInfo) :
    Server.ServerMsg → ServerMessage
  | .waiting => .waiting
  | .start slot cfg => .start (texts slot cfg)
  | .relay bytes =>
      .inputBatch ((Server.relayEntries bytes).map fun entry =>
        (entry.1, .ofNat entry.2))
  | .loadout (_ :: byte :: _) => .loadout byte
  | .loadout _ => .other
  | .opponentDisconnect _ => .other
  | .finish _ => .matchEnd
  | .ping _ => .other

namespace Session

def clientMsgs (s : Session S) (event : SessionEvent) : List ClientMsg :=
  match event with
  | .tick localInput =>
      if s.game.tick.current = .fight ∧
          (s.net.state = .fighting ∨ s.net.state = .ready) then
        [.input (s.currentFrame + 1) localInput]
      else []
  | _ => (s.lobbyCalls event).sendLoadout.toList.map .loadout

def entersRoom (s : Session S) : Slot → SessionEvent → Bool
  | .p1, .creating created _ =>
      created ∧ s.game.current = .lobby ∧ s.lobby.sub = .creating
  | .p2, .touch .join env =>
      env.filled ∧ s.game.current = .lobby ∧ s.lobby.sub = .enterCode
  | .p2, .key .enter env =>
      env.filled ∧ s.game.current = .lobby ∧ s.lobby.sub = .enterCode
  | _, _ => false

end Session

/-- The connection of a client is not yet, is, or is no more the one to the
room. -/
inductive Place where
  | away
  | joined
  | left
  deriving DecidableEq

/-- `up` and `down` are under way between the client and the room. `sent` and
`called` record the calls of `net_client_send_loadout`, and those of
`simulation_init` for a match of the lobby, on the connection to the room, and
`visit` counts the latter since the last `lobby_init`. -/
structure LobbySeat (S : Type) where
  session : Session S
  place : Place
  up : List ClientMsg
  down : List Server.ServerMsg
  sent : List Int
  called : List MatchLog
  visit : Nat

namespace LobbySeat

def start (simulation : Simulation S) (startUp : StartUp) : LobbySeat S where
  session := .start simulation startUp
  place := .away
  up := []
  down := []
  sent := []
  called := []
  visit := 0

def connection (session : Session S) : Place :=
  if session.net.connected then .joined else .left

def act (simulation : Simulation S) (taken : Bool) (event : SessionEvent)
    (seat : LobbySeat S) : LobbySeat S :=
  let session := Session.step simulation seat.session event
  let calls := seat.session.lobbyCalls event
  let visited :=
    { seat with session := session, visit := calls.count seat.visit }
  match seat.place with
  | .joined =>
      { visited with
        place := connection session
        up := if taken ∧ seat.session.net.upgraded then
            seat.up ++ seat.session.clientMsgs event
          else seat.up
        sent := seat.sent ++ calls.sendLoadout.toList
        called := seat.called ++ calls.simulationInit.toList }
  | _ => visited

def deliver (simulation : Simulation S)
    (texts : Slot → Server.RoomConfig → NetMatchInfo)
    (seat : LobbySeat S) : LobbySeat S :=
  match seat.place, seat.down with
  | .joined, msg :: rest =>
      if seat.session.net.upgraded then
        { seat with
          session := Session.step simulation seat.session
            (.receive (.message (received texts msg)))
          down := rest }
      else seat
  | _, _ => seat

end LobbySeat

structure LobbyPair (S : Type) where
  seat : Slot → LobbySeat S
  room : Server.RelayRoom
  thrown : Bool

/-- An event of a process, among them those that come before it joins and after
it has left; the message under way is delivered, or handled by the room. -/
inductive LobbyEvent where
  | client (slot : Slot) (event : SessionEvent) (taken : Bool)
  | join (slot : Slot) (event : SessionEvent)
  | deliver (slot : Slot)
  | attach (slot : Slot) (playerId fighterId : JsVal) (now : Nat)
  | relay (slot : Slot) (isOpen : Server.SocketRef → Bool)
  | close (slot : Slot) (isOpen : Server.SocketRef → Bool)
  | ping (isOpen : Server.SocketRef → Bool) (now : Nat)

def SessionEvent.isMessage : SessionEvent → Bool
  | .receive (.message _) => true
  | _ => false

namespace LobbyPair

def socket : Slot → Server.SocketRef
  | .p1 => 0
  | .p2 => 1

def slotVal : Slot → JsVal
  | .p1 => some (.nat 0)
  | .p2 => some (.nat 1)

def start (simulation : Simulation S) (cfg : Server.RoomConfig)
    (startUps : Slot → StartUp) : LobbyPair S where
  seat slot := .start simulation (startUps slot)
  room := .new cfg
  thrown := false

def setSeat (slot : Slot) (seat : LobbySeat S) (pair : LobbyPair S) :
    LobbyPair S :=
  { pair with seat := Function.update pair.seat slot seat }

def sendsTo (slot : Slot) (sends : Server.Sends) : List Server.ServerMsg :=
  sends.filterMap fun send =>
    if send.1 = socket slot then some send.2 else none

def push (room : Server.RelayRoom) (sends : Server.Sends)
    (pair : LobbyPair S) : LobbyPair S :=
  { pair with
    seat := fun slot =>
      { pair.seat slot with
        down := (pair.seat slot).down ++ sendsTo slot sends }
    room := room }

variable (simulation : Simulation S)
  (texts : Slot → Server.RoomConfig → NetMatchInfo) (runtime : JsRuntime)

def attach (slot : Slot) (playerId fighterId : JsVal) (now : Nat)
    (pair : LobbyPair S) : LobbyPair S :=
  if pair.thrown ∨ (pair.seat slot).place = .away then pair
  else
    match pair.room.attach (slotVal slot) (socket slot) playerId fighterId
      now with
    | .error _ => { pair with thrown := true }
    | .ok none => pair
    | .ok (some (_, room, sends)) => pair.push room sends

def relay (slot : Slot) (isOpen : Server.SocketRef → Bool)
    (pair : LobbyPair S) : LobbyPair S :=
  match (pair.seat slot).up with
  | [] => pair
  | msg :: rest =>
      if pair.thrown ∨ (pair.room.slots slot).isNone then pair
      else
        let taken := pair.setSeat slot { pair.seat slot with up := rest }
        match pair.room.handleMessage runtime isOpen ⟨slot, true⟩
          msg.bytes with
        | .error _ => { taken with thrown := true }
        | .ok (room, sends) => taken.push room sends

def close (slot : Slot) (isOpen : Server.SocketRef → Bool)
    (pair : LobbyPair S) : LobbyPair S :=
  if pair.thrown ∨ (pair.room.slots slot).isNone then pair
  else
    let closed := pair.room.handleClose isOpen ⟨slot, true⟩
    pair.push closed.2.1 closed.2.2

def ping (isOpen : Server.SocketRef → Bool) (now : Nat)
    (pair : LobbyPair S) : LobbyPair S :=
  if pair.thrown ∨ pair.room.pingTimer = false then pair
  else pair.push pair.room (pair.room.sendPing isOpen now)

def step : Machine (LobbyPair S) LobbyEvent
  | pair, .client slot event taken =>
      -- in the room its messages are those of `deliver`
      if (pair.seat slot).place = .joined ∧ event.isMessage then pair
      else pair.setSeat slot ((pair.seat slot).act simulation taken event)
  | pair, .join slot event =>
      if (pair.seat slot).place = .away ∧
          (pair.seat slot).session.entersRoom slot event then
        let acted := (pair.seat slot).act simulation true event
        pair.setSeat slot
          { acted with place := LobbySeat.connection acted.session }
      else pair
  | pair, .deliver slot =>
      pair.setSeat slot ((pair.seat slot).deliver simulation texts)
  | pair, .attach slot playerId fighterId now =>
      pair.attach slot playerId fighterId now
  | pair, .relay slot isOpen => pair.relay runtime slot isOpen
  | pair, .close slot isOpen => pair.close slot isOpen
  | pair, .ping isOpen now => pair.ping isOpen now

@[simp] theorem setSeat_self (slot : Slot) (seat : LobbySeat S)
    (pair : LobbyPair S) : (pair.setSeat slot seat).seat slot = seat :=
  Function.update_self ..

theorem setSeat_of_ne {slot which : Slot} (ne : which ≠ slot)
    (seat : LobbySeat S) (pair : LobbyPair S) :
    (pair.setSeat slot seat).seat which = pair.seat which :=
  Function.update_of_ne ne ..

end LobbyPair

end FuryClash.Client
