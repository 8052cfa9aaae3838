import FuryClash.Data.Http
import FuryClash.Data.JsonParser
import FuryClash.Server.Admission
import FuryClash.Server.Meeting

namespace FuryClash.Server

open FuryClash.Data

variable {R : Type} [Field R] [LinearOrder R] [FloorRing R]

/-! `index.ts` of the relay: the requests that come to the port of the sockets.
The body comes in the chunks of the `data` events, each of which is a text of
its own. -/

structure HttpRequest where
  method : List UInt8
  url : List UInt8
  chunks : List (List UInt8)

structure HttpAnswer where
  status : Nat
  json : Option (List (String × JsVal))

inductive RelayEvent where
  | request (req : HttpRequest)
  | manager (event : ManagerEvent)

/-- `body += c`. -/
def bodyText (chunks : List (List UInt8)) : List Char :=
  chunks.flatMap decodeUtf8

namespace RoomManager

section

variable (runtime : JsRuntime) (config : RelayConfig)
  (expectedScore : Int → Int → R)

/-- `complaint` is what `String(err)` makes of the `SyntaxError`. -/
def postRooms (complaint : List Char → String) (body : List Char)
    (m : RoomManager) : HttpAnswer × RoomManager :=
  match jsonParse body with
  | none => (⟨400, some [("error", some (.string (complaint body)))]⟩, m)
  | some cfg =>
      if config.maxRooms ≤ m.rooms.keys.length then
        (⟨400, some [("error", some (.string "Error: Relay at capacity"))]⟩, m)
      else
        (⟨201, some [("roomId", Json.get "roomId" cfg.spread)]⟩,
          m.createRoom config cfg)

def handleRequest (complaint : List Char → String) (req : HttpRequest)
    (m : RoomManager) : HttpAnswer × RoomManager :=
  if req.method = asciiBytes "GET" ∧ req.url = asciiBytes "/health" then
    (⟨200, some [("status", some (.string "ok")),
      ("rooms", some (.nat m.rooms.keys.length))]⟩, m)
  else if req.method = asciiBytes "POST" ∧ req.url = asciiBytes "/rooms" then
    m.postRooms config complaint (bodyText req.chunks)
  else (⟨404, none⟩, m)

/-- A process that has ended answers nothing. -/
def relay (complaint : List Char → String) : Machine RoomManager RelayEvent
  | m, .request req =>
      if m.crashed then m else (m.handleRequest config complaint req).2
  | m, .manager event => m.step runtime config expectedScore event

/-- Nobody joins a room of the table by the event, and none that lives is ended
by a timer; rooms are created by requests. -/
def Aloof (m : RoomManager) : RelayEvent → Prop
  | .request _ => True
  | .manager (.createRoom _) => False
  | .manager (.message ws data _) => (m.sockets ws).firstMessage = none →
      ∀ msg, decodeClientMsg runtime data = .ok (some msg) →
        ∀ id, primitive (Json.get "roomId" msg) = some id →
          m.rooms.lookup (.value id) = none
  | .manager (.forfeit ref _ _) => ∀ room ∈ m.created[ref]?,
      room.state = .closed
  | .manager _ => True

/-- Nobody sits in a room that lives, and the table is full of them. -/
structure Deserted (m : RoomManager) : Prop where
  full : config.maxRooms ≤ m.rooms.keys.length
  empty : ∀ (ref : RoomRef) (room : RelayRoom), m.created[ref]? = some room →
    room.state ≠ .closed → ∀ slot, room.slots slot = none

def Refuses (complaint : List Char → String) (m : RoomManager) : Prop :=
  ∀ req : HttpRequest, req.method = asciiBytes "POST" →
    req.url = asciiBytes "/rooms" →
      (m.handleRequest config complaint req).1.status = 400

end

variable {runtime : JsRuntime} {config : RelayConfig}
  {expectedScore : Int → Int → R} {complaint : List Char → String}
  {m : RoomManager}

/-- A body whose chunks cut no letter is the same in any chunks. -/
theorem bodyText_whole {chunks : List (List UInt8)}
    (whole : ∀ chunk ∈ chunks, ∃ text, chunk = utf8 text) :
    bodyText chunks = decodeUtf8 chunks.flatten := by
  have texts : ∃ text, utf8 text = chunks.flatten ∧
      bodyText chunks = text := by
    induction chunks with
    | nil => exact ⟨[], rfl, rfl⟩
    | cons chunk chunks ih =>
        obtain ⟨⟨first, isFirst⟩, others⟩ := List.forall_mem_cons.mp whole
        obtain ⟨behind, isBehind, text⟩ := ih others
        refine ⟨first ++ behind, ?_, ?_⟩
        · rw [utf8_append, isBehind, List.flatten_cons, isFirst]
        · rw [bodyText, List.flatMap_cons, isFirst, decodeUtf8_utf8]
          exact congrArg (first ++ ·) text
  obtain ⟨text, isText, same⟩ := texts
  rw [same, ← isText, decodeUtf8_utf8]

theorem exists_text_of_ascii {bytes : List UInt8}
    (ascii : ∀ byte ∈ bytes, byte.toNat < 128) : ∃ text, bytes = utf8 text := by
  have letter {byte : UInt8} (small : byte.toNat < 128) :
      (Char.ofNat byte.toNat).toNat = byte.toNat := by
    rw [Char.ofNat, dif_pos (.inl (by omega))]
    rfl
  refine ⟨bytes.map fun byte => Char.ofNat byte.toNat, ?_⟩
  rw [utf8_ascii, List.map_map]
  · refine ((List.map_congr_left fun byte within => ?_).trans
      (List.map_id bytes)).symm
    rw [Function.comp, letter (ascii byte within)]
    exact UInt8.ofNat_toNat
  · intro first within
    obtain ⟨byte, there, rfl⟩ := List.mem_map.mp within
    rw [letter (ascii byte there)]
    exact ascii byte there

/-- A request is a call of `createRoom`, or leaves everything as it is. -/
theorem relay_request (req : HttpRequest) :
    relay runtime config expectedScore complaint m (.request req) = m ∨
      ∃ cfg, jsonParse (bodyText req.chunks) = some cfg ∧
        relay runtime config expectedScore complaint m (.request req) =
          step runtime config expectedScore m (.createRoom cfg) := by
  rw [relay]
  split
  next => exact .inl rfl
  next running =>
    rw [handleRequest]
    split
    next => exact .inl rfl
    next =>
      split
      next =>
        rw [postRooms]
        split
        next => exact .inl rfl
        next cfg parsed =>
          split
          next => exact .inl rfl
          next =>
            refine .inr ⟨cfg, parsed, ?_⟩
            rw [step, if_neg fun both => running both.1]
            rfl
      next => exact .inl rfl

theorem rooms_le_of_moves {event : ManagerEvent} {m' : RoomManager}
    (moves : Moves runtime config expectedScore m event m')
    (bounded : m.rooms.keys.length ≤ config.maxRooms) :
    m'.rooms.keys.length ≤ config.maxRooms := by
  have erased (key : RoomKey) :
      (m.rooms.keys.erase key).length ≤ m.rooms.keys.length :=
    List.length_erase_le
  cases moves with
  | idle same => exact same.rooms ▸ bounded
  | create _ capacity rooms =>
      rw [rooms, AList.keys_insert, List.length_cons]
      exact (Nat.succ_le_succ (erased _)).trans capacity
  | seat _ _ _ _ _ _ _ rooms => exact rooms ▸ bounded
  | relay _ _ rooms => exact rooms ▸ bounded
  | finish _ _ _ rooms =>
      rw [rooms, AList.keys_erase]
      exact (erased _).trans bounded
  | lose _ _ _ rooms => exact rooms ▸ bounded
  | persist rooms => exact rooms ▸ bounded

theorem relay_keeps {Inv : RoomManager → Prop}
    (kept : ∀ m event, Inv m →
      Inv (step runtime config expectedScore m event))
    (event : RelayEvent) (inv : Inv m) :
    Inv (relay runtime config expectedScore complaint m event) := by
  cases event with
  | request req =>
      rcases @relay_request R _ _ _ runtime config expectedScore complaint m
        req with same | ⟨cfg, _, created⟩
      · exact same.symm ▸ inv
      · exact created ▸ kept m _ inv
  | manager event => exact kept m event inv

theorem relay_rooms_le (players : String → Option Player)
    (events : List RelayEvent) :
    (relay runtime config expectedScore complaint).Always
      (fun m => m.rooms.keys.length ≤ config.maxRooms) (initial players)
      events :=
  Machine.always_of_invariant
    (fun m : RoomManager => m.rooms.keys.length ≤ config.maxRooms)
    (fun _ event bounded => relay_keeps
      (fun m event => rooms_le_of_moves (step_moves m event)) event bounded)
    (fun _ bounded => bounded) (Nat.zero_le _) events

theorem settled_of_reached {players : String → Option Player}
    {past : List RelayEvent}
    (reached : m = (relay runtime config expectedScore complaint).run
      (initial players) past) : m.Joint ∧ m.Placed := by
  subst reached
  have kept (m : RoomManager) (event : ManagerEvent)
      (inv : m.Joint ∧ m.Placed) :
      (step runtime config expectedScore m event).Joint ∧
        (step runtime config expectedScore m event).Placed :=
    ⟨inv.1.step (step_acts m event), inv.2.step (step_acts m event)⟩
  exact Machine.run_invariant (fun m : RoomManager => m.Joint ∧ m.Placed)
    (fun m event inv => relay_keeps kept event inv)
    ⟨joint_initial players, placed_initial players⟩ past

structure Lonely (config : RelayConfig) (rooms : AList fun _ : RoomKey => RoomRef)
    (m : RoomManager) : Prop where
  joint : m.Joint
  placed : m.Placed
  deserted : m.Deserted config
  rooms : m.rooms = rooms

variable {rooms : AList fun _ : RoomKey => RoomRef}

theorem Lonely.refuses (lonely : m.Lonely config rooms) :
    m.Refuses config complaint := by
  intro req post url
  rw [handleRequest, if_neg, if_pos ⟨post, url⟩, postRooms]
  · split
    next => rfl
    next => rw [if_pos lonely.deserted.full]
  · rintro ⟨get, _⟩
    rw [post] at get
    exact absurd get (by decide)

theorem Lonely.step {event : RelayEvent} (lonely : m.Lonely config rooms)
    (aloof : m.Aloof runtime event) :
    (relay runtime config expectedScore complaint m event).Lonely config
      rooms := by
  obtain ⟨joint, placed, ⟨full, empty⟩, same⟩ := lonely
  -- A socket that is attached sits in a room that has ended.
  have ended {ws : SocketRef} {ref : RoomRef} {key : SlotKey}
      {room : RelayRoom} (link : (m.sockets ws).attached = some (ref, key))
      (held : m.created[ref]? = some room) : room.state = .closed := by
    by_contra live
    obtain ⟨room', at_ref, sits⟩ := placed ws ref key link
    cases held.symm.trans at_ref
    rw [empty ref room held live] at sits
    cases sits
  cases event with
  | request req =>
      have still : relay runtime config expectedScore complaint m
          (.request req) = m := by
        rw [relay]
        split
        next => rfl
        next =>
          rw [handleRequest]
          split
          next => rfl
          next =>
            split
            next =>
              rw [postRooms]
              split
              next => rfl
              next => rw [if_pos full]
            next => rfl
      rw [still]
      exact ⟨joint, placed, ⟨full, empty⟩, same⟩
  | manager event =>
      have acts := @step_acts R _ _ _ runtime config expectedScore m event
      have found := @found_of_attached R _ _ _ runtime config expectedScore m
        joint
      have joint' := joint.step acts
      have placed' := placed.step acts
      rw [relay]
      generalize isNext : RoomManager.step runtime config expectedScore m
        event = m' at *
      have unmoved (rooms' : m'.rooms = m.rooms)
          (created : m'.created = m.created) : m'.Lonely config rooms :=
        ⟨joint', placed', ⟨rooms' ▸ full, created ▸ empty⟩,
          rooms'.trans same⟩
      generalize m.onEndCalls event = calls at acts
      cases acts with
      | idle rooms' created => exact unmoved rooms' created
      | create => exact aloof.elim
      | attach running first _ _ _ _ _ _ _ link =>
          obtain ⟨msg, id, decoded, named, lookup⟩ :=
            found running first (isNext ▸ link)
          rw [aloof first msg decoded id named] at lookup
          cases lookup
      | relay running link held handled rooms' created =>
          have closed := ended link held
          rw [RelayRoom.handleMessage, if_pos (by rw [closed]; decide)]
            at handled
          cases handled
          rw [set_of_getElem? held] at created
          exact unmoved rooms' created
      | ping _ _ _ rooms' created => exact unmoved rooms' created
      | finish running ends held live =>
          cases ends with
          | close link _ => exact absurd (ended link held) live
          | forfeit => exact absurd (aloof _ held) live

/-- Once the table is full of rooms in which nobody sits, it stays so as long
as nobody joins one of them, and no room is created any more. -/
theorem refuses_of_deserted {players : String → Option Player}
    {past events : List RelayEvent}
    (reached : m = (relay runtime config expectedScore complaint).run
      (initial players) past)
    (deserted : m.Deserted config)
    (aloof : (relay runtime config expectedScore complaint).Along
      (Aloof runtime) m events) :
    (relay runtime config expectedScore complaint).Always
      (fun later => later.Refuses config complaint ∧ later.rooms = m.rooms) m
      events := by
  have settled := settled_of_reached reached
  exact aloof.always (Lonely config m.rooms)
    (fun later event lonely => lonely.step)
    (fun later lonely => ⟨lonely.refuses, lonely.rooms⟩)
    ⟨settled.1, settled.2, deserted, rfl⟩

def abandoned : RoomManager :=
  (relay joinRuntime ⟨1, 5000, false⟩ evenScore fun _ => "SyntaxError").run
    (initial noPlayers)
    [.manager (.createRoom (roomJson "room" "a" "b"))]

theorem refuses_of_deserted_abandoned :
    (relay joinRuntime ⟨1, 5000, false⟩ evenScore
      fun _ => "SyntaxError").Always
        (fun later => later.Refuses ⟨1, 5000, false⟩ (fun _ => "SyntaxError") ∧
          later.rooms = abandoned.rooms) abandoned
        [.manager (.close 7 0),
          .request ⟨asciiBytes "POST", asciiBytes "/rooms", []⟩] := by
  have one : abandoned.created = [.new (.ofJson (roomJson "room" "a" "b")
    5000)] := rfl
  refine refuses_of_deserted rfl ⟨Nat.le_refl 1, fun ref room held _ slot => ?_⟩
    ⟨trivial, trivial, trivial⟩
  rw [one] at held
  cases ref with
  | zero =>
      cases held
      rfl
  | succ ref => cases held

end RoomManager

end FuryClash.Server
