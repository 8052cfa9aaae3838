import FuryClash.Client.FrameLaws
import FuryClash.Client.HonestInput
import FuryClash.Client.Serving
import FuryClash.Client.Wire
import FuryClash.Server.Relay
import FuryClash.Server.RoomSends

namespace FuryClash.System

open FuryClash.Client
open FuryClash.Data
open FuryClash.Server (RelayRoom ServerMsg Sends)

/-! The two clients of a running match, their connections byte by byte, and the
room of the relay between them. -/

/-- What the `ws` package makes of a connection: `read` gives the message of
the frame that the bytes from the client begin with and the length of the
frame, and `frame` is what `send` writes. -/
structure Transport where
  read : List UInt8 → Option (List UInt8 × Nat)
  frame : List UInt8 → WireFrame

/-- RFC 6455, as far as the two programs need it. -/
structure Transport.Frames (transport : Transport) : Prop where
  empty : transport.read [] = none
  whole : ∀ ticks message rest, message.length ≤ wsSendBuf →
    transport.read (wsEncodeFrame ticks message ++ rest) =
      some (message, (wsEncodeFrame ticks message).length)
  payload : ∀ bytes, bytes.length < 2 ^ 16 →
    (transport.frame bytes).payload = bytes
  binary : ∀ bytes, (transport.frame bytes).opcode = 0x02

/-- What a running match sends. The other messages have a JSON text. -/
def runningBytes : ServerMsg → Option (List UInt8)
  | .relay bytes => some bytes
  | .loadout bytes => some bytes
  | .ping timestamp =>
      some (leBytes 1 Server.MsgType.serverPing.code ++ leBytes 8 timestamp)
  | _ => none

/-- `upstream` is what the sockets have taken from a client and the server has
not read; what a client has not received is its `incoming`. -/
structure Link where
  client : Slot → Net
  upstream : Slot → List UInt8
  room : RelayRoom
  thrown : Bool

inductive LinkEvent where
  | client (slot : Slot) (event : NetEvent)
  | message (slot : Slot)
  | pingTimer (now : Nat)

namespace Link

variable (runtime : JsRuntime) (transport : Transport) (os : Slot → Os)

def framesTo (ws : Server.SocketRef) (sends : Sends) : List WireFrame :=
  sends.filterMap fun sent =>
    if sent.1 = ws then (runningBytes sent.2).map transport.frame else none

def push (sends : Sends) (link : Link) : Link :=
  { link with
    client := fun slot =>
      let net := link.client slot
      match link.room.slots slot with
      | none => net
      | some info =>
          { net with
            incoming := net.incoming ++
              (framesTo transport info.ws sends).flatMap WireFrame.bytes } }

def clientStep (slot : Slot) (event : NetEvent) (link : Link) : Link :=
  let net := link.client slot
  let after := Net.step (os slot) net event
  { link with
    client := Function.update link.client slot after
    upstream := Function.update link.upstream slot
      (link.upstream slot ++ after.accepted.drop net.accepted.length) }

/-- The `message` event of the socket in the slot. -/
def message (slot : Slot) (link : Link) : Link :=
  match transport.read (link.upstream slot) with
  | none => link
  | some (data, length) =>
      let link := { link with
        upstream := Function.update link.upstream slot
          ((link.upstream slot).drop length) }
      match link.room.handleMessage runtime (fun _ => true) ⟨slot, true⟩
          data with
      | .error _ => { link with thrown := true }
      | .ok (room, sends) => push transport sends { link with room := room }

/-- An exception ends the process of the server. -/
def step : Machine Link LinkEvent
  | link, .client slot event => clientStep os slot event link
  | link, .message slot =>
      if link.thrown then link else message runtime transport slot link
  | link, .pingTimer now =>
      if link.thrown ∨ link.room.pingTimer = false then link
      else push transport (link.room.sendPing (fun _ => true) now) link

/-- The frames of the call. -/
def newFrames (slot : Slot) (event : NetEvent) (link : Link) :
    List SentFrame :=
  let net := link.client slot
  (Net.step (os slot) net event).sentFrames.drop net.sentFrames.length

/-- A client goes on playing, its frame number is none that has wrapped, and a
frame is sent as a whole or not at all. -/
def Clean (link : Link) : LinkEvent → Prop
  | .client slot event =>
      event.Plays ∧
        (∀ frame input, event = .sendInput frame input →
          0 ≤ frame ∧ frame < 2 ^ 31) ∧
        ∀ sent ∈ link.newFrames os slot event, sent.Whole
  | _ => True

def inputOf : NetEvent → Option (Int × UInt16)
  | .sendInput frame input => some (frame, input)
  | _ => none

theorem forall_inputOf {event : NetEvent} {p : Int → UInt16 → Prop} :
    (∀ pair ∈ inputOf event, p pair.1 pair.2) ↔
      ∀ frame input, event = .sendInput frame input → p frame input := by
  cases event <;> simp [inputOf]

instance (event : NetEvent) (p : Int → UInt16 → Prop)
    [∀ frame input, Decidable (p frame input)] :
    Decidable (∀ frame input, event = .sendInput frame input →
      p frame input) :=
  decidable_of_iff _ forall_inputOf

instance : (event : NetEvent) → Decidable event.Plays
  | .receive => isTrue trivial
  | .sendInput _ _ => isTrue trivial
  | .sendLoadout _ => isTrue trivial
  | .ackStart => isTrue trivial
  | .configure _ _ _ _ => isFalse id
  | .connect _ => isFalse id
  | .disconnect => isFalse id

instance (link : Link) : (event : LinkEvent) → Decidable (link.Clean os event)
  | .client _ event =>
      inferInstanceAs (Decidable (event.Plays ∧
        (∀ frame input, event = .sendInput frame input →
          0 ≤ frame ∧ frame < 2 ^ 31) ∧ _))
  | .message _ => isTrue trivial
  | .pingTimer _ => isTrue trivial

end Link

def legal (input : UInt16) : Bool :=
  Server.invalidMasks.all fun mask => input.toNat &&& mask != mask

namespace Link

variable (os : Slot → Os)

/-- The input that the client of the slot has put on the wire and that the
relay will let pass. -/
def posted (slot : Slot) (link : Link) : LinkEvent → Option (Int × UInt16)
  | .client which (.sendInput frame input) =>
      if which = slot ∧ legal input = true ∧
          ∃ sent ∈ link.newFrames os which (.sendInput frame input),
            sent.accepted ≠ 0 then
        some (frame, input)
      else none
  | _ => none

/-- All that the client of the slot has sent has been read, by the relay and
then by the other client. -/
structure Drained (link : Link) (slot : Slot) : Prop where
  upstream : link.upstream slot = []
  incoming : (link.client slot.other).incoming = []
  rbuf : (link.client slot.other).ws.rbuf.bytes = []

/-- The match has begun and no input is on its way. -/
structure Ready (link : Link) : Prop where
  thrown : link.thrown = false
  matched : link.room.Matched
  upstream : ∀ slot, link.upstream slot = []
  clients : ∀ slot, ∃ done todo, (link.client slot).Reading done todo ∧
    (done ++ todo).flatMap (fun frame => confirms frame.message) = []

end Link

inductive ClientMsg where
  | input (frame : Nat) (fits : frame < 2 ^ 31) (input : UInt16)
  | loadout (pick : UInt8)
  | pong (stamp : List UInt8) (size : stamp.length = 8)

namespace ClientMsg

def bytes : ClientMsg → List UInt8
  | .input frame _ value => Net.inputPayload frame value
  | .loadout pick => [msgLoadout, pick]
  | .pong stamp _ => msgPong :: stamp

theorem bytes_length (msg : ClientMsg) : msg.bytes.length ≤ wsSendBuf := by
  have short : msg.bytes.length ≤ 9 := by
    cases msg with
    | input frame fits input => exact Nat.le_refl 9
    | loadout pick => exact (by decide : 2 ≤ 9)
    | pong stamp size => exact Nat.le_of_eq (congrArg Nat.succ size)
  exact short.trans (by decide)

def passes : ClientMsg → Option (Int × UInt16)
  | .input frame _ value => if legal value then some (frame, value) else none
  | _ => none

end ClientMsg

abbrev Post := UInt32 × ClientMsg

def Post.bytes (post : Post) : List UInt8 :=
  wsEncodeFrame post.1 post.2.bytes

/-- The frames that a call has sent, as messages of a kind. -/
theorem exists_posts {new : List SentFrame} {kind : ClientMsg → Prop}
    (whole : ∀ sent ∈ new, sent.Whole)
    (encoded : ∀ sent ∈ new, ∃ ticks msg, kind msg ∧
      sent.bytes = wsEncodeFrame ticks (ClientMsg.bytes msg)) :
    ∃ posts : List Post,
      new.flatMap (fun sent => sent.bytes.take sent.accepted) =
        posts.flatMap Post.bytes ∧
      posts.length = (new.filter fun sent => sent.accepted ≠ 0).length ∧
      ∀ post ∈ posts, kind post.2 := by
  induction new with
  | nil => exact ⟨[], rfl, rfl, nofun⟩
  | cons sent rest ih =>
      obtain ⟨isWhole, others⟩ := List.forall_mem_cons.mp whole
      obtain ⟨⟨ticks, msg, isKind, frame⟩, later⟩ :=
        List.forall_mem_cons.mp encoded
      obtain ⟨posts, bytes, length, kinds⟩ := ih others later
      rw [List.flatMap_cons, bytes]
      by_cases nothing : sent.accepted = 0
      · refine ⟨posts, ?_, ?_, kinds⟩
        · rw [nothing, List.take_zero, List.nil_append]
        · rw [List.filter_cons_of_neg (by simp [nothing]), length]
      · refine ⟨(ticks, msg) :: posts, ?_, ?_, ?_⟩
        · have all := isWhole.resolve_left nothing
          rw [all, List.take_length, frame, List.flatMap_cons]
          rfl
        · rw [List.filter_cons_of_pos (by simp [nothing]), List.length_cons,
            List.length_cons, length]
        · exact List.forall_mem_cons.mpr ⟨isKind, kinds⟩

namespace Link

structure Plays (net net' : Net) (posts : List Post) : Prop where
  bytes : net'.accepted.drop net.accepted.length = posts.flatMap Post.bytes
  count : posts.length = ((net'.sentFrames.drop net.sentFrames.length).filter
    fun sent => sent.accepted ≠ 0).length

theorem plays_of_writes {net net' : Net} {new : List SentFrame}
    {kind : ClientMsg → Prop} (writes : Net.Writes new net net')
    (whole : ∀ sent ∈ net'.sentFrames.drop net.sentFrames.length, sent.Whole)
    (encoded : ∀ sent ∈ new, ∃ ticks msg, kind msg ∧
      sent.bytes = wsEncodeFrame ticks (ClientMsg.bytes msg)) :
    ∃ posts, Plays net net' posts ∧ ∀ post ∈ posts, kind post.2 := by
  have fresh : net'.sentFrames.drop net.sentFrames.length = new := by
    rw [writes.sentFrames, List.drop_left]
  rw [fresh] at whole
  obtain ⟨posts, bytes, count, kinds⟩ := exists_posts whole encoded
  refine ⟨posts, ⟨?_, ?_⟩, kinds⟩
  · rw [writes.accepted, List.drop_left, bytes]
  · rw [fresh, count]

/-- The messages that the call can send. -/
def Sendable : NetEvent → ClientMsg → Prop
  | .sendInput frame input, msg =>
      ∃ number fits, frame = (number : Nat) ∧ msg = .input number fits input
  | _, msg => msg.passes = none

variable {os : Os} {net after : Net} {done todo : List WireFrame}
  {event : NetEvent}

/-- What a step of a playing client does to the two sides of its connection. -/
structure Stepped (event : NetEvent) (done todo : List WireFrame)
    (net after : Net) : Prop where
  reads : ∃ done' todo', done' ++ todo' = done ++ todo ∧
    after.Reading done' todo'
  writes : ∃ new, Net.Writes new net after ∧
    (∀ sent ∈ new, ∃ ticks msg, Sendable event msg ∧
      sent.bytes = wsEncodeFrame ticks msg.bytes) ∧
    ∀ frame input, event = .sendInput frame input → new.length ≤ 1

theorem Stepped.silent (reading : after.Reading done todo)
    (trace : after.trace = net.trace) :
    Stepped event done todo net after where
  reads := ⟨done, todo, rfl, reading⟩
  writes := ⟨[], .of_trace trace, nofun, fun _ _ _ => Nat.zero_le 1⟩

theorem Stepped.wsSend (works : os.Works) (reading : net.Reading done todo)
    {msg : ClientMsg} (sendable : Sendable event msg) :
    Stepped event done todo net (net.wsSend os msg.bytes) := by
  obtain ⟨new, writes, few, encoded⟩ := Net.Writes.wsSend os net msg.bytes
  have alive : (net.wsSend os msg.bytes).ws.state ≠ .error := by
    rw [Net.wsSend_works works]
    exact reading.opened.alive
  constructor
  case reads =>
    exact ⟨done, todo, rfl, reading.within (.wsSend _) alive
      (Net.wsSend_keepsConfirmed os net _)⟩
  case writes =>
    refine ⟨new, writes, ?_, fun _ _ _ => few⟩
    intro sent isNew
    obtain ⟨ticks, frame⟩ := encoded sent isNew
    exact ⟨ticks, msg, sendable, frame⟩

theorem ackStart_stepped (reading : net.Reading done todo) :
    Stepped .ackStart done todo net net.ackStart := by
  rw [Net.ackStart]
  split
  next =>
    have kept : net.Reading done todo → (net.setState .fighting).Reading
        done todo := fun reading =>
      reading.within (.setState _) (fun same => NetState.noConfusion same)
        (Net.effect_confirmed _ _ |>.trans (List.append_nil _))
    constructor
    case reads => exact ⟨done, todo, rfl, kept reading⟩
    case writes =>
      have trace : (net.setState .fighting).trace =
          net.trace ++ [.state .fighting] := rfl
      exact ⟨[], .of_effects trace rfl, List.forall_mem_nil _,
        fun _ _ same => NetEvent.noConfusion same⟩
  next => exact .silent reading rfl

theorem step_stepped (works : os.Works) (reading : net.Reading done todo)
    (plays : event.Plays)
    (counted : ∀ frame input, event = .sendInput frame input →
      0 ≤ frame ∧ frame < 2 ^ 31) :
    Stepped event done todo net (Net.step os net event) := by
  cases event with
  | receive =>
      obtain ⟨done', todo', new, same, reads, writes, pongs⟩ :=
        reading.receive works
      refine ⟨⟨done', todo', same, reads⟩, new, writes, ?_, nofun⟩
      intro sent isNew
      obtain ⟨stamp, size, ticks, frame⟩ := pongs sent isNew
      exact ⟨ticks, .pong stamp size, rfl, frame⟩
  | sendInput frame input =>
      obtain ⟨natural, small⟩ := counted frame input rfl
      obtain ⟨number, rfl⟩ := Int.eq_ofNat_of_zero_le natural
      have fits : number < 2 ^ 31 := by omega
      have sendable : Sendable (.sendInput number input)
          (.input number fits input) := ⟨number, fits, rfl, rfl⟩
      rw [Net.step, Net.sendInput]
      split
      next => exact .silent reading rfl
      split
      next => exact .silent reading rfl
      next => exact .wsSend works reading sendable
  | sendLoadout loadout =>
      have sendable : Sendable (.sendLoadout loadout)
          (.loadout (.ofNat (loadout % 256).toNat)) := rfl
      rw [Net.step, Net.sendLoadout]
      split
      next => exact .silent reading rfl
      next => exact .wsSend works reading sendable
  | ackStart => exact ackStart_stepped reading
  | _ => exact plays.elim

def passed (posts : List Post) : List (Int × UInt16) :=
  posts.filterMap fun post => post.2.passes

/-- The input of the call is among the posts exactly when its frame got onto
the wire and the relay will let it pass. -/
theorem Stepped.posts {link : Link} {slot : Slot} {os : Slot → Os}
    (stepped : Stepped event done todo (link.client slot)
      (Net.step (os slot) (link.client slot) event))
    (clean : link.Clean os (.client slot event)) :
    ∃ posts, Plays (link.client slot)
        (Net.step (os slot) (link.client slot) event) posts ∧
      passed posts = (link.posted os slot (.client slot event)).toList := by
  obtain ⟨new, writes, encoded, few⟩ := stepped.writes
  obtain ⟨_, _, whole⟩ := clean
  have fresh : link.newFrames os slot event = new := by
    rw [newFrames, writes.sentFrames, List.drop_left]
  obtain ⟨posts, plays, kinds⟩ := plays_of_writes writes whole encoded
  refine ⟨posts, plays, ?_⟩
  have quiet (none_posted : link.posted os slot (.client slot event) = none)
      (none_passes : ∀ post ∈ posts, post.2.passes = none) :
      passed posts = (link.posted os slot (.client slot event)).toList := by
    rw [none_posted]
    exact List.filterMap_eq_nil_iff.mpr none_passes
  cases event with
  | sendInput frame input =>
      have count := plays.count
      rw [writes.sentFrames, List.drop_left] at count
      have single := (few frame input rfl).trans' (List.length_filter_le
        (fun sent => sent.accepted ≠ 0) new)
      rw [posted]
      cases posts with
      | nil =>
          have none_sent := List.eq_nil_of_length_eq_zero count.symm
          rw [if_neg]
          · rfl
          · rintro ⟨_, _, sent, isNew, some_accepted⟩
            rw [fresh] at isNew
            have held : sent ∈ new.filter fun sent => sent.accepted ≠ 0 :=
              List.mem_filter.mpr ⟨isNew, decide_eq_true some_accepted⟩
            rw [none_sent] at held
            cases held
      | cons post rest =>
          have alone : rest = [] := by
            rw [← count, List.length_cons] at single
            exact List.eq_nil_of_length_eq_zero (by omega)
          obtain ⟨number, fits, rfl, msg⟩ := kinds post List.mem_cons_self
          have some_sent : ∃ sent ∈ link.newFrames os slot
              (.sendInput number input), sent.accepted ≠ 0 := by
            have positive : 0 < (new.filter fun sent =>
                sent.accepted ≠ 0).length := by
              rw [← count]
              exact Nat.succ_pos _
            obtain ⟨sent, held⟩ := List.exists_mem_of_length_pos positive
            have both := List.mem_filter.mp held
            rw [fresh]
            exact ⟨sent, both.1, of_decide_eq_true both.2⟩
          subst alone
          rw [passed, List.filterMap_cons, msg, ClientMsg.passes]
          cases isLegal : legal input with
          | false => simp
          | true => simp [some_sent]
  | _ => exact quiet rfl kinds

inductive Handled (room : RelayRoom) (slot : Slot) (msg : ClientMsg) :
    Except JsError (RelayRoom × Sends) → Prop
  | ignored (blocked : msg.passes = none) :
      Handled room slot msg (.ok (room, []))
  | loadout (info : Server.SlotInfo) (pick : UInt8)
      (blocked : msg.passes = none)
      (seated : room.slots slot.other = some info) :
      Handled room slot msg
        (.ok (room, [(info.ws, .loadout [msgServerLoadout, pick])]))
  | relayed (info : Server.SlotInfo) (frame : Nat) (fits : frame < 2 ^ 31)
      (value : UInt16) (next : RelayRoom)
      (passes : msg.passes = some ((frame : Int), value))
      (seated : room.slots slot.other = some info) (small : info.seq < 2 ^ 16)
      (state : next.state = room.state)
      (slots : next.slots = (room.setSlot slot.other
        { info with seq := info.seq + 1, pendingFrames := [] }).slots) :
      Handled room slot msg (.ok (next, [(info.ws,
        .relay (Server.relayBytes info.seq (frame, value.toNat)))]))
  | overflow (info : Server.SlotInfo) (passes : msg.passes ≠ none)
      (seated : room.slots slot.other = some info)
      (full : 2 ^ 16 ≤ info.seq) :
      Handled room slot msg (.error .rangeError)

variable {runtime : JsRuntime} {room : RelayRoom} {slot : Slot}

theorem handleMessage_input {info : Server.SlotInfo} {frame : Nat}
    (fits : frame < 2 ^ 31) (value : UInt16) (active : room.state = .active)
    (seated : room.slots slot.other = some info)
    (pending : info.pendingFrames = []) :
    Handled room slot (.input frame fits value)
      (room.handleMessage runtime (fun _ => true) ⟨slot, true⟩
        (Net.inputPayload frame value)) := by
  have entry := inputBytes_entry (lt_trans fits (by decide)) value
  have valid : (inputBytes frame value).valid = legal value := by
    rw [Server.InputBytes.valid, entry]
    rfl
  have handled := @RelayRoom.handleMessage_inputBytes runtime
    (fun _ => true) room ⟨slot, true⟩ (inputBytes frame value) active
  rw [inputBytes] at handled
  dsimp only at handled
  rw [handled]
  cases isLegal : legal value with
  | false =>
      have blocked : (ClientMsg.input frame fits value).passes = none := by
        rw [ClientMsg.passes, isLegal]
        rfl
      have ignored := @RelayRoom.handleInput_invalid runtime (fun _ => true)
        room ⟨slot, true⟩ (inputBytes frame value) (valid.trans isLegal)
      rw [inputBytes] at ignored
      rw [ignored]
      exact .ignored blocked
  | true =>
      have passes : (ClientMsg.input frame fits value).passes =
          some ((frame : Int), value) := by
        rw [ClientMsg.passes, isLegal]
        rfl
      obtain ⟨next, state, slots, relayed⟩ := @RelayRoom.handleInput_valid
        runtime room ⟨slot, true⟩ (inputBytes frame value) info
        (valid.trans isLegal) seated pending
      rw [entry, inputBytes] at relayed
      rw [relayed]
      split
      next small =>
        exact .relayed info frame fits value next passes seated small state
          slots
      next full =>
        refine .overflow info ?_ seated (by omega)
        rw [passes]
        exact Option.some_ne_none _

theorem handleMessage_loadout {info : Server.SlotInfo} (pick : UInt8)
    (active : room.state = .active)
    (seated : room.slots slot.other = some info) :
    room.handleMessage runtime (fun _ => true) ⟨slot, true⟩
        [msgLoadout, pick] =
      .ok (room, [(info.ws, .loadout [msgServerLoadout, pick])]) := by
  have decoded := Server.decodeClientMsg_loadout runtime [pick]
  have encoded := RelayRoom.encodeLoadout_loadoutMsg runtime pick
  rw [RelayRoom.handleMessage, if_neg (not_not.mpr active), msgLoadout,
    decoded]
  change room.handleLoadout runtime (fun _ => true) ⟨slot, true⟩
    (Server.loadoutMsg [0x04, pick]) = _
  rw [RelayRoom.handleLoadout, seated, encoded]
  rfl

theorem handleMessage_pong (stamp : List UInt8)
    (active : room.state = .active) :
    room.handleMessage runtime (fun _ => true) ⟨slot, true⟩
      (msgPong :: stamp) = .ok (room, []) := by
  have decoded := Server.decodeClientMsg_pong runtime stamp
  rw [RelayRoom.handleMessage, if_neg (not_not.mpr active), msgPong, decoded]
  rfl

theorem handleMessage_handled {info : Server.SlotInfo} (msg : ClientMsg)
    (active : room.state = .active)
    (seated : room.slots slot.other = some info)
    (pending : info.pendingFrames = []) :
    Handled room slot msg (room.handleMessage runtime (fun _ => true)
      ⟨slot, true⟩ msg.bytes) := by
  cases msg with
  | input frame fits value =>
      exact handleMessage_input fits value active seated pending
  | loadout pick =>
      have handled := @handleMessage_loadout runtime room slot info pick active
        seated
      rw [ClientMsg.bytes, handled]
      exact .loadout info pick rfl seated
  | pong stamp size =>
      have handled := @handleMessage_pong runtime room slot stamp active
      rw [ClientMsg.bytes, handled]
      exact .ignored rfl

end Link

end FuryClash.System
