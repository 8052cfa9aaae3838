import FuryClash.Server.InputLog
import FuryClash.Server.WireFormat
import FuryClash.Slot

namespace FuryClash.Server

open FuryClash.Data

/-! `relay-room.ts`. A socket is named by the order of its connection. What a
method sends is returned with the new room, and an exception, which nobody
catches, ends the process. -/

abbrev SocketRef := Nat

def maxRelayBatch : Nat := 8

structure SlotInfo where
  ws : SocketRef
  playerId : JsVal
  fighterId : JsVal
  seq : Nat
  pendingFrames : List RelayEntry

structure RoomConfig where
  roomId : JsVal
  p1Id : JsVal
  p2Id : JsVal
  p1Fighter : JsVal
  p2Fighter : JsVal
  pingIntervalMs : Nat

def RoomConfig.playerId (cfg : RoomConfig) : Slot → JsVal
  | .p1 => cfg.p1Id
  | .p2 => cfg.p2Id

inductive RoomState where
  | waiting
  | active
  | ending
  | closed
  deriving DecidableEq

inductive EndReason where
  | ko
  | timeout
  | disconnect
  | forfeit
  deriving DecidableEq

structure MatchEndPayload where
  /-- `none` is -1. -/
  winnerSlot : Option Slot
  reason : EndReason
  p1RoundsWon : Nat
  p2RoundsWon : Nat
  durationFrames : Nat
  deriving DecidableEq

/-- What `ws.send` is given; the messages with a JSON text as their fields. -/
inductive ServerMsg where
  | waiting
  | start (yourSlot : Slot) (cfg : RoomConfig)
  | relay (bytes : List UInt8)
  | loadout (bytes : List UInt8)
  | opponentDisconnect (pingIntervalMs : Nat)
  | finish (payload : MatchEndPayload)
  | ping (timestamp : Nat)

abbrev Sends := List (SocketRef × ServerMsg)

/-- The slot that a socket is attached to, as the closures of `attach` hold it:
`exact` when it is the number itself and not only converts to it. -/
structure SlotKey where
  index : Slot
  exact : Bool
  deriving DecidableEq

structure RelayRoom where
  cfg : RoomConfig
  state : RoomState
  inputLog : InputLog
  slots : Slot → Option SlotInfo
  pingTimer : Bool
  frameCount : Nat
  startedAt : Nat

/-- The key of `this.slots[slot]`: `none` for one that is no index of the pair,
where the element is `undefined`. -/
def slotKey (slot : JsVal) : Except JsError (Option SlotKey) :=
  match slot with
  | none => .ok none
  | some value =>
      if value.toStringThrows then .error .typeError
      else if value.keyIs 0 then
        .ok (some ⟨.p1, JsVal.strictEq slot (some (.nat 0))⟩)
      else if value.keyIs 1 then
        .ok (some ⟨.p2, JsVal.strictEq slot (some (.nat 1))⟩)
      else .ok none

namespace RelayRoom

def new (cfg : RoomConfig) : RelayRoom :=
  ⟨cfg, .waiting, .empty, fun _ => none, false, 0, 0⟩

def setSlot (slot : Slot) (info : SlotInfo) (room : RelayRoom) : RelayRoom :=
  { room with slots := Function.update room.slots slot (some info) }

def openSockets (isOpen : SocketRef → Bool) (room : RelayRoom) :
    List SocketRef :=
  ([Slot.p1, .p2].filterMap room.slots).map (·.ws) |>.filter isOpen

def startMatch (now : Nat) (room : RelayRoom) : RelayRoom × Sends :=
  ({ room with state := .active, startedAt := now, pingTimer := true },
    [Slot.p1, .p2].filterMap fun slot =>
      (room.slots slot).map fun info => (info.ws, .start slot room.cfg))

/-- `none` when the slot is taken, or is none. -/
def attach (slot : JsVal) (ws : SocketRef) (playerId fighterId : JsVal)
    (now : Nat) (room : RelayRoom) :
    Except JsError (Option (SlotKey × RelayRoom × Sends)) := do
  match ← slotKey slot with
  | none => return none
  | some key =>
      if (room.slots key.index).isSome then return none
      else
        let attached := room.setSlot key.index ⟨ws, playerId, fighterId, 0, []⟩
        let sends : Sends := [(ws, .waiting)]
        if (attached.slots .p1).isSome ∧ (attached.slots .p2).isSome then
          let (started, starts) := attached.startMatch now
          return some (key, started, sends ++ starts)
        else return some (key, attached, sends)

def flushLoop (runtime : JsRuntime) :
    (turns : Nat) → SlotInfo → Except JsError (SlotInfo × Sends)
  | 0, s => .ok (s, [])
  | turns + 1, s =>
      if s.pendingFrames.length > 0 then do
        let batch := s.pendingFrames.take maxRelayBatch
        let bytes ← encodeRelayBatch runtime s.seq batch
        let (s', sends) ← flushLoop runtime turns
          { s with
            seq := s.seq + 1
            pendingFrames := s.pendingFrames.drop maxRelayBatch }
        return (s', (s.ws, .relay bytes) :: sends)
      else .ok (s, [])

def flush (runtime : JsRuntime) (slot : Slot) (room : RelayRoom) :
    Except JsError (RelayRoom × Sends) :=
  match room.slots slot with
  | none => .ok (room, [])
  | some s => do
      let (s', sends) ← flushLoop runtime s.pendingFrames.length s
      return (room.setSlot slot s', sends)

def recordInput (runtime : JsRuntime) (key : SlotKey) (frame input : JsVal)
    (log : InputLog) : Except JsError InputLog :=
  if key = ⟨.p1, true⟩ then log.recordP1 runtime frame input
  else log.recordP2 runtime frame input

/-- The last part of the branch for a `CLIENT_INPUT`. -/
def relayInput (runtime : JsRuntime) (isOpen : SocketRef → Bool)
    (opponentSlot : Slot) (entry : RelayEntry) (room : RelayRoom) :
    Except JsError (RelayRoom × Sends) :=
  match room.slots opponentSlot with
  | none => .ok (room, [])
  | some opponent =>
      if isOpen opponent.ws then
        (room.setSlot opponentSlot
          { opponent with
            pendingFrames := opponent.pendingFrames ++ [entry] }).flush
          runtime opponentSlot
      else .ok (room, [])

def handleInput (runtime : JsRuntime) (isOpen : SocketRef → Bool)
    (key : SlotKey) (msg : DecodedMsg) (room : RelayRoom) :
    Except JsError (RelayRoom × Sends) := do
  let frame := Json.get "frame" msg
  let input := Json.get "input" msg
  if ← isValidInput runtime input then
    let inputLog ← recordInput runtime key frame input room.inputLog
    { room with
      inputLog := inputLog
      frameCount := room.frameCount + 1 }.relayInput runtime isOpen
        key.index.other ⟨frame, input⟩
  else return (room, [])

def handleLoadout (runtime : JsRuntime) (isOpen : SocketRef → Bool)
    (key : SlotKey) (msg : DecodedMsg) (room : RelayRoom) :
    Except JsError (RelayRoom × Sends) := do
  match room.slots key.index.other with
  | none => return (room, [])
  | some opponent =>
      if isOpen opponent.ws then
        let bytes ← encodeLoadout runtime (Json.get "loadout" msg)
        return (room, [(opponent.ws, .loadout bytes)])
      else return (room, [])

def handleMessage (runtime : JsRuntime) (isOpen : SocketRef → Bool)
    (key : SlotKey) (data : List UInt8) (room : RelayRoom) :
    Except JsError (RelayRoom × Sends) :=
  if room.state ≠ .active then .ok (room, [])
  else do
    match ← decodeClientMsg runtime data with
    | none => return (room, [])
    | some msg =>
        let type := Json.get "type" msg
        if type.strictEq (some (.nat MsgType.clientInput.code)) then
          room.handleInput runtime isOpen key msg
        else if type.strictEq (some (.nat MsgType.clientLoadout.code)) then
          room.handleLoadout runtime isOpen key msg
        else return (room, [])

/-- `end`, as far as the call of `onEnd`, which is made when the first
component is true. -/
def finish (isOpen : SocketRef → Bool) (payload : MatchEndPayload)
    (room : RelayRoom) : Bool × RelayRoom × Sends :=
  if room.state = .closed then (false, room, [])
  else
    (true, { room with state := .closed, pingTimer := false },
      (room.openSockets isOpen).map fun ws => (ws, .finish payload))

def closePayload (key : SlotKey) (room : RelayRoom) : MatchEndPayload where
  winnerSlot := some key.index.other
  reason := .disconnect
  p1RoundsWon := if key = ⟨.p1, true⟩ then 0 else 2
  p2RoundsWon := if key = ⟨.p2, true⟩ then 0 else 2
  durationFrames := room.frameCount

def handleClose (isOpen : SocketRef → Bool) (key : SlotKey)
    (room : RelayRoom) : Bool × RelayRoom × Sends :=
  if room.state = .closed then (false, room, [])
  else
    let notice : Sends := match room.slots key.index.other with
      | none => []
      | some opponent =>
          if isOpen opponent.ws then
            [(opponent.ws, .opponentDisconnect room.cfg.pingIntervalMs)]
          else []
    let (ended, room', sends) :=
      room.finish isOpen (room.closePayload key)
    (ended, room', notice ++ sends)

def sendPing (isOpen : SocketRef → Bool) (now : Nat) (room : RelayRoom) :
    Sends :=
  (room.openSockets isOpen).map fun ws => (ws, .ping now)

def durationSec (now : Nat) (room : RelayRoom) : Nat :=
  if room.startedAt = 0 then 0 else (now - room.startedAt) / 1000

@[simp] theorem setSlot_self (slot : Slot) (info : SlotInfo)
    (room : RelayRoom) : (room.setSlot slot info).slots slot = some info :=
  Function.update_self ..

theorem setSlot_of_ne {slot which : Slot} (ne : which ≠ slot)
    (info : SlotInfo) (room : RelayRoom) :
    (room.setSlot slot info).slots which = room.slots which :=
  Function.update_of_ne ne ..

structure SameSeats (room room' : RelayRoom) : Prop where
  cfg : room'.cfg = room.cfg
  state : room'.state = room.state
  sockets : ∀ slot, (room'.slots slot).map (·.ws) =
    (room.slots slot).map (·.ws)

theorem SameSeats.rfl {room : RelayRoom} : SameSeats room room :=
  ⟨Eq.refl _, Eq.refl _, fun _ => Eq.refl _⟩

theorem SameSeats.trans {first second third : RelayRoom}
    (left : SameSeats first second) (right : SameSeats second third) :
    SameSeats first third :=
  ⟨right.cfg.trans left.cfg, right.state.trans left.state,
    fun slot => (right.sockets slot).trans (left.sockets slot)⟩

theorem SameSeats.isSome {room room' : RelayRoom}
    (same : SameSeats room room') (slot : Slot) :
    (room'.slots slot).isSome = (room.slots slot).isSome := by
  rw [← Option.isSome_map (f := fun info => info.ws), same.sockets,
    Option.isSome_map]

theorem setSlot_sameSeats {room : RelayRoom} {slot : Slot}
    {info info' : SlotInfo} (seated : room.slots slot = some info)
    (ws : info'.ws = info.ws) : SameSeats room (room.setSlot slot info') where
  cfg := Eq.refl _
  state := Eq.refl _
  sockets which := by
    by_cases same : which = slot
    · subst same
      rw [setSlot_self, seated, Option.map_some, Option.map_some, ws]
    · rw [setSlot_of_ne same]

theorem flushLoop_ws {runtime : JsRuntime} {turns : Nat}
    {s s' : SlotInfo} {sends : Sends}
    (flushed : flushLoop runtime turns s = .ok (s', sends)) :
    s'.ws = s.ws := by
  induction turns generalizing s s' sends with
  | zero =>
      cases flushed
      rfl
  | succ turns ih =>
      rw [flushLoop] at flushed
      split at flushed
      next =>
        obtain ⟨bytes, _, flushed⟩ := bind_eq_ok flushed
        obtain ⟨⟨rest, sent⟩, tail, flushed⟩ := bind_eq_ok flushed
        cases flushed
        have kept := ih tail
        exact kept
      next =>
        cases flushed
        rfl

theorem flush_sameSeats {runtime : JsRuntime} {slot : Slot}
    {room room' : RelayRoom} {sends : Sends}
    (flushed : room.flush runtime slot = .ok (room', sends)) :
    SameSeats room room' := by
  rw [flush] at flushed
  split at flushed
  next =>
    cases flushed
    exact .rfl
  next info seated =>
    obtain ⟨⟨rest, sent⟩, tail, flushed⟩ := bind_eq_ok flushed
    cases flushed
    exact setSlot_sameSeats seated (flushLoop_ws tail)

theorem relayInput_sameSeats {runtime : JsRuntime}
    {isOpen : SocketRef → Bool} {slot : Slot} {entry : RelayEntry}
    {room room' : RelayRoom} {sends : Sends}
    (relayed : room.relayInput runtime isOpen slot entry =
      .ok (room', sends)) : SameSeats room room' := by
  rw [relayInput] at relayed
  split at relayed
  next =>
    cases relayed
    exact .rfl
  next opponent seated =>
    split at relayed
    next =>
      refine SameSeats.trans ?_ (flush_sameSeats relayed)
      exact setSlot_sameSeats seated (Eq.refl _)
    next =>
      cases relayed
      exact .rfl

theorem handleInput_sameSeats {runtime : JsRuntime}
    {isOpen : SocketRef → Bool} {key : SlotKey} {msg : DecodedMsg}
    {room room' : RelayRoom} {sends : Sends}
    (handled : room.handleInput runtime isOpen key msg =
      .ok (room', sends)) : SameSeats room room' := by
  rw [handleInput] at handled
  obtain ⟨valid, _, handled⟩ := bind_eq_ok handled
  cases valid with
  | false =>
      cases handled
      exact .rfl
  | true =>
      obtain ⟨inputLog, _, handled⟩ := bind_eq_ok handled
      have logged : SameSeats room
          { room with
            inputLog := inputLog
            frameCount := room.frameCount + 1 } :=
        ⟨Eq.refl _, Eq.refl _, fun _ => Eq.refl _⟩
      exact logged.trans (relayInput_sameSeats handled)

theorem handleLoadout_same {runtime : JsRuntime} {isOpen : SocketRef → Bool}
    {key : SlotKey} {msg : DecodedMsg} {room room' : RelayRoom}
    {sends : Sends}
    (handled : room.handleLoadout runtime isOpen key msg =
      .ok (room', sends)) : room' = room := by
  rw [handleLoadout] at handled
  split at handled
  next =>
    cases handled
    rfl
  next =>
    split at handled
    next =>
      obtain ⟨bytes, _, handled⟩ := bind_eq_ok handled
      cases handled
      rfl
    next =>
      cases handled
      rfl

theorem handleMessage_sameSeats {runtime : JsRuntime}
    {isOpen : SocketRef → Bool} {key : SlotKey} {data : List UInt8}
    {room room' : RelayRoom} {sends : Sends}
    (handled : room.handleMessage runtime isOpen key data =
      .ok (room', sends)) : SameSeats room room' := by
  rw [handleMessage] at handled
  split at handled
  next =>
    cases handled
    exact .rfl
  next =>
    obtain ⟨decoded, _, handled⟩ := bind_eq_ok handled
    cases decoded with
    | none =>
        cases handled
        exact .rfl
    | some msg =>
        dsimp only at handled
        split at handled
        next => exact handleInput_sameSeats handled
        next =>
          split at handled
          next =>
            cases handleLoadout_same handled
            exact .rfl
          next =>
            cases handled
            exact .rfl

structure Attached (slot : JsVal) (ws : SocketRef)
    (playerId fighterId : JsVal) (key : SlotKey) (room room' : RelayRoom) :
    Prop where
  keyed : slotKey slot = .ok (some key)
  free : room.slots key.index = none
  cfg : room'.cfg = room.cfg
  slots : room'.slots =
    (room.setSlot key.index ⟨ws, playerId, fighterId, 0, []⟩).slots
  state : room'.state =
    if (room.slots key.index.other).isSome then .active else room.state

theorem setSlot_both_isSome (slot : Slot) (info : SlotInfo)
    (room : RelayRoom) :
    (((room.setSlot slot info).slots .p1).isSome ∧
        ((room.setSlot slot info).slots .p2).isSome) ↔
      (room.slots slot.other).isSome := by
  cases slot <;> simp [setSlot, Function.update, Slot.other]

theorem attach_spec {slot : JsVal} {ws : SocketRef}
    {playerId fighterId : JsVal} {now : Nat} {key : SlotKey}
    {room room' : RelayRoom} {sends : Sends}
    (attached : room.attach slot ws playerId fighterId now =
      .ok (some (key, room', sends))) :
    Attached slot ws playerId fighterId key room room' := by
  rw [attach] at attached
  obtain ⟨found, keyed, attached⟩ := bind_eq_ok attached
  cases found with
  | none => cases attached
  | some found =>
      simp only [setSlot_both_isSome] at attached
      split at attached
      next => cases attached
      next taken =>
        have free : room.slots found.index = none := by simpa using taken
        split at attached
        next both =>
          cases attached
          exact ⟨keyed, free, rfl, rfl, (if_pos both).symm⟩
        next alone =>
          cases attached
          exact ⟨keyed, free, rfl, rfl, (if_neg alone).symm⟩

end RelayRoom

def pairConfig : RoomConfig :=
  ⟨some (.string "room"), some (.string "a"), some (.string "b"),
    some (.nat 0), some (.nat 1), 5000⟩

end FuryClash.Server
