import FuryClash.Data.Run
import FuryClash.Server.RelayRoom
import Mathlib.Data.List.Induction

namespace FuryClash.Server

open FuryClash.Data

variable (runtime : JsRuntime)

/-! The relay of the inputs of an active room: `handleMessage` on the
`CLIENT_INPUT` messages of the two players, in any order. -/

structure InputBytes where
  data : List UInt8
  size : data.length = clientInputMsgSize
  opcode : data.head? = some 0x02

structure Relay where
  room : RelayRoom
  sent : Sends
  thrown : Bool

namespace InputBytes

def entry (msg : InputBytes) : Nat × Nat :=
  (leWindow msg.data 3 4, leWindow msg.data 7 2)

def valid (msg : InputBytes) : Bool :=
  invalidMasks.all fun mask => msg.entry.2 &&& mask != mask

end InputBytes

namespace Relay

def start (room : RelayRoom) : Relay := ⟨room, [], false⟩

def step : Machine Relay (SlotKey × InputBytes)
  | relay, (key, msg) =>
      if relay.thrown then relay
      -- both sockets stay `OPEN`
      else match relay.room.handleMessage runtime (fun _ => true) key
          msg.data with
        | .error _ => { relay with thrown := true }
        | .ok (room, sends) => ⟨room, relay.sent ++ sends, false⟩

end Relay

/-- A room as `startMatch` leaves it, with a socket of its own in each slot. -/
structure RelayRoom.Matched (room : RelayRoom) : Prop where
  active : room.state = .active
  seated : ∀ slot, ∃ info, room.slots slot = some info ∧ info.seq = 0 ∧
    info.pendingFrames = []
  apart : ∀ first ∈ room.slots .p1, ∀ second ∈ room.slots .p2,
    first.ws ≠ second.ws

/-- The inputs of `slot` that pass `isValidInput`, in the order of arrival. -/
def inputsOf (slot : Slot) (events : List (SlotKey × InputBytes)) :
    List (Nat × Nat) :=
  events.filterMap fun event =>
    if event.1.index = slot ∧ event.2.valid then some event.2.entry else none

def relaysTo (ws : SocketRef) (sends : Sends) : List (List UInt8) :=
  sends.filterMap fun
    | (target, .relay bytes) => if target = ws then some bytes else none
    | _ => none

def relaySeq (bytes : List UInt8) : Nat := leWindow bytes 1 2

def relayCount (bytes : List UInt8) : Nat := leWindow bytes 3 1

def relayEntries (bytes : List UInt8) : List (Nat × Nat) :=
  (List.range (relayCount bytes)).map fun i =>
    (leWindow bytes (4 + i * 6) 4, leWindow bytes (8 + i * 6) 2)

/-- Every input arrives once and in order, in numbered messages of the
declared size, and nothing throws. -/
structure Delivers (room : RelayRoom) (events : List (SlotKey × InputBytes))
    (relay : Relay) : Prop where
  total : relay.thrown = false
  entries : ∀ slot, ∀ info ∈ room.slots slot,
    (relaysTo info.ws relay.sent).flatMap relayEntries =
      inputsOf slot.other events
  numbered : ∀ slot, ∀ info ∈ room.slots slot,
    (relaysTo info.ws relay.sent).map relaySeq =
      (List.range (relaysTo info.ws relay.sent).length).map (· % 2 ^ 16)
  sized : ∀ slot, ∀ info ∈ room.slots slot,
    ∀ bytes ∈ relaysTo info.ws relay.sent,
      bytes.head? = some 0x12 ∧ 1 ≤ relayCount bytes ∧
        relayCount bytes ≤ maxRelayBatch ∧
        bytes.length = 4 + relayCount bytes * 6

def relayBytes (seq : Nat) (entry : Nat × Nat) : List UInt8 :=
  leBytes 1 MsgType.serverRelay.code ++ leBytes 2 seq ++ leBytes 1 1 ++
    (leBytes 4 entry.1 ++ leBytes 2 entry.2)

def Fits (entry : Nat × Nat) : Prop := entry.1 < 256 ^ 4 ∧ entry.2 < 256 ^ 2

theorem leWindow_middle {before field after : List UInt8}
    {offset width : Nat} (start : before.length = offset)
    (size : field.length = width) :
    leWindow (before ++ field ++ after) offset width = leNat field := by
  rw [leWindow, List.append_assoc, List.drop_left' start, List.take_left' size]

theorem relaySeq_relayBytes {seq : Nat} (small : seq < 2 ^ 16)
    (entry : Nat × Nat) : relaySeq (relayBytes seq entry) = seq := by
  rw [relaySeq, relayBytes, List.append_assoc _ (leBytes 1 1),
    leWindow_middle (leBytes_length ..) (leBytes_length ..)]
  exact leNat_leBytes small

theorem relayCount_relayBytes (seq : Nat) (entry : Nat × Nat) :
    relayCount (relayBytes seq entry) = 1 := by
  rw [relayCount, relayBytes,
    leWindow_middle (by simp) (leBytes_length ..)]
  rfl

theorem length_relayBytes (seq : Nat) (entry : Nat × Nat) :
    (relayBytes seq entry).length = 10 := by
  simp [relayBytes]

theorem relayEntries_relayBytes (seq : Nat) {entry : Nat × Nat}
    (fits : Fits entry) : relayEntries (relayBytes seq entry) = [entry] := by
  have frame : leWindow (relayBytes seq entry) 4 4 = entry.1 := by
    rw [relayBytes, ← List.append_assoc,
      leWindow_middle (by simp) (leBytes_length ..)]
    exact leNat_leBytes fits.1
  have input : leWindow (relayBytes seq entry) 8 2 = entry.2 := by
    rw [relayBytes, ← List.append_assoc, ← List.append_nil (_ ++ leBytes 2 _),
      leWindow_middle (by simp) (leBytes_length ..)]
    exact leNat_leBytes fits.2
  rw [relayEntries, relayCount_relayBytes]
  simp [frame, input]

theorem InputBytes.fits (msg : InputBytes) : Fits msg.entry :=
  ⟨leWindow_lt _ _ 4, leWindow_lt _ _ 2⟩

namespace RelayRoom

variable {runtime} {isOpen : SocketRef → Bool} {room : RelayRoom}
  {key : SlotKey} {msg : InputBytes}

theorem decodeClientMsg_inputBytes (msg : InputBytes) :
    decodeClientMsg runtime msg.data = .ok (some (inputMsg msg.data)) := by
  obtain ⟨data, size, opcode⟩ := msg
  cases data with
  | nil => cases opcode
  | cons first rest =>
      cases opcode
      have long : ¬ rest.length < 8 := by
        rw [List.length_cons, clientInputMsgSize] at size
        omega
      rw [decodeClientMsg_input, if_neg long]

theorem handleMessage_inputBytes (active : room.state = .active) :
    room.handleMessage runtime isOpen key msg.data =
      room.handleInput runtime isOpen key (inputMsg msg.data) := by
  have type : JsVal.strictEq (Json.get "type" (inputMsg msg.data))
      (some (.nat MsgType.clientInput.code)) = true :=
    (JsVal.strictEq_nat_iff ..).mpr rfl
  simp [handleMessage, active, decodeClientMsg_inputBytes, type, Bind.bind,
    Except.bind]

theorem isValidInput_inputBytes :
    isValidInput runtime (Json.get "input" (inputMsg msg.data)) =
      .ok msg.valid :=
  isValidInput_nat runtime (lt_trans msg.fits.2 (by decide))

theorem handleInput_invalid (invalid : msg.valid = false) :
    room.handleInput runtime isOpen key (inputMsg msg.data) =
      .ok (room, []) := by
  simp [handleInput, isValidInput_inputBytes, invalid, Bind.bind, Except.bind,
    Pure.pure, Except.pure]

theorem flush_entry {slot : Slot} {info : SlotInfo} {entry : Nat × Nat}
    (seated : room.slots slot = some info)
    (pending : info.pendingFrames =
      [⟨some (.nat entry.1), some (.nat entry.2)⟩])
    (fits : Fits entry) :
    room.flush runtime slot =
      if info.seq < 2 ^ 16 then
        .ok (room.setSlot slot
            { info with seq := info.seq + 1, pendingFrames := [] },
          [(info.ws, .relay (relayBytes info.seq entry))])
      else .error .rangeError := by
  by_cases small : info.seq < 2 ^ 16
  · have encoded := encodeRelayBatch_single runtime small fits.1 fits.2
    rw [if_pos small]
    simp [flush, seated, flushLoop, pending, maxRelayBatch, encoded,
      relayBytes, Bind.bind, Except.bind, Pure.pure, Except.pure]
  · have type := writeUIntLE_nat runtime
      (show MsgType.serverRelay.code < 256 ^ 1 by decide) (by decide)
    have large := @writeUIntLE_nat_of_ge runtime 2 info.seq
      (Nat.le_of_not_lt small)
    rw [if_neg small]
    simp [flush, seated, flushLoop, pending, encodeRelayBatch, type, large,
      Bind.bind, Except.bind]

theorem handleInput_valid {info : SlotInfo} (valid : msg.valid = true)
    (seated : room.slots key.index.other = some info)
    (pending : info.pendingFrames = []) :
    ∃ next : RelayRoom, next.state = room.state ∧
      next.slots = (room.setSlot key.index.other
        { info with seq := info.seq + 1, pendingFrames := [] }).slots ∧
      room.handleInput runtime (fun _ => true) key (inputMsg msg.data) =
        if info.seq < 2 ^ 16 then
          .ok (next, [(info.ws, .relay (relayBytes info.seq msg.entry))])
        else .error .rangeError := by
  obtain ⟨inputLog, recorded⟩ : ∃ inputLog, recordInput runtime key
      (some (.nat msg.entry.1)) (some (.nat msg.entry.2)) room.inputLog =
        .ok inputLog := by
    rw [recordInput]
    split
    next => exact InputLog.recordP1_nat ..
    next => exact InputLog.recordP2_nat ..
  refine ⟨{ room with
      inputLog := inputLog
      frameCount := room.frameCount + 1 }.setSlot key.index.other _,
    rfl, rfl, ?_⟩
  have frame : Json.get "frame" (inputMsg msg.data) =
      some (.nat msg.entry.1) := rfl
  have input : Json.get "input" (inputMsg msg.data) =
      some (.nat msg.entry.2) := rfl
  simp only [handleInput, isValidInput_inputBytes, valid, Bind.bind,
    Except.bind, if_true]
  rw [frame, input, recorded]
  simp only [relayInput, seated, pending, List.nil_append, if_true]
  rw [flush_entry (setSlot_self ..) rfl msg.fits]
  simp [setSlot]

end RelayRoom

/-! The invariant of a run: each of the inputs so far has been sent in a
message of its own, whose number is its place. -/

structure Relaying (room : RelayRoom) (history : List (SlotKey × InputBytes))
    (relay : Relay) : Prop where
  total : relay.thrown = false
  active : relay.room.state = .active
  seated : ∀ slot, ∀ info ∈ room.slots slot, ∃ seat,
    relay.room.slots slot = some seat ∧ seat.ws = info.ws ∧
      seat.seq = (inputsOf slot.other history).length ∧
      seat.pendingFrames = []
  relayed : ∀ slot, ∀ info ∈ room.slots slot,
    relaysTo info.ws relay.sent =
      (inputsOf slot.other history).mapIdx relayBytes

/-- No player has sent more inputs than the sequence number can count. -/
def WithinSeq (events : List (SlotKey × InputBytes)) : Prop :=
  ∀ slot, (inputsOf slot events).length ≤ 2 ^ 16

theorem inputsOf_append (slot : Slot)
    (first second : List (SlotKey × InputBytes)) :
    inputsOf slot (first ++ second) =
      inputsOf slot first ++ inputsOf slot second :=
  List.filterMap_append

theorem inputsOf_single (slot : Slot) (key : SlotKey) (msg : InputBytes) :
    inputsOf slot [(key, msg)] =
      if key.index = slot ∧ msg.valid then [msg.entry] else [] := by
  by_cases counts : key.index = slot ∧ msg.valid = true <;>
    simp [inputsOf, counts]

theorem relaysTo_append (ws : SocketRef) (first second : Sends) :
    relaysTo ws (first ++ second) = relaysTo ws first ++ relaysTo ws second :=
  List.filterMap_append

theorem relaysTo_relay (ws target : SocketRef) (bytes : List UInt8) :
    relaysTo ws [(target, .relay bytes)] =
      if target = ws then [bytes] else [] := by
  by_cases same : target = ws <;> simp [relaysTo, same]

theorem inputsOf_fits {slot : Slot} {events : List (SlotKey × InputBytes)}
    {entry : Nat × Nat} (mem : entry ∈ inputsOf slot events) : Fits entry := by
  obtain ⟨event, _, counted⟩ := List.mem_filterMap.mp mem
  split at counted
  next =>
    cases counted
    exact event.2.fits
  next => cases counted

theorem WithinSeq.of_append {first second : List (SlotKey × InputBytes)}
    (within : WithinSeq (first ++ second)) : WithinSeq first := by
  intro slot
  have bound := within slot
  rw [inputsOf_append, List.length_append] at bound
  omega

theorem RelayRoom.Matched.ws_ne_other {room : RelayRoom}
    (matched : room.Matched) {slot : Slot} {own other : SlotInfo}
    (at_slot : room.slots slot = some own)
    (at_other : room.slots slot.other = some other) : other.ws ≠ own.ws := by
  cases slot with
  | p1 => exact (matched.apart own at_slot other at_other).symm
  | p2 => exact matched.apart other at_other own at_slot

namespace Relaying

variable {runtime} {room : RelayRoom}
  {history : List (SlotKey × InputBytes)} {relay : Relay}
  {key : SlotKey} {msg : InputBytes}

theorem initial (matched : room.Matched) :
    Relaying room [] (.start room) where
  total := rfl
  active := matched.active
  seated slot info seat := by
    obtain ⟨found, at_slot, seq, pending⟩ := matched.seated slot
    have same := Option.some.inj (at_slot.symm.trans seat)
    exact ⟨found, at_slot, same ▸ rfl, seq, pending⟩
  relayed _ _ _ := rfl

theorem step_invalid (relaying : Relaying room history relay)
    (invalid : msg.valid = false) :
    Relaying room (history ++ [(key, msg)])
      (Relay.step runtime relay (key, msg)) := by
  have unchanged : Relay.step runtime relay (key, msg) = relay := by
    obtain ⟨current, sent, thrown⟩ := relay
    cases relaying.total
    simp [Relay.step, RelayRoom.handleMessage_inputBytes relaying.active,
      RelayRoom.handleInput_invalid invalid]
  have uncounted (slot : Slot) :
      inputsOf slot (history ++ [(key, msg)]) = inputsOf slot history := by
    simp [inputsOf_append, inputsOf_single, invalid]
  rw [unchanged]
  exact
    { total := relaying.total
      active := relaying.active
      seated := fun slot info seat => by
        rw [uncounted]
        exact relaying.seated slot info seat
      relayed := fun slot info seat => by
        rw [uncounted]
        exact relaying.relayed slot info seat }

theorem opponent (matched : room.Matched)
    (relaying : Relaying room history relay) (key : SlotKey) :
    ∃ info seat, room.slots key.index.other = some info ∧
      relay.room.slots key.index.other = some seat ∧ seat.ws = info.ws ∧
      seat.seq = (inputsOf key.index history).length ∧
      seat.pendingFrames = [] := by
  obtain ⟨info, at_slot, _⟩ := matched.seated key.index.other
  obtain ⟨seat, seated, ws, seq, pending⟩ :=
    relaying.seated _ info at_slot
  rw [Slot.other_other] at seq
  exact ⟨info, seat, at_slot, seated, ws, seq, pending⟩

theorem step_ok (relaying : Relaying room history relay) {next : RelayRoom}
    {sends : Sends}
    (handled : relay.room.handleInput runtime (fun _ => true) key
      (inputMsg msg.data) = .ok (next, sends)) :
    Relay.step runtime relay (key, msg) = ⟨next, relay.sent ++ sends, false⟩ := by
  simp [Relay.step, relaying.total,
    RelayRoom.handleMessage_inputBytes relaying.active, handled]

theorem step_overflow (matched : room.Matched)
    (relaying : Relaying room history relay) (valid : msg.valid = true)
    (full : 2 ^ 16 ≤ (inputsOf key.index history).length) :
    (Relay.step runtime relay (key, msg)).thrown = true := by
  obtain ⟨info, seat, _, seated, _, seq, pending⟩ :=
    relaying.opponent matched key
  obtain ⟨_, _, _, handled⟩ := @RelayRoom.handleInput_valid runtime
    relay.room key msg seat valid seated pending
  rw [if_neg (by omega)] at handled
  simp [Relay.step, relaying.total,
    RelayRoom.handleMessage_inputBytes relaying.active, handled]

theorem step_valid (matched : room.Matched)
    (relaying : Relaying room history relay) (valid : msg.valid = true)
    (room_left : (inputsOf key.index history).length < 2 ^ 16) :
    Relaying room (history ++ [(key, msg)])
      (Relay.step runtime relay (key, msg)) := by
  obtain ⟨info, seat, at_slot, seated, ws, seq, pending⟩ :=
    relaying.opponent matched key
  obtain ⟨next, state, slots, handled⟩ := @RelayRoom.handleInput_valid runtime
    relay.room key msg seat valid seated pending
  rw [if_pos (by omega)] at handled
  have counted : inputsOf key.index (history ++ [(key, msg)]) =
      inputsOf key.index history ++ [msg.entry] := by
    simp [inputsOf_append, inputsOf_single, valid]
  have uncounted : inputsOf key.index.other (history ++ [(key, msg)]) =
      inputsOf key.index.other history := by
    simp [inputsOf_append, inputsOf_single]
  rw [relaying.step_ok handled]
  refine ⟨rfl, state.trans relaying.active, fun slot other at_other => ?_,
    fun slot other at_other => ?_⟩
  · by_cases same : slot = key.index.other
    · subst same
      rw [at_slot] at at_other
      cases at_other
      refine ⟨{ seat with seq := seat.seq + 1, pendingFrames := [] }, ?_, ws,
        ?_, rfl⟩
      · rw [slots, RelayRoom.setSlot_self]
      · rw [Slot.other_other, counted, List.length_append, seq]
        rfl
    · have self : slot = key.index := by
        rw [Slot.eq_other_of_ne same, Slot.other_other]
      subst self
      obtain ⟨own, own_seated, own_ws, own_seq, own_pending⟩ :=
        relaying.seated _ other at_other
      refine ⟨own, ?_, own_ws, ?_, own_pending⟩
      · rw [slots, RelayRoom.setSlot_of_ne same]
        exact own_seated
      · rw [uncounted, own_seq]
  · rw [relaysTo_append, relaysTo_relay, relaying.relayed slot other at_other]
    by_cases same : slot = key.index.other
    · subst same
      rw [at_slot] at at_other
      cases at_other
      rw [if_pos ws, Slot.other_other, counted, List.mapIdx_concat, seq]
    · have self : slot = key.index := by
        rw [Slot.eq_other_of_ne same, Slot.other_other]
      subst self
      have distinct : seat.ws ≠ other.ws := by
        rw [ws]
        exact matched.ws_ne_other at_other at_slot
      rw [if_neg distinct, uncounted, List.append_nil]

end Relaying

theorem flatMap_relayEntries {entries : List (Nat × Nat)}
    (fits : ∀ entry ∈ entries, Fits entry) :
    (entries.mapIdx relayBytes).flatMap relayEntries = entries := by
  induction entries using List.reverseRecOn with
  | nil => rfl
  | append_singleton entries entry ih =>
      have last := relayEntries_relayBytes entries.length
        (fits entry (by simp))
      rw [List.mapIdx_concat, List.flatMap_append,
        ih fun other mem => fits other (by simp [mem])]
      simp [last]

theorem map_relaySeq {entries : List (Nat × Nat)}
    (within : entries.length ≤ 2 ^ 16) :
    (entries.mapIdx relayBytes).map relaySeq =
      (List.range entries.length).map (· % 2 ^ 16) := by
  induction entries using List.reverseRecOn with
  | nil => rfl
  | append_singleton entries entry ih =>
      rw [List.length_append, List.length_singleton] at within
      have last := @relaySeq_relayBytes entries.length (by omega) entry
      rw [List.mapIdx_concat, List.map_append, ih (by omega),
        List.length_append, List.length_singleton, List.range_succ,
        List.map_append, List.map_singleton, List.map_singleton, last,
        Nat.mod_eq_of_lt (by omega)]

theorem Relaying.delivers {room : RelayRoom}
    {history : List (SlotKey × InputBytes)} {relay : Relay}
    (relaying : Relaying room history relay) (within : WithinSeq history) :
    Delivers room history relay where
  total := relaying.total
  entries slot info seat := by
    rw [relaying.relayed slot info seat]
    exact flatMap_relayEntries fun _ mem => inputsOf_fits mem
  numbered slot info seat := by
    rw [relaying.relayed slot info seat, map_relaySeq (within slot.other),
      List.length_mapIdx]
  sized slot info seat bytes mem := by
    rw [relaying.relayed slot info seat] at mem
    obtain ⟨seq, bound, rfl⟩ := List.mem_mapIdx.mp mem
    rw [relayCount_relayBytes, length_relayBytes]
    exact ⟨rfl, by decide, by decide, rfl⟩

theorem Relay.run_thrown {relay : Relay} (thrown : relay.thrown = true)
    (events : List (SlotKey × InputBytes)) :
    ((Relay.step runtime).run relay events).thrown = true := by
  refine Machine.run_invariant
    (fun relay : Relay => relay.thrown = true) ?_ thrown events
  intro relay event thrown
  simp [Relay.step, thrown]

theorem withinSeq_append_valid {history : List (SlotKey × InputBytes)}
    {key : SlotKey} {msg : InputBytes} (valid : msg.valid = true)
    (before : WithinSeq history) :
    WithinSeq (history ++ [(key, msg)]) ↔
      (inputsOf key.index history).length < 2 ^ 16 := by
  have counted (slot : Slot) :
      (inputsOf slot (history ++ [(key, msg)])).length =
        (inputsOf slot history).length + if key.index = slot then 1 else 0 := by
    rw [inputsOf_append, inputsOf_single, List.length_append]
    by_cases own : key.index = slot <;> simp [own, valid]
  constructor
  · intro within
    have bound := within key.index
    rw [counted, if_pos rfl] at bound
    omega
  · intro room_left slot
    have bound := before slot
    rw [counted]
    split
    next own =>
      subst own
      omega
    next => omega

theorem withinSeq_append_invalid {history : List (SlotKey × InputBytes)}
    {key : SlotKey} {msg : InputBytes} (invalid : msg.valid = false)
    (before : WithinSeq history) : WithinSeq (history ++ [(key, msg)]) := by
  intro slot
  rw [inputsOf_append, inputsOf_single, invalid]
  simpa using before slot

theorem Relay.run_relaying {room : RelayRoom} (matched : room.Matched)
    (events : List (SlotKey × InputBytes)) :
    (WithinSeq events → Relaying room events
      ((Relay.step runtime).run (.start room) events)) ∧
    (¬ WithinSeq events →
      ((Relay.step runtime).run (.start room) events).thrown = true) := by
  induction events using List.reverseRecOn with
  | nil =>
      have within : WithinSeq [] := fun _ => Nat.zero_le _
      exact ⟨fun _ => .initial matched, fun beyond => (beyond within).elim⟩
  | append_singleton history event ih =>
      obtain ⟨key, msg⟩ := event
      rw [Machine.run_append]
      by_cases before : WithinSeq history
      · have relaying := ih.1 before
        cases valid : msg.valid with
        | false =>
            have within := @withinSeq_append_invalid _ key _ valid before
            exact ⟨fun _ => relaying.step_invalid valid,
              fun beyond => (beyond within).elim⟩
        | true =>
            rw [withinSeq_append_valid valid before]
            exact ⟨relaying.step_valid matched valid, fun full =>
              relaying.step_overflow matched valid (Nat.le_of_not_lt full)⟩
      · have thrown := ih.2 before
        exact ⟨fun within => (before within.of_append).elim,
          fun _ => Relay.run_thrown runtime thrown [(key, msg)]⟩

/-- The relay delivers as long as no player sends more than 65536 valid
inputs: the number of the next message does not fit its two bytes. -/
theorem delivers_iff_withinSeq {room : RelayRoom} (matched : room.Matched)
    (events : List (SlotKey × InputBytes)) :
    Delivers room events ((Relay.step runtime).run (.start room) events) ↔
      WithinSeq events := by
  have ⟨inside, beyond⟩ := Relay.run_relaying runtime matched events
  constructor
  · intro delivers
    by_contra overflow
    have thrown := beyond overflow
    rw [delivers.total] at thrown
    cases thrown
  · exact fun within => (inside within).delivers within

def emptyRuntime : JsRuntime := .ofTexts []

def pairSeat (ws : SocketRef) (playerId : String) (fighterId : Nat) :
    SlotInfo :=
  ⟨ws, some (.string playerId), some (.nat fighterId), 0, []⟩

def pairRoom : RelayRoom :=
  (((RelayRoom.new pairConfig).setSlot .p1 (pairSeat 0 "a" 0)).setSlot .p2
    (pairSeat 1 "b" 1)).startMatch 1 |>.1

theorem pairRoom_matched : pairRoom.Matched where
  active := rfl
  seated slot := by
    cases slot with
    | p1 => exact ⟨_, rfl, rfl, rfl⟩
    | p2 => exact ⟨_, rfl, rfl, rfl⟩
  apart first at_p1 second at_p2 := by
    cases at_p1
    cases at_p2
    decide

def neutralInput : InputBytes where
  data := [0x02, 0, 0, 0, 0, 0, 0, 0, 0]
  size := rfl
  opcode := rfl

def buttonInput (frame buttons : UInt8) : InputBytes where
  data := [0x02, frame, 0, frame, 0, 0, 0, buttons, 0]
  size := rfl
  opcode := rfl

def bothPlay : List (SlotKey × InputBytes) :=
  [(⟨.p1, true⟩, buttonInput 1 1), (⟨.p2, true⟩, buttonInput 1 2),
    (⟨.p2, true⟩, buttonInput 2 3), (⟨.p1, true⟩, buttonInput 2 4),
    (⟨.p2, true⟩, buttonInput 3 2)]

theorem delivers_iff_withinSeq_bothPlay :
    (Delivers pairRoom bothPlay
        ((Relay.step emptyRuntime).run (.start pairRoom) bothPlay) ↔
      WithinSeq bothPlay) ∧
    ((Relay.step emptyRuntime).run (.start pairRoom) bothPlay).sent.map (·.1) =
      [1, 0, 1, 0] :=
  ⟨delivers_iff_withinSeq emptyRuntime pairRoom_matched _, by decide +kernel⟩

theorem inputsOf_replicate (count : Nat) :
    inputsOf .p1 (List.replicate count (⟨.p1, true⟩, neutralInput)) =
      List.replicate count neutralInput.entry := by
  induction count with
  | zero => rfl
  | succ count ih =>
      rw [List.replicate_succ, List.replicate_succ, ← ih]
      rfl

/-- After eighteen minutes of play, at 60 frames a second, the next frame of a
player throws. -/
theorem not_delivers_long_match :
    ¬ Delivers pairRoom
      (List.replicate (2 ^ 16 + 1) (⟨.p1, true⟩, neutralInput))
      ((Relay.step emptyRuntime).run (.start pairRoom)
        (List.replicate (2 ^ 16 + 1) (⟨.p1, true⟩, neutralInput))) := by
  intro delivers
  have overflow : ¬ WithinSeq
      (List.replicate (2 ^ 16 + 1) (⟨.p1, true⟩, neutralInput)) := by
    intro within
    have bound := within .p1
    rw [inputsOf_replicate, List.length_replicate] at bound
    omega
  have thrown := (Relay.run_relaying emptyRuntime pairRoom_matched _).2 overflow
  rw [delivers.total] at thrown
  cases thrown

end FuryClash.Server
