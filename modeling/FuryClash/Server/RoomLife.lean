import FuryClash.Server.RoomSends

namespace FuryClash.Server

open FuryClash.Data

inductive RoomState.Advances : RoomState → RoomState → Prop where
  | stay {state : RoomState} : Advances state state
  | start : Advances .waiting .active
  | abandon : Advances .waiting .closed
  | finish : Advances .active .closed

theorem RoomState.Advances.closed {state : RoomState}
    (advances : RoomState.Advances .closed state) : state = .closed := by
  cases advances
  rfl

def startsOf (sends : Sends) : Sends :=
  sends.filter fun send => send.2.isStart

namespace RelayRoom

/-- What holds of a room between two events. -/
structure Settled (room : RelayRoom) : Prop where
  timer : room.pingTimer = decide (room.state = .active)
  active : room.state = .active → room.full = true
  waiting : room.state = .waiting → room.full = false
  notEnding : room.state ≠ .ending

/-- What one step may do to a room, with what the room sends. -/
structure Advance (room room' : RelayRoom) (sends : Sends) : Prop where
  cfg : room'.cfg = room.cfg
  state : room.state.Advances room'.state
  seats : ∀ slot, ∀ info ∈ room.slots slot,
    ∃ info' ∈ room'.slots slot, info'.ws = info.ws
  starts : startsOf sends =
    if room'.full ∧ room.full = false then room'.startSends else []
  seated : ∀ send ∈ sends, room'.SitsIn send.1
  live : sends ≠ [] → room.state ≠ .closed

variable {room room' : RelayRoom} {sends : Sends} {runtime : JsRuntime}
  {isOpen : SocketRef → Bool}

theorem settled_new (cfg : RoomConfig) : (new cfg).Settled where
  timer := rfl
  active isActive := by cases isActive
  waiting _ := rfl
  notEnding isEnding := by cases isEnding

theorem startsOf_eq_nil (none : ∀ send ∈ sends, send.2.isStart = false) :
    startsOf sends = [] :=
  List.filter_eq_nil_iff.mpr fun send mem => by simp [none send mem]

theorem startsOf_startSends (room : RelayRoom) :
    startsOf room.startSends = room.startSends := by
  refine List.filter_eq_self.mpr fun send mem => ?_
  obtain ⟨slot, _, told⟩ := List.mem_filterMap.mp mem
  obtain ⟨info, _, rfl⟩ := Option.map_eq_some_iff.mp told
  rfl

theorem startSends_seated {send : SocketRef × ServerMsg}
    (mem : send ∈ room.startSends) : room.SitsIn send.1 := by
  obtain ⟨slot, _, told⟩ := List.mem_filterMap.mp mem
  obtain ⟨info, seated, rfl⟩ := Option.map_eq_some_iff.mp told
  exact ⟨slot, info, seated, rfl⟩

theorem startSends_of_full (full : room.full = true) :
    ∃ first ∈ room.slots .p1, ∃ second ∈ room.slots .p2,
      room.startSends = [(first.ws, .start .p1 room.cfg),
        (second.ws, .start .p2 room.cfg)] := by
  rw [RelayRoom.full, Bool.and_eq_true] at full
  obtain ⟨first, atFirst⟩ := Option.isSome_iff_exists.mp full.1
  obtain ⟨second, atSecond⟩ := Option.isSome_iff_exists.mp full.2
  refine ⟨first, atFirst, second, atSecond, ?_⟩
  simp [startSends, atFirst, atSecond]

theorem full_iff (slot : Slot) : room.full = true ↔
    (room.slots slot).isSome ∧ (room.slots slot.other).isSome := by
  rw [full, Bool.and_eq_true]
  cases slot with
  | p1 => rfl
  | p2 => exact and_comm

section

variable {slot playerId fighterId : JsVal} {ws : SocketRef} {now : Nat}
  {key : SlotKey}
  (attached : room.attach slot ws playerId fighterId now =
    .ok (some (key, room', sends)))

include attached

theorem attach_seated : room'.slots key.index =
    some ⟨ws, playerId, fighterId, 0, []⟩ := by
  rw [(attach_spec attached).slots, setSlot_self]

theorem attach_other : room'.slots key.index.other =
    room.slots key.index.other := by
  rw [(attach_spec attached).slots, setSlot_of_ne (Slot.other_ne _)]

theorem attach_notFull : room.full = false := by
  rw [Bool.eq_false_iff, ne_eq, full_iff key.index,
    (attach_spec attached).free]
  simp

theorem attach_full :
    room'.full = (room.slots key.index.other).isSome := by
  rw [Bool.eq_iff_iff, full_iff key.index, attach_seated attached,
    attach_other attached]
  simp

/-- A join finds the room waiting: one that is active has no free slot. -/
theorem attach_waiting (settled : room.Settled) (live : room.state ≠ .closed) :
    room.state = .waiting := by
  cases state : room.state with
  | waiting => rfl
  | active =>
      have isFull := settled.active state
      rw [attach_notFull attached] at isFull
      cases isFull
  | ending => exact absurd state settled.notEnding
  | closed => exact absurd state live

theorem attach_state (settled : room.Settled) (live : room.state ≠ .closed) :
    room'.state = if room'.full then .active else .waiting := by
  rw [(attach_spec attached).state, attach_full attached,
    attach_waiting attached settled live]

theorem attach_settled (settled : room.Settled)
    (live : room.state ≠ .closed) : room'.Settled := by
  have state := attach_state attached settled live
  have timer : room'.pingTimer = room'.full := by
    rw [(attach_sends attached).1, settled.timer,
      attach_waiting attached settled live]
    exact Bool.or_false _
  cases isFull : room'.full with
  | true =>
      rw [isFull, if_pos rfl] at state
      refine ⟨?_, fun _ => isFull, ?_, ?_⟩
      · rw [timer, isFull, state]
        rfl
      · simp [state]
      · simp [state]
  | false =>
      rw [isFull, if_neg Bool.false_ne_true] at state
      refine ⟨?_, ?_, fun _ => isFull, ?_⟩
      · rw [timer, isFull, state]
        rfl
      · simp [state]
      · simp [state]

theorem attach_advance (settled : room.Settled)
    (live : room.state ≠ .closed) : room.Advance room' sends where
  cfg := (attach_spec attached).cfg
  state := by
    rw [attach_waiting attached settled live,
      attach_state attached settled live]
    split
    next => exact .start
    next => exact .stay
  seats which info seated := by
    have ne : which ≠ key.index := by
      intro same
      rw [same, (attach_spec attached).free] at seated
      cases seated
    refine ⟨info, ?_, rfl⟩
    rw [(attach_spec attached).slots, setSlot_of_ne ne]
    exact seated
  starts := by
    rw [(attach_sends attached).2, attach_notFull attached]
    simp only [and_true]
    rw [startsOf, List.filter_cons_of_neg (by simp [ServerMsg.isStart])]
    split
    next => exact startsOf_startSends room'
    next => rfl
  seated send mem := by
    rw [(attach_sends attached).2] at mem
    rcases List.mem_cons.mp mem with rfl | told
    · exact ⟨key.index, _, attach_seated attached, rfl⟩
    · split at told
      next => exact startSends_seated told
      next => cases told
  live _ := live

end

theorem SameSeats.exists_info (same : SameSeats room room') {slot : Slot}
    {info : SlotInfo} (seated : room.slots slot = some info) :
    ∃ info' ∈ room'.slots slot, info'.ws = info.ws := by
  have sockets := same.sockets slot
  rw [seated, Option.map_some] at sockets
  exact Option.map_eq_some_iff.mp sockets

theorem relay_advance {key : SlotKey} {data : List UInt8}
    (handled : room.handleMessage runtime isOpen key data =
      .ok (room', sends)) : room.Advance room' sends := by
  obtain ⟨relays, silent⟩ := handleMessage_relays handled
  refine ⟨relays.seats.cfg, ?_, fun slot info seated => ?_, ?_,
    fun send mem => ?_, fun sent closed => ?_⟩
  · rw [relays.seats.state]
    exact .stay
  · exact relays.seats.exists_info seated
  · rw [relays.seats.full, if_neg (by simp), startsOf_eq_nil]
    intro send mem
    have isRelayed := relays.relayed send mem
    cases told : send.2 <;> simp_all [ServerMsg.isRelayed, ServerMsg.isStart]
  · exact (relays.seats.sitsIn _).mpr (relays.seated send mem)
  · exact sent (silent (by simp [closed]))

theorem relay_settled {key : SlotKey} {data : List UInt8}
    (settled : room.Settled)
    (handled : room.handleMessage runtime isOpen key data =
      .ok (room', sends)) : room'.Settled := by
  obtain ⟨relays, _⟩ := handleMessage_relays handled
  obtain ⟨timer, active, waiting, notEnding⟩ := settled
  constructor
  · rw [relays.pingTimer, relays.seats.state, timer]
  · rw [relays.seats.state, relays.seats.full]
    exact active
  · rw [relays.seats.state, relays.seats.full]
    exact waiting
  · rw [relays.seats.state]
    exact notEnding

theorem ping_advance {now : Nat} (settled : room.Settled)
    (timer : room.pingTimer = true) :
    room.Advance room (room.sendPing isOpen now) where
  cfg := rfl
  state := .stay
  seats _ info seated := ⟨info, seated, rfl⟩
  starts := by
    rw [if_neg (by simp), startsOf_eq_nil]
    intro send mem
    rw [(sendPing_sends mem).1]
    rfl
  seated send mem := (sendPing_sends mem).2
  live _ closed := by
    rw [settled.timer, closed] at timer
    cases timer

theorem finish_advance (settled : room.Settled)
    (live : room.state ≠ .closed) (finishes : room.Finishes sends) :
    room.Advance { room with state := .closed, pingTimer := false }
      sends where
  cfg := rfl
  state := by
    cases state : room.state with
    | waiting => exact .abandon
    | active => exact .finish
    | ending => exact absurd state settled.notEnding
    | closed => exact absurd state live
  seats _ info seated := ⟨info, seated, rfl⟩
  starts := by
    rw [if_neg, startsOf_eq_nil finishes.noStart]
    rintro ⟨isFull, notFull⟩
    exact absurd (notFull.symm.trans isFull) Bool.false_ne_true
  seated := finishes.seated
  live _ := live

theorem closed_settled (room : RelayRoom) :
    { room with state := .closed, pingTimer := false }.Settled where
  timer := rfl
  active isActive := by cases isActive
  waiting isWaiting := by cases isWaiting
  notEnding isEnding := by cases isEnding

end RelayRoom

end FuryClash.Server
