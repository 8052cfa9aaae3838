import FuryClash.Server.RelayRoom
import Mathlib.Data.List.Nodup

namespace FuryClash.Server

open FuryClash.Data

def ServerMsg.isStart : ServerMsg → Bool
  | .start _ _ => true
  | _ => false

def ServerMsg.isFinish : ServerMsg → Bool
  | .finish _ => true
  | _ => false

/-- The messages of a running match. -/
def ServerMsg.isRelayed : ServerMsg → Bool
  | .relay _ => true
  | .loadout _ => true
  | _ => false

namespace RelayRoom

def SitsIn (ws : SocketRef) (room : RelayRoom) : Prop :=
  ∃ slot, ∃ info ∈ room.slots slot, info.ws = ws

def full (room : RelayRoom) : Bool :=
  (room.slots .p1).isSome && (room.slots .p2).isSome

def startSends (room : RelayRoom) : Sends :=
  [Slot.p1, .p2].filterMap fun slot =>
    (room.slots slot).map fun info => (info.ws, .start slot room.cfg)

structure Relays (room room' : RelayRoom) (sends : Sends) : Prop where
  seats : SameSeats room room'
  pingTimer : room'.pingTimer = room.pingTimer
  relayed : ∀ send ∈ sends, send.2.isRelayed = true
  seated : ∀ send ∈ sends, room.SitsIn send.1

variable {room room' : RelayRoom} {sends : Sends} {runtime : JsRuntime}
  {isOpen : SocketRef → Bool}

theorem SameSeats.sitsIn (same : SameSeats room room') (ws : SocketRef) :
    room'.SitsIn ws ↔ room.SitsIn ws := by
  have seated (room : RelayRoom) (slot : Slot) :
      (∃ info ∈ room.slots slot, info.ws = ws) ↔
        (room.slots slot).map (·.ws) = some ws := by
    rw [Option.map_eq_some_iff]
    rfl
  simp only [SitsIn, seated, same.sockets]

theorem SameSeats.full (same : SameSeats room room') :
    room'.full = room.full := by
  rw [RelayRoom.full, RelayRoom.full, same.isSome, same.isSome]

theorem Relays.silent (seats : SameSeats room room')
    (pingTimer : room'.pingTimer = room.pingTimer) :
    Relays room room' [] where
  seats := seats
  pingTimer := pingTimer
  relayed _ mem := by cases mem
  seated _ mem := by cases mem

theorem flushLoop_sends {turns : Nat} {s s' : SlotInfo}
    (flushed : flushLoop runtime turns s = .ok (s', sends)) :
    ∀ send ∈ sends, ∃ bytes, send = (s.ws, .relay bytes) := by
  induction turns generalizing s s' sends with
  | zero =>
      cases flushed
      intro send mem
      cases mem
  | succ turns ih =>
      rw [flushLoop] at flushed
      split at flushed
      next =>
        obtain ⟨bytes, _, flushed⟩ := bind_eq_ok flushed
        obtain ⟨⟨rest, sent⟩, tail, flushed⟩ := bind_eq_ok flushed
        cases flushed
        intro send mem
        rcases List.mem_cons.mp mem with rfl | later
        · exact ⟨bytes, rfl⟩
        · exact ih tail send later
      next =>
        cases flushed
        intro send mem
        cases mem

theorem flush_relays {slot : Slot}
    (flushed : room.flush runtime slot = .ok (room', sends)) :
    Relays room room' sends := by
  have seats := flush_sameSeats flushed
  rw [flush] at flushed
  split at flushed
  next =>
    cases flushed
    exact .silent seats rfl
  next info seated =>
    obtain ⟨⟨rest, sent⟩, tail, flushed⟩ := bind_eq_ok flushed
    cases flushed
    refine ⟨seats, rfl, fun send mem => ?_, fun send mem => ?_⟩
    · obtain ⟨bytes, rfl⟩ := flushLoop_sends tail send mem
      rfl
    · obtain ⟨bytes, rfl⟩ := flushLoop_sends tail send mem
      exact ⟨slot, info, seated, rfl⟩

theorem Relays.after {first : RelayRoom} (same : SameSeats first room)
    (pingTimer : room.pingTimer = first.pingTimer)
    (relays : Relays room room' sends) : Relays first room' sends where
  seats := same.trans relays.seats
  pingTimer := relays.pingTimer.trans pingTimer
  relayed := relays.relayed
  seated send mem := (same.sitsIn _).mp (relays.seated send mem)

theorem relayInput_relays {slot : Slot} {entry : RelayEntry}
    (relayed : room.relayInput runtime isOpen slot entry =
      .ok (room', sends)) : Relays room room' sends := by
  rw [relayInput] at relayed
  split at relayed
  next =>
    cases relayed
    exact .silent .rfl rfl
  next opponent seated =>
    split at relayed
    next =>
      refine Relays.after ?_ ?_ (flush_relays relayed)
      · exact setSlot_sameSeats seated rfl
      · rfl
    next =>
      cases relayed
      exact .silent .rfl rfl

theorem handleInput_relays {key : SlotKey} {msg : DecodedMsg}
    (handled : room.handleInput runtime isOpen key msg =
      .ok (room', sends)) : Relays room room' sends := by
  rw [handleInput] at handled
  obtain ⟨valid, _, handled⟩ := bind_eq_ok handled
  cases valid with
  | false =>
      cases handled
      exact .silent .rfl rfl
  | true =>
      obtain ⟨inputLog, _, handled⟩ := bind_eq_ok handled
      refine Relays.after ?_ ?_ (relayInput_relays handled)
      · exact ⟨rfl, rfl, fun _ => rfl⟩
      · rfl

theorem handleLoadout_relays {key : SlotKey} {msg : DecodedMsg}
    (handled : room.handleLoadout runtime isOpen key msg =
      .ok (room', sends)) : Relays room room' sends := by
  rw [handleLoadout] at handled
  split at handled
  next =>
    cases handled
    exact .silent .rfl rfl
  next opponent seated =>
    split at handled
    next =>
      obtain ⟨bytes, _, handled⟩ := bind_eq_ok handled
      cases handled
      refine ⟨.rfl, rfl, fun send mem => ?_, fun send mem => ?_⟩
      · cases List.mem_singleton.mp mem
        rfl
      · cases List.mem_singleton.mp mem
        exact ⟨key.index.other, opponent, seated, rfl⟩
    next =>
      cases handled
      exact .silent .rfl rfl

theorem handleMessage_relays {key : SlotKey} {data : List UInt8}
    (handled : room.handleMessage runtime isOpen key data =
      .ok (room', sends)) :
    Relays room room' sends ∧ (room.state ≠ .active → sends = []) := by
  rw [handleMessage] at handled
  split at handled
  next =>
    cases handled
    exact ⟨.silent .rfl rfl, fun _ => rfl⟩
  next active =>
    refine ⟨?_, fun inactive => absurd inactive active⟩
    obtain ⟨decoded, _, handled⟩ := bind_eq_ok handled
    cases decoded with
    | none =>
        cases handled
        exact .silent .rfl rfl
    | some msg =>
        dsimp only at handled
        split at handled
        next => exact handleInput_relays handled
        next =>
          split at handled
          next => exact handleLoadout_relays handled
          next =>
            cases handled
            exact .silent .rfl rfl

theorem attach_sends {slot : JsVal} {ws : SocketRef}
    {playerId fighterId : JsVal} {now : Nat} {key : SlotKey}
    (attached : room.attach slot ws playerId fighterId now =
      .ok (some (key, room', sends))) :
    room'.pingTimer = (room'.full || room.pingTimer) ∧
      sends = (ws, .waiting) ::
        if room'.full then room'.startSends else [] := by
  rw [attach] at attached
  obtain ⟨found, _, attached⟩ := bind_eq_ok attached
  cases found with
  | none => cases attached
  | some found =>
      dsimp only at attached
      split at attached
      next => cases attached
      next =>
        split at attached
        next both =>
          cases attached
          have isFull : ∀ now, ((room.setSlot key.index
              ⟨ws, playerId, fighterId, 0, []⟩).startMatch now).1.full =
              true := fun now => by
            rw [full, startMatch, Bool.and_eq_true]
            exact both
          rw [isFull, if_pos rfl]
          exact ⟨rfl, rfl⟩
        next alone =>
          cases attached
          have notFull : (room.setSlot key.index
              ⟨ws, playerId, fighterId, 0, []⟩).full = false := by
            rw [full, Bool.eq_false_iff, ne_eq, Bool.and_eq_true]
            exact alone
          rw [notFull, if_neg Bool.false_ne_true]
          exact ⟨rfl, rfl⟩

theorem sitsIn_of_mem_openSockets {ws : SocketRef}
    (mem : ws ∈ room.openSockets isOpen) : room.SitsIn ws := by
  rw [openSockets, List.mem_filter, List.mem_map] at mem
  obtain ⟨⟨info, seated, rfl⟩, _⟩ := mem
  obtain ⟨slot, _, held⟩ := List.mem_filterMap.mp seated
  exact ⟨slot, info, held, rfl⟩

theorem sendPing_sends {now : Nat} {send : SocketRef × ServerMsg}
    (mem : send ∈ room.sendPing isOpen now) :
    send.2 = .ping now ∧ room.SitsIn send.1 := by
  obtain ⟨ws, isSeated, rfl⟩ := List.mem_map.mp mem
  exact ⟨rfl, sitsIn_of_mem_openSockets isSeated⟩

def SocketsApart (room : RelayRoom) : Prop :=
  ∀ first ∈ room.slots .p1, ∀ second ∈ room.slots .p2, first.ws ≠ second.ws

theorem nodup_openSockets (apart : room.SocketsApart) :
    (room.openSockets isOpen).Nodup := by
  have seated : (([Slot.p1, .p2].filterMap room.slots).map (·.ws)).Nodup := by
    cases first : room.slots .p1 with
    | none =>
        cases second : room.slots .p2 with
        | none => simp [first, second]
        | some _ => simp [first, second]
    | some info =>
        cases second : room.slots .p2 with
        | none => simp [first, second]
        | some info' =>
            simpa [first, second] using apart info first info' second
  exact seated.filter _

structure Finishes (room : RelayRoom) (sends : Sends) : Prop where
  seated : ∀ send ∈ sends, room.SitsIn send.1
  noStart : ∀ send ∈ sends, send.2.isStart = false
  once : room.SocketsApart → ∀ ws,
    (sends.countP fun send => decide (send.1 = ws) && send.2.isFinish) ≤ 1

theorem finish_finishes (payload : MatchEndPayload) :
    Finishes room ((room.openSockets isOpen).map fun ws =>
      (ws, .finish payload)) where
  seated send mem := by
    obtain ⟨ws, isSeated, rfl⟩ := List.mem_map.mp mem
    exact sitsIn_of_mem_openSockets isSeated
  noStart send mem := by
    obtain ⟨ws, _, rfl⟩ := List.mem_map.mp mem
    rfl
  once apart ws := by
    have nodup : (room.openSockets isOpen).Nodup := nodup_openSockets apart
    rw [List.countP_map]
    calc
      _ ≤ (room.openSockets isOpen).count ws := by
        refine List.countP_mono_left fun other _ told => ?_
        simpa [ServerMsg.isFinish] using told
      _ ≤ 1 := List.nodup_iff_count_le_one.mp nodup ws

theorem Finishes.notice {ws : SocketRef} {interval : Nat}
    (finishes : Finishes room sends) (seated : room.SitsIn ws) :
    Finishes room ((ws, .opponentDisconnect interval) :: sends) where
  seated send mem := by
    rcases List.mem_cons.mp mem with rfl | told
    · exact seated
    · exact finishes.seated send told
  noStart send mem := by
    rcases List.mem_cons.mp mem with rfl | told
    · rfl
    · exact finishes.noStart send told
  once apart which := by
    rw [List.countP_cons_of_neg (by simp [ServerMsg.isFinish])]
    exact finishes.once apart which

theorem handleClose_live (live : room.state ≠ .closed) (key : SlotKey) :
    ∃ sends, Finishes room sends ∧ room.handleClose isOpen key =
      (true, { room with state := .closed, pingTimer := false }, sends) := by
  have told : Finishes room ((room.openSockets isOpen).map fun ws =>
      (ws, .finish (room.closePayload key))) := finish_finishes _
  rw [handleClose, if_neg live, finish, if_neg live]
  dsimp only
  split
  next => exact ⟨_, told, rfl⟩
  next opponent seated =>
    split
    next => exact ⟨_, told.notice ⟨_, opponent, seated, rfl⟩, rfl⟩
    next => exact ⟨_, told, rfl⟩

theorem finish_live (live : room.state ≠ .closed)
    (payload : MatchEndPayload) :
    ∃ sends, Finishes room sends ∧ room.finish isOpen payload =
      (true, { room with state := .closed, pingTimer := false }, sends) := by
  rw [finish, if_neg live]
  exact ⟨_, finish_finishes payload, rfl⟩

def NoLoadout (sends : Sends) : Prop :=
  ∀ send ∈ sends, ∀ bytes, send.2 ≠ .loadout bytes

theorem noLoadout_nil : NoLoadout [] := by
  intro send mem
  cases mem

theorem flush_noLoadout {slot : Slot}
    (flushed : room.flush runtime slot = .ok (room', sends)) :
    NoLoadout sends := by
  rw [flush] at flushed
  split at flushed
  next =>
    cases flushed
    exact noLoadout_nil
  next info seated =>
    obtain ⟨⟨rest, sent⟩, tail, flushed⟩ := bind_eq_ok flushed
    cases flushed
    intro send mem bytes same
    obtain ⟨relayed, rfl⟩ := flushLoop_sends tail send mem
    cases same

theorem handleInput_noLoadout {key : SlotKey} {msg : DecodedMsg}
    (handled : room.handleInput runtime isOpen key msg =
      .ok (room', sends)) : NoLoadout sends := by
  rw [handleInput] at handled
  obtain ⟨valid, _, handled⟩ := bind_eq_ok handled
  cases valid with
  | false =>
      cases handled
      exact noLoadout_nil
  | true =>
      obtain ⟨inputLog, _, handled⟩ := bind_eq_ok handled
      rw [relayInput] at handled
      split at handled
      next =>
        cases handled
        exact noLoadout_nil
      next =>
        split at handled
        next => exact flush_noLoadout handled
        next =>
          cases handled
          exact noLoadout_nil

theorem handleMessage_input_noLoadout {key : SlotKey} {rest : List UInt8}
    (handled : room.handleMessage runtime isOpen key (0x02 :: rest) =
      .ok (room', sends)) : NoLoadout sends := by
  rw [handleMessage] at handled
  split at handled
  next =>
    cases handled
    exact noLoadout_nil
  next =>
    rw [decodeClientMsg_input] at handled
    by_cases short : rest.length < 8
    · rw [if_pos short] at handled
      cases handled
      exact noLoadout_nil
    · rw [if_neg short] at handled
      change room.handleInput runtime isOpen key
        (inputMsg (0x02 :: rest)) = _ at handled
      exact handleInput_noLoadout handled

theorem encodeLoadout_loadoutMsg (runtime : JsRuntime) (pick : UInt8) :
    encodeLoadout runtime (Json.get "loadout" (loadoutMsg [0x04, pick])) =
      .ok [0x20, pick] := by
  have byte : leWindow [0x04, pick] 1 1 = pick.toNat := rfl
  have fits : pick.toNat < 2 ^ 32 := lt_trans pick.toNat_lt (by decide)
  have found : Json.get "loadout" (loadoutMsg [0x04, pick]) =
      some (.nat pick.toNat) := rfl
  rw [encodeLoadout, found, JsVal.toNumber_nat]
  have same := JsNumber.toUint32_natCast fits
  simp [Bind.bind, Except.bind, Pure.pure, Except.pure, same, leBytes,
    MsgType.code]

/-- A `CLIENT_LOADOUT` is sent on to the opponent with its byte, or to
nobody. -/
theorem handleMessage_loadout {key : SlotKey} {pick : UInt8}
    (handled : room.handleMessage runtime isOpen key [0x04, pick] =
      .ok (room', sends)) :
    sends = [] ∨ ∃ opponent, room.slots key.index.other = some opponent ∧
      sends = [(opponent.ws, .loadout [0x20, pick])] := by
  rw [handleMessage] at handled
  split at handled
  next =>
    cases handled
    exact .inl rfl
  next =>
    rw [decodeClientMsg_loadout] at handled
    change room.handleLoadout runtime isOpen key (loadoutMsg [0x04, pick]) = _
      at handled
    rw [handleLoadout] at handled
    split at handled
    next =>
      cases handled
      exact .inl rfl
    next opponent seated =>
      split at handled
      next =>
        rw [encodeLoadout_loadoutMsg] at handled
        cases handled
        exact .inr ⟨opponent, seated, rfl⟩
      next =>
        cases handled
        exact .inl rfl

theorem attach_noLoadout {slot : JsVal} {ws : SocketRef}
    {playerId fighterId : JsVal} {now : Nat} {key : SlotKey}
    (attached : room.attach slot ws playerId fighterId now =
      .ok (some (key, room', sends))) : NoLoadout sends := by
  rw [(attach_sends attached).2]
  intro send mem bytes
  rcases List.mem_cons.mp mem with rfl | started
  · intro same
    cases same
  · split at started
    next =>
      obtain ⟨slot, _, found⟩ := List.mem_filterMap.mp started
      obtain ⟨info, _, rfl⟩ := Option.map_eq_some_iff.mp found
      intro same
      cases same
    next => cases started

theorem sendPing_noLoadout (now : Nat) :
    NoLoadout (room.sendPing isOpen now) := by
  intro send mem bytes same
  rw [(sendPing_sends mem).1] at same
  cases same

theorem handleClose_slots (key : SlotKey) :
    (room.handleClose isOpen key).2.1.slots = room.slots := by
  rw [handleClose]
  split
  next => rfl
  next live =>
    dsimp only
    rw [finish, if_neg live]

theorem handleClose_noLoadout (key : SlotKey) :
    NoLoadout (room.handleClose isOpen key).2.2 := by
  have told (payload : MatchEndPayload) :
      NoLoadout (room.finish isOpen payload).2.2 := by
    rw [finish]
    split
    next => exact noLoadout_nil
    next =>
      intro send mem bytes same
      obtain ⟨ws, _, rfl⟩ := List.mem_map.mp mem
      cases same
  rw [handleClose]
  split
  next => exact noLoadout_nil
  next =>
    intro send mem
    rcases List.mem_append.mp mem with notice | finished
    · split at notice
      next => cases notice
      next =>
        split at notice
        next =>
          rw [List.mem_singleton.mp notice]
          intro bytes same
          cases same
        next => cases notice
    · exact told _ send finished

end RelayRoom

end FuryClash.Server
