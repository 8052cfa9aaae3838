import FuryClash.Server.Acts
import FuryClash.Server.RoomLife

namespace FuryClash.Server

open FuryClash.Data

variable {runtime : JsRuntime} {config : RelayConfig}

/-! The rooms, the table and the sockets together: no room that is closed can
be found, and each socket sits in one place. -/

namespace RoomManager

def finishCount (m : RoomManager) (ws : SocketRef) : Nat :=
  m.sent.countP fun send => decide (send.1 = ws) && send.2.isFinish

/-- The part of the invariant that ties the rooms, the table and the sockets
together. -/
structure Joint (m : RoomManager) : Prop where
  settled : ∀ room ∈ m.created, room.Settled
  table : m.crashed = false → ∀ id ref, m.rooms.lookup id = some ref →
    ∃ room, m.created[ref]? = some room ∧ room.state ≠ .closed ∧
      id = roomKey ref room.cfg.roomId
  linked : ∀ ref room, m.created[ref]? = some room → ∀ slot,
    ∀ info ∈ room.slots slot,
      ∃ key, (m.sockets info.ws).attached = some (ref, key) ∧
        key.index = slot
  greeted : ∀ ws, (m.sockets ws).firstMessage = none →
    (m.sockets ws).attached = none
  once : ∀ ws, m.finishCount ws ≤ 1
  told : ∀ ws, 0 < m.finishCount ws → ∃ ref key room,
    (m.sockets ws).attached = some (ref, key) ∧
      m.created[ref]? = some room ∧ room.state = .closed

variable {m m' : RoomManager} {event : ManagerEvent} {calls : List RoomRef}

theorem Joint.sitsIn (joint : m.Joint) {ref : RoomRef} {room : RelayRoom}
    (held : m.created[ref]? = some room) {ws : SocketRef}
    (sits : room.SitsIn ws) :
    ∃ key, (m.sockets ws).attached = some (ref, key) := by
  obtain ⟨slot, info, seated, rfl⟩ := sits
  obtain ⟨key, link, _⟩ := joint.linked ref room held slot info seated
  exact ⟨key, link⟩

theorem Joint.apart (joint : m.Joint) {ref : RoomRef} {room : RelayRoom}
    (held : m.created[ref]? = some room) : room.SocketsApart := by
  intro first atFirst second atSecond same
  obtain ⟨key, link, index⟩ := joint.linked ref room held .p1 first atFirst
  obtain ⟨key', link', index'⟩ :=
    joint.linked ref room held .p2 second atSecond
  rw [same, link'] at link
  cases link
  cases index.symm.trans index'

theorem Joint.settled_of_held (joint : m.Joint) {ref : RoomRef}
    {room : RelayRoom} (held : m.created[ref]? = some room) : room.Settled :=
  joint.settled room (List.mem_of_getElem? held)

theorem Joint.live_of_found (joint : m.Joint) {id : RoomKey} {ref : RoomRef}
    {room : RelayRoom} (running : m.crashed = false)
    (found : m.rooms.lookup id = some ref)
    (held : m.created[ref]? = some room) : room.state ≠ .closed := by
  obtain ⟨other, at_ref, live, _⟩ := joint.table running id ref found
  cases held.symm.trans at_ref
  exact live

/-- Nobody in a live room has been told of an end. -/
theorem Joint.untold (joint : m.Joint) {ref : RoomRef} {room : RelayRoom}
    (held : m.created[ref]? = some room) (live : room.state ≠ .closed)
    {ws : SocketRef} {key : SlotKey}
    (link : (m.sockets ws).attached = some (ref, key)) :
    m.finishCount ws = 0 := by
  refine Nat.eq_zero_of_not_pos fun positive => ?_
  obtain ⟨which, _, other, old, at_which, closed⟩ := joint.told ws positive
  rw [link] at old
  cases old
  cases held.symm.trans at_which
  exact live closed

theorem finishCount_append {sends : Sends}
    (sent : m'.sent = m.sent ++ sends) (ws : SocketRef) :
    m'.finishCount ws = m.finishCount ws +
      sends.countP fun send => decide (send.1 = ws) && send.2.isFinish := by
  rw [finishCount, sent, List.countP_append]
  rfl

theorem finishCount_of_sent (sent : m'.sent = m.sent) (ws : SocketRef) :
    m'.finishCount ws = m.finishCount ws := by
  rw [finishCount, sent]
  rfl

theorem finishCount_quiet {sends : Sends}
    (sent : m'.sent = m.sent ++ sends)
    (quiet : ∀ send ∈ sends, send.2.isFinish = false) (ws : SocketRef) :
    m'.finishCount ws = m.finishCount ws := by
  rw [finishCount_append sent, List.countP_eq_zero.mpr, Nat.add_zero]
  intro send mem
  simp [quiet send mem]

theorem attach_quiet {room room' : RelayRoom} {sends : Sends}
    {slot playerId fighterId : JsVal} {ws : SocketRef} {now : Nat}
    {key : SlotKey}
    (attached : room.attach slot ws playerId fighterId now =
      .ok (some (key, room', sends))) :
    ∀ send ∈ sends, send.2.isFinish = false := by
  intro send mem
  rw [(RelayRoom.attach_sends attached).2] at mem
  rcases List.mem_cons.mp mem with rfl | told
  · rfl
  · split at told
    next =>
      obtain ⟨which, _, told⟩ := List.mem_filterMap.mp told
      obtain ⟨info, _, rfl⟩ := Option.map_eq_some_iff.mp told
      rfl
    next => cases told

theorem joint_initial (players : String → Option Player) :
    (initial players).Joint where
  settled room mem := by cases mem
  table _ id ref found := by cases found
  linked ref room held := by cases held
  greeted _ _ := rfl
  once _ := Nat.zero_le _
  told _ positive := absurd positive (Nat.lt_irrefl _)

theorem Joint.of_same (joint : m.Joint) (rooms : m'.rooms = m.rooms)
    (created : m'.created = m.created)
    (counts : ∀ ws, m'.finishCount ws = m.finishCount ws)
    (attached : ∀ ws, (m'.sockets ws).attached = (m.sockets ws).attached)
    (first : ∀ ws, (m'.sockets ws).firstMessage = none →
      (m.sockets ws).firstMessage = none)
    (crashed : m'.crashed = false → m.crashed = false) : m'.Joint where
  settled := created ▸ joint.settled
  table running := by
    rw [rooms, created]
    exact joint.table (crashed running)
  linked := by
    simp only [created, attached]
    exact joint.linked
  greeted ws unused := by
    rw [attached]
    exact joint.greeted ws (first ws unused)
  once ws := counts ws ▸ joint.once ws
  told ws := by
    rw [counts, attached, created]
    exact joint.told ws

theorem SameLinks.unused (links : SameLinks m m') {ws : SocketRef}
    (unused : (m'.sockets ws).firstMessage = none) :
    (m.sockets ws).firstMessage = none := by
  cases first : (m.sockets ws).firstMessage with
  | none => rfl
  | some data =>
      rw [links.first ws data first] at unused
      cases unused

theorem Joint.create (joint : m.Joint) {room : RelayRoom} {cfg : RoomConfig}
    (running : m.crashed = false) (isNew : room = .new cfg)
    (rooms : m'.rooms = m.rooms.insert
      (roomKey m.created.length room.cfg.roomId) m.created.length)
    (created : m'.created = m.created ++ [room])
    (sent : m'.sent = m.sent) (links : SameLinks m m') : m'.Joint := by
  have kept {ref : RoomRef} {other : RelayRoom}
      (held : m.created[ref]? = some other) :
      m'.created[ref]? = some other := by
    rw [created]
    exact getElem?_concat_of_held held room
  constructor
  · intro other mem
    rw [created] at mem
    rcases List.mem_append.mp mem with old | new
    · exact joint.settled other old
    · rw [List.mem_singleton.mp new, isNew]
      exact RelayRoom.settled_new cfg
  · intro _ id ref found
    rw [rooms] at found
    by_cases atNew : id = roomKey m.created.length room.cfg.roomId
    · subst atNew
      rw [AList.lookup_insert] at found
      cases found
      refine ⟨room, ?_, ?_, rfl⟩
      · rw [created, List.getElem?_concat_length]
      · rw [isNew]
        nofun
    · rw [AList.lookup_insert_ne atNew] at found
      obtain ⟨other, held, live, key⟩ := joint.table running id ref found
      exact ⟨other, kept held, live, key⟩
  · intro ref other held slot info seated
    rw [links.attached]
    rw [created] at held
    rcases of_getElem?_concat held with old | ⟨_, rfl⟩
    · exact joint.linked ref other old slot info seated
    · rw [isNew] at seated
      cases seated
  · intro ws unused
    rw [links.attached]
    exact joint.greeted ws (links.unused unused)
  · intro ws
    rw [finishCount_of_sent sent]
    exact joint.once ws
  · intro ws positive
    rw [finishCount_of_sent sent] at positive
    obtain ⟨ref, key, other, link, held, closed⟩ := joint.told ws positive
    exact ⟨ref, key, other, (links.attached ws).trans link, kept held, closed⟩

theorem Joint.settled_set (joint : m.Joint) {ref : RoomRef}
    {room' : RelayRoom} (created : m'.created = m.created.set ref room')
    (settled : room'.Settled) : ∀ room ∈ m'.created, room.Settled := by
  rw [created]
  exact forall_mem_set joint.settled settled ref

theorem Joint.table_set (joint : m.Joint) {ref : RoomRef}
    {room room' : RelayRoom} (running : m.crashed = false)
    (held : m.created[ref]? = some room) (rooms : m'.rooms = m.rooms)
    (created : m'.created = m.created.set ref room')
    (cfg : room'.cfg = room.cfg)
    (live : room.state ≠ .closed → room'.state ≠ .closed) :
    ∀ id which, m'.rooms.lookup id = some which →
      ∃ other, m'.created[which]? = some other ∧ other.state ≠ .closed ∧
        id = roomKey which other.cfg.roomId := by
  intro id which found
  rw [rooms] at found
  obtain ⟨other, at_which, isLive, key⟩ := joint.table running id which found
  rw [created, getElem?_set_of_held held]
  by_cases same : ref = which
  · subst same
    cases held.symm.trans at_which
    exact ⟨room', if_pos rfl, live isLive, by rw [cfg]; exact key⟩
  · exact ⟨other, by rw [if_neg same]; exact at_which, isLive, key⟩

theorem Joint.table_erase (joint : m.Joint) {ref : RoomRef}
    {room room' : RelayRoom} (running : m.crashed = false)
    (held : m.created[ref]? = some room)
    (rooms : m'.rooms = m.rooms.erase (roomKey ref room.cfg.roomId))
    (created : m'.created = m.created.set ref room') :
    ∀ id which, m'.rooms.lookup id = some which →
      ∃ other, m'.created[which]? = some other ∧ other.state ≠ .closed ∧
        id = roomKey which other.cfg.roomId := by
  intro id which found
  rw [rooms] at found
  have differs : id ≠ roomKey ref room.cfg.roomId := by
    rintro rfl
    rw [AList.lookup_erase] at found
    cases found
  rw [AList.lookup_erase_ne differs] at found
  obtain ⟨other, at_which, isLive, key⟩ := joint.table running id which found
  refine ⟨other, ?_, isLive, key⟩
  have ne : ref ≠ which := by
    rintro rfl
    cases held.symm.trans at_which
    exact differs key
  rw [created, getElem?_set_of_held held, if_neg ne]
  exact at_which

theorem Joint.told_set (joint : m.Joint) {ref : RoomRef}
    {room room' : RelayRoom} (held : m.created[ref]? = some room)
    (created : m'.created = m.created.set ref room')
    (closed : room.state = .closed → room'.state = .closed) {ws : SocketRef}
    (link : (m'.sockets ws).attached = (m.sockets ws).attached)
    (positive : 0 < m.finishCount ws) :
    ∃ ref key room, (m'.sockets ws).attached = some (ref, key) ∧
      m'.created[ref]? = some room ∧ room.state = .closed := by
  obtain ⟨which, key, other, at_ws, at_which, isClosed⟩ :=
    joint.told ws positive
  rw [link, at_ws, created]
  by_cases same : ref = which
  · subst same
    cases held.symm.trans at_which
    refine ⟨ref, key, room', rfl, ?_, closed isClosed⟩
    rw [getElem?_set_of_held held, if_pos rfl]
  · refine ⟨which, key, other, rfl, ?_, isClosed⟩
    rw [getElem?_set_of_held held, if_neg same]
    exact at_which

/-- The seats of the room that changed are the old ones, and nobody moved. -/
theorem Joint.linked_set (joint : m.Joint) {ref : RoomRef}
    {room room' : RelayRoom} (held : m.created[ref]? = some room)
    (created : m'.created = m.created.set ref room')
    (sockets : ∀ slot, (room'.slots slot).map (·.ws) =
      (room.slots slot).map (·.ws))
    (links : SameLinks m m') :
    ∀ ref room, m'.created[ref]? = some room → ∀ slot,
      ∀ info ∈ room.slots slot,
        ∃ key, (m'.sockets info.ws).attached = some (ref, key) ∧
          key.index = slot := by
  intro which other at_which slot info seated
  rw [links.attached]
  rw [created, getElem?_set_of_held held] at at_which
  split at at_which
  next same =>
    subst same
    cases at_which
    have old := sockets slot
    rw [Option.mem_def.mp seated, Option.map_some] at old
    obtain ⟨info', seated', same⟩ := Option.map_eq_some_iff.mp old.symm
    rw [← same]
    exact joint.linked ref room held slot info' seated'
  next => exact joint.linked which other at_which slot info seated

/-- One seat of the room that changed is new, and the socket on it sits
there. -/
theorem Joint.linked_attach (joint : m.Joint) {ws : SocketRef} {now : Nat}
    {slot playerId fighterId : JsVal} {ref : RoomRef} {room room' : RelayRoom}
    {key : SlotKey} {sends : Sends} (held : m.created[ref]? = some room)
    (created : m'.created = m.created.set ref room')
    (attached : room.attach slot ws playerId fighterId now =
      .ok (some (key, room', sends)))
    (link : (m'.sockets ws).attached = some (ref, key))
    (kept : ∀ {other ref key}, (m.sockets other).attached = some (ref, key) →
      (m'.sockets other).attached = some (ref, key)) :
    ∀ ref room, m'.created[ref]? = some room → ∀ slot,
      ∀ info ∈ room.slots slot,
        ∃ key, (m'.sockets info.ws).attached = some (ref, key) ∧
          key.index = slot := by
  intro which other at_which place info seated
  rw [created, getElem?_set_of_held held] at at_which
  split at at_which
  next same =>
    subst same
    cases at_which
    by_cases own : place = key.index
    · rw [own, RelayRoom.attach_seated attached] at seated
      cases seated
      exact ⟨key, link, own.symm⟩
    · rw [(RelayRoom.attach_spec attached).slots,
        RelayRoom.setSlot_of_ne own] at seated
      obtain ⟨key', old, index⟩ := joint.linked ref room held place info seated
      exact ⟨key', kept old, index⟩
  next =>
    obtain ⟨key', old, index⟩ :=
      joint.linked which other at_which place info seated
    exact ⟨key', kept old, index⟩

theorem Joint.relay (joint : m.Joint) {ref : RoomRef}
    {room room' : RelayRoom} {key : SlotKey} {data : List UInt8}
    {sends : Sends} (running : m.crashed = false)
    (held : m.created[ref]? = some room)
    (handled : room.handleMessage runtime m.isOpen key data =
      .ok (room', sends))
    (rooms : m'.rooms = m.rooms)
    (created : m'.created = m.created.set ref room')
    (sent : m'.sent = m.sent ++ sends) (links : SameLinks m m') :
    m'.Joint := by
  obtain ⟨relays, _⟩ := RelayRoom.handleMessage_relays handled
  have quiet (ws : SocketRef) : m'.finishCount ws = m.finishCount ws := by
    refine finishCount_quiet sent (fun send mem => ?_) ws
    have isRelayed := relays.relayed send mem
    cases told : send.2 <;>
      simp_all [ServerMsg.isRelayed, ServerMsg.isFinish]
  constructor
  · exact joint.settled_set created
      (RelayRoom.relay_settled (joint.settled_of_held held) handled)
  · intro _
    refine joint.table_set running held rooms created relays.seats.cfg ?_
    rw [relays.seats.state]
    exact id
  · exact joint.linked_set held created relays.seats.sockets links
  · intro ws unused
    rw [links.attached]
    exact joint.greeted ws (links.unused unused)
  · intro ws
    rw [quiet]
    exact joint.once ws
  · intro ws positive
    rw [quiet] at positive
    refine joint.told_set held created ?_ (links.attached ws) positive
    rw [relays.seats.state]
    exact id

theorem Joint.attach (joint : m.Joint) {ws : SocketRef} {data : List UInt8}
    {now : Nat} {id : RoomKey} {slot playerId fighterId : JsVal}
    {ref : RoomRef} {room room' : RelayRoom} {key : SlotKey} {sends : Sends}
    (running : m.crashed = false)
    (first : (m.sockets ws).firstMessage = none)
    (found : m.rooms.lookup id = some ref)
    (held : m.created[ref]? = some room)
    (attached : room.attach slot ws playerId fighterId now =
      .ok (some (key, room', sends)))
    (rooms : m'.rooms = m.rooms)
    (created : m'.created = m.created.set ref room')
    (sent : m'.sent = m.sent ++ sends)
    (message : (m'.sockets ws).firstMessage = some data)
    (link : (m'.sockets ws).attached = some (ref, key))
    (others : ∀ other, other ≠ ws → m'.sockets other = m.sockets other) :
    m'.Joint := by
  have live := joint.live_of_found running found held
  have settled := joint.settled_of_held held
  have spec := RelayRoom.attach_spec attached
  have unlinked := joint.greeted ws first
  have elsewhere {other : SocketRef} {ref : RoomRef} {key : SlotKey}
      (link : (m.sockets other).attached = some (ref, key)) :
      m'.sockets other = m.sockets other := by
    refine others other fun same => ?_
    rw [same, unlinked] at link
    cases link
  constructor
  · exact joint.settled_set created
      (RelayRoom.attach_settled attached settled live)
  · intro _
    refine joint.table_set running held rooms created spec.cfg fun _ => ?_
    rw [RelayRoom.attach_state attached settled live]
    split <;> nofun
  · refine joint.linked_attach held created attached link fun old => ?_
    rw [elsewhere old, old]
  · intro other unused
    by_cases same : other = ws
    · rw [same, message] at unused
      cases unused
    · rw [others other same] at unused ⊢
      exact joint.greeted other unused
  · intro other
    rw [finishCount_quiet sent (attach_quiet attached)]
    exact joint.once other
  · intro other positive
    rw [finishCount_quiet sent (attach_quiet attached)] at positive
    obtain ⟨_, _, _, old, _⟩ := joint.told other positive
    refine joint.told_set held created (fun closed => absurd closed live) ?_
      positive
    rw [elsewhere old]

theorem Joint.finish (joint : m.Joint) {ref : RoomRef} {room : RelayRoom}
    {sends : Sends} (running : m.crashed = false)
    (held : m.created[ref]? = some room) (live : room.state ≠ .closed)
    (finishes : room.Finishes sends)
    (rooms : m'.crashed = true ∨
      m'.rooms = m.rooms.erase (roomKey ref room.cfg.roomId))
    (created : m'.created = m.created.set ref
      { room with state := .closed, pingTimer := false })
    (sent : m'.sent = m.sent ++ sends) (links : SameLinks m m') :
    m'.Joint := by
  have counts := finishCount_append sent
  have isClosed : m'.created[ref]? = some
      { room with state := .closed, pingTimer := false } := by
    rw [created, getElem?_set_of_held held, if_pos rfl]
  -- Who is told now sits in this room, and so was not told before.
  have fresh (ws : SocketRef) (now : 0 < sends.countP fun send =>
      decide (send.1 = ws) && send.2.isFinish) :
      m.finishCount ws = 0 ∧
        ∃ key, (m.sockets ws).attached = some (ref, key) := by
    obtain ⟨send, mem, told⟩ := List.countP_pos_iff.mp now
    rw [Bool.and_eq_true, decide_eq_true_iff] at told
    have sits := finishes.seated send mem
    rw [told.1] at sits
    obtain ⟨key, link⟩ := joint.sitsIn held sits
    exact ⟨joint.untold held live link, key, link⟩
  constructor
  · exact joint.settled_set created (RelayRoom.closed_settled room)
  · intro stillRunning
    rcases rooms with crashed | erased
    · rw [crashed] at stillRunning
      cases stillRunning
    · exact joint.table_erase running held erased created
  · exact joint.linked_set held created (fun _ => rfl) links
  · intro ws unused
    rw [links.attached]
    exact joint.greeted ws (links.unused unused)
  · intro ws
    rw [counts]
    rcases Nat.eq_zero_or_pos (sends.countP fun send =>
      decide (send.1 = ws) && send.2.isFinish) with none | now
    · rw [none]
      exact joint.once ws
    · rw [(fresh ws now).1, Nat.zero_add]
      exact finishes.once (joint.apart held) ws
  · intro ws positive
    rw [counts] at positive
    rcases Nat.eq_zero_or_pos (sends.countP fun send =>
      decide (send.1 = ws) && send.2.isFinish) with none | now
    · rw [none, Nat.add_zero] at positive
      exact joint.told_set held created (fun _ => rfl) (links.attached ws)
        positive
    · obtain ⟨_, key, link⟩ := fresh ws now
      exact ⟨ref, key, _, (links.attached ws).trans link, isClosed, rfl⟩

theorem Joint.step (joint : m.Joint)
    (acts : Acts runtime config m event m' calls) : m'.Joint := by
  cases acts with
  | idle rooms created sent links crashed =>
      exact joint.of_same rooms created (finishCount_of_sent sent)
        links.attached (fun _ => links.unused) crashed
  | create running isNew rooms created sent links =>
      exact joint.create running isNew rooms created sent links
  | attach running first found held attached rooms created sent message link
      others =>
      exact joint.attach running first found held attached rooms created sent
        message link others
  | relay running linked held handled rooms created sent links =>
      exact joint.relay running held handled rooms created sent links
  | ping running held timer rooms created sent links =>
      have quiet := finishCount_quiet sent fun send mem => by
        rw [(RelayRoom.sendPing_sends mem).1]
        rfl
      exact joint.of_same rooms created quiet links.attached
        (fun _ => links.unused) fun _ => running
  | finish running ends held live finishes rooms created sent links =>
      exact joint.finish running held live finishes rooms created sent links

end RoomManager

end FuryClash.Server
