import FuryClash.Server.Joint

namespace FuryClash.Server

open FuryClash.Data

variable {R : Type} [Field R] [LinearOrder R] [FloorRing R]
  {runtime : JsRuntime} {config : RelayConfig}
  {expectedScore : Int → Int → R}

namespace RoomManager

variable {m m' : RoomManager} {event : ManagerEvent} {calls : List RoomRef}

/-- What a step has sent. -/
def news (m m' : RoomManager) : Sends := m'.sent.drop m.sent.length

inductive Touches (m m' : RoomManager) : Prop where
  | nothing (created : m'.created = m.created) (sent : m'.sent = m.sent)
  | create {cfg : RoomConfig} (created : m'.created = m.created ++ [.new cfg])
      (sent : m'.sent = m.sent)
  | room {ref : RoomRef} {room room' : RelayRoom} {sends : Sends}
      (held : m.created[ref]? = some room)
      (advance : room.Advance room' sends)
      (created : m'.created = m.created.set ref room')
      (sent : m'.sent = m.sent ++ sends)

theorem Acts.touches (joint : m.Joint)
    (acts : Acts runtime config m event m' calls) : Touches m m' := by
  cases acts with
  | idle _ created sent _ _ => exact .nothing created sent
  | create _ isNew _ created sent _ =>
      subst isNew
      exact .create created sent
  | attach running _ found held attached _ created sent _ _ _ =>
      have live := joint.live_of_found running found held
      have settled := joint.settled_of_held held
      exact .room held (RelayRoom.attach_advance attached settled live)
        created sent
  | relay _ _ held handled _ created sent _ =>
      exact .room held (RelayRoom.relay_advance handled) created sent
  | ping _ held timer _ created sent _ =>
      refine .room held (RelayRoom.ping_advance (joint.settled_of_held held)
        timer) ?_ sent
      rw [created, set_of_getElem? held]
  | finish _ _ held live finishes _ created sent _ =>
      exact .room held (RelayRoom.finish_advance (joint.settled_of_held held)
        live finishes) created sent

structure LifeStep (m m' : RoomManager) : Prop where
  sent : m'.sent = m.sent ++ m.news m'
  advances : ∀ (ref : RoomRef) (room : RelayRoom),
    m.created[ref]? = some room → ∃ room', m'.created[ref]? = some room' ∧
      room.state.Advances room'.state ∧
      ∀ slot, ∀ info ∈ room.slots slot,
        ∃ info' ∈ room'.slots slot, info'.ws = info.ws
  born : ∀ (ref : RoomRef) (room' : RelayRoom), m.created[ref]? = none →
    m'.created[ref]? = some room' →
      room'.state = .waiting ∧ ∀ slot, room'.slots slot = none
  /-- The step fills the second slot of a room. -/
  starts : ∀ (ref : RoomRef) (room' : RelayRoom),
    m'.created[ref]? = some room' → room'.full = true →
    (∀ room ∈ m.created[ref]?, room.full = false) →
      ∃ first ∈ room'.slots .p1, ∃ second ∈ room'.slots .p2,
        first.ws ≠ second.ws ∧ startsOf (m.news m') =
          [(first.ws, .start .p1 room'.cfg),
            (second.ws, .start .p2 room'.cfg)]
  /-- The step fills the second slot of no room. -/
  noStart : (∀ (ref : RoomRef) (room' : RelayRoom),
    m'.created[ref]? = some room' → room'.full = true →
      ∃ room ∈ m.created[ref]?, room.full = true) →
      startsOf (m.news m') = []
  /-- Whoever is told something sits in a room that was not closed. -/
  speaks : ∀ send ∈ m.news m', ∃ (ref : RoomRef) (room room' : RelayRoom),
    m.created[ref]? = some room ∧ room.state ≠ .closed ∧
      m'.created[ref]? = some room' ∧ room'.SitsIn send.1
  silent : ∀ (ref : RoomRef) (room : RelayRoom),
    m.created[ref]? = some room → room.state = .closed →
      ∀ send ∈ m.news m', ¬ room.SitsIn send.1

theorem news_of_sent {sends : Sends} (sent : m'.sent = m.sent ++ sends) :
    m.news m' = sends := by
  rw [news, sent, List.drop_left]

theorem news_of_same (sent : m'.sent = m.sent) : m.news m' = [] := by
  rw [news, sent, List.drop_length]

theorem mem_news_nil (sent : m'.sent = m.sent)
    {send : SocketRef × ServerMsg} : send ∉ m.news m' := by
  rw [news_of_same sent]
  exact List.not_mem_nil

theorem lifeStep_nothing (created : m'.created = m.created)
    (sent : m'.sent = m.sent) : LifeStep m m' where
  sent := by rw [news_of_same sent, List.append_nil, sent]
  advances ref room held :=
    ⟨room, created ▸ held, .stay, fun _ info seated => ⟨info, seated, rfl⟩⟩
  born ref room' absent held := by
    rw [created, absent] at held
    cases held
  starts ref room' held isFull notFull := by
    rw [created] at held
    rw [notFull room' held] at isFull
    cases isFull
  noStart _ := by
    rw [news_of_same sent]
    rfl
  speaks _ mem := absurd mem (mem_news_nil sent)
  silent _ _ _ _ _ mem := absurd mem (mem_news_nil sent)

theorem lifeStep_create {cfg : RoomConfig}
    (created : m'.created = m.created ++ [.new cfg])
    (sent : m'.sent = m.sent) : LifeStep m m' where
  sent := by rw [news_of_same sent, List.append_nil, sent]
  advances ref room held := by
    refine ⟨room, ?_, .stay, fun _ info seated => ⟨info, seated, rfl⟩⟩
    rw [created]
    exact getElem?_concat_of_held held _
  born ref room' absent held := by
    rw [created] at held
    rcases of_getElem?_concat held with old | ⟨_, rfl⟩
    · rw [absent] at old
      cases old
    · exact ⟨rfl, fun _ => rfl⟩
  starts ref room' held isFull notFull := by
    rw [created] at held
    rcases of_getElem?_concat held with old | ⟨_, rfl⟩
    · rw [notFull room' old] at isFull
      cases isFull
    · cases isFull
  noStart _ := by
    rw [news_of_same sent]
    rfl
  speaks _ mem := absurd mem (mem_news_nil sent)
  silent _ _ _ _ _ mem := absurd mem (mem_news_nil sent)

theorem lifeStep_room (joint' : m'.Joint) {ref : RoomRef}
    {room room' : RelayRoom} {sends : Sends}
    (held : m.created[ref]? = some room)
    (advance : room.Advance room' sends)
    (created : m'.created = m.created.set ref room')
    (sent : m'.sent = m.sent ++ sends) : LifeStep m m' := by
  have news := news_of_sent sent
  have held' : m'.created[ref]? = some room' := by
    rw [created, getElem?_set_of_held held, if_pos rfl]
  have others {which : RoomRef} (ne : ref ≠ which) :
      m'.created[which]? = m.created[which]? := by
    rw [created, getElem?_set_of_held held, if_neg ne]
  have speaker (send : SocketRef × ServerMsg) (mem : send ∈ m.news m') :
      room.state ≠ .closed ∧ room'.SitsIn send.1 := by
    rw [news] at mem
    exact ⟨advance.live (List.ne_nil_of_mem mem), advance.seated send mem⟩
  constructor
  case sent => rw [news, sent]
  case advances =>
    intro which other at_which
    by_cases same : ref = which
    · subst same
      cases held.symm.trans at_which
      exact ⟨room', held', advance.state, advance.seats⟩
    · exact ⟨other, (others same).trans at_which, .stay,
        fun _ info seated => ⟨info, seated, rfl⟩⟩
  case born =>
    intro which other absent at_which
    have ne : ref ≠ which := by
      rintro rfl
      cases held.symm.trans absent
    rw [others ne, absent] at at_which
    cases at_which
  case starts =>
    intro which other at_which isFull notFull
    have same : ref = which := by
      by_contra ne
      rw [others ne] at at_which
      rw [notFull other at_which] at isFull
      cases isFull
    subst same
    cases held'.symm.trans at_which
    obtain ⟨first, atFirst, second, atSecond, shape⟩ :=
      RelayRoom.startSends_of_full isFull
    refine ⟨first, atFirst, second, atSecond, ?_, ?_⟩
    · exact joint'.apart held' first atFirst second atSecond
    · rw [news, advance.starts, if_pos ⟨isFull, notFull room held⟩, shape]
  case noStart =>
    intro noneFilled
    rw [news, advance.starts, if_neg]
    rintro ⟨isFull, notFull⟩
    obtain ⟨before, at_ref, wasFull⟩ := noneFilled ref room' held' isFull
    cases held.symm.trans at_ref
    exact absurd (notFull.symm.trans wasFull) Bool.false_ne_true
  case speaks =>
    intro send mem
    obtain ⟨live, sits⟩ := speaker send mem
    exact ⟨ref, room, room', held, live, held', sits⟩
  case silent =>
    intro which other at_which closed send mem sits
    obtain ⟨live, here⟩ := speaker send mem
    have ne : ref ≠ which := by
      rintro rfl
      cases held.symm.trans at_which
      exact live closed
    obtain ⟨key, link⟩ := joint'.sitsIn held' here
    obtain ⟨key', link'⟩ :=
      joint'.sitsIn ((others ne).trans at_which) sits
    rw [link] at link'
    cases link'
    exact ne rfl

theorem Acts.lifeStep (joint : m.Joint)
    (acts : Acts runtime config m event m' calls) : LifeStep m m' := by
  cases acts.touches joint with
  | nothing created sent => exact lifeStep_nothing created sent
  | create created sent => exact lifeStep_create created sent
  | room held advance created sent =>
      exact lifeStep_room (joint.step acts) held advance created sent

/-- What holds in every state. -/
structure LifeState (m : RoomManager) : Prop where
  timer : ∀ room ∈ m.created, room.pingTimer = decide (room.state = .active)
  once : ∀ ws, m.finishCount ws ≤ 1

theorem Joint.lifeState (joint : m.Joint) : m.LifeState where
  timer room mem := (joint.settled room mem).timer
  once := joint.once

def onEndLog (step : Machine RoomManager ManagerEvent) :
    RoomManager → List ManagerEvent → List RoomRef
  | _, [] => []
  | m, event :: rest => m.onEndCalls event ++ onEndLog step (step m event) rest

theorem LifeStep.closed (life : LifeStep m m') {ref : RoomRef}
    (closed : ∃ room, m.created[ref]? = some room ∧ room.state = .closed) :
    ∃ room, m'.created[ref]? = some room ∧ room.state = .closed := by
  obtain ⟨room, held, isClosed⟩ := closed
  obtain ⟨room', held', advances, _⟩ := life.advances ref room held
  rw [isClosed] at advances
  exact ⟨room', held', advances.closed⟩

theorem Acts.closes (acts : Acts runtime config m event m' calls) :
    calls = [] ∨ ∃ ref room, calls = [ref] ∧ m.created[ref]? = some room ∧
      room.state ≠ .closed ∧
        ∃ room', m'.created[ref]? = some room' ∧ room'.state = .closed := by
  cases acts with
  | @finish _ ref room _ _ _ _ held live _ _ created _ _ =>
      refine .inr ⟨ref, room, rfl, held, live, ?_⟩
      refine ⟨{ room with state := .closed, pingTimer := false }, ?_, rfl⟩
      rw [created, getElem?_set_of_held held, if_pos rfl]
  | _ => exact .inl rfl

theorem notMem_onEndLog (joint : m.Joint) {ref : RoomRef}
    (closed : ∃ room, m.created[ref]? = some room ∧ room.state = .closed)
    (events : List ManagerEvent) :
    ref ∉ onEndLog (step runtime config expectedScore) m events := by
  induction events generalizing m with
  | nil => exact List.not_mem_nil
  | cons event rest ih =>
      have acts : Acts runtime config m event
        (step runtime config expectedScore m event) _ := step_acts m event
      rw [onEndLog, List.mem_append]
      rintro (now | later)
      · rcases acts.closes with none | ⟨which, room, one, held, live, _⟩
        · rw [none] at now
          cases now
        · rw [one] at now
          cases List.mem_singleton.mp now
          obtain ⟨other, at_ref, isClosed⟩ := closed
          cases held.symm.trans at_ref
          exact live isClosed
      · exact ih (joint.step acts) ((acts.lifeStep joint).closed closed) later

theorem nodup_onEndLog (joint : m.Joint) (events : List ManagerEvent) :
    (onEndLog (step runtime config expectedScore) m events).Nodup := by
  induction events generalizing m with
  | nil => exact .nil
  | cons event rest ih =>
      have acts : Acts runtime config m event
        (step runtime config expectedScore m event) _ := step_acts m event
      have tail := ih (joint.step acts)
      rw [onEndLog]
      rcases acts.closes with none | ⟨ref, _, one, _, _, closed⟩
      · rw [none]
        exact tail
      · rw [one]
        exact List.nodup_cons.mpr
          ⟨notMem_onEndLog (joint.step acts) closed rest, tail⟩

theorem along_lifeStep (joint : m.Joint) (events : List ManagerEvent) :
    (step runtime config expectedScore).Along
      (fun m event => LifeStep m (step runtime config expectedScore m event))
      m events :=
  Machine.along_of_invariant Joint
    (fun m event joint => joint.step (step_acts m event))
    (fun m event joint => (step_acts m event).lifeStep joint) joint events

theorem always_lifeState (joint : m.Joint) (events : List ManagerEvent) :
    (step runtime config expectedScore).Always LifeState m events :=
  Machine.always_of_invariant Joint
    (fun m event joint => joint.step (step_acts m event))
    (fun _ joint => joint.lifeState) joint events

theorem roomLifecycle (runtime : JsRuntime) (config : RelayConfig)
    (expectedScore : Int → Int → R) (players : String → Option Player)
    (events : List ManagerEvent) :
    (step runtime config expectedScore).Along
        (fun m event =>
          LifeStep m (step runtime config expectedScore m event))
        (.initial players) events ∧
      (step runtime config expectedScore).Always LifeState
        (.initial players) events ∧
      (onEndLog (step runtime config expectedScore) (.initial players)
        events).Nodup :=
  ⟨along_lifeStep (joint_initial players) events,
    always_lifeState (joint_initial players) events,
    nodup_onEndLog (joint_initial players) events⟩

end RoomManager

end FuryClash.Server
