import FuryClash.Server.Lifecycle
import FuryClash.Server.Meeting
import FuryClash.Server.Standings

namespace FuryClash.Server

open FuryClash.Data

namespace RoomManager

section

variable {R : Type} [Field R] [LinearOrder R] [FloorRing R]
  {runtime : JsRuntime} {config : RelayConfig}
  {expectedScore : Int → Int → R} {m m' : RoomManager}

def Quiet (sends : Sends) : Prop :=
  ∀ send ∈ sends, send.2.isFinish = false

def Tells (room : RelayRoom) (payload : MatchEndPayload) (sends : Sends) :
    Prop :=
  ∀ send ∈ sends, send.2.isFinish = true →
    send.2 = .finish payload ∧ room.SitsIn send.1

def labels (m : RoomManager) : List (RoomRef × Ending) :=
  m.db.records.map fun record => (record.room, record.ending)

def TwoRounds (payload : MatchEndPayload) : Prop :=
  payload.p1RoundsWon ≤ 2 ∧ payload.p2RoundsWon ≤ 2

theorem closePayload_twoRounds (room : RelayRoom) (key : SlotKey) :
    TwoRounds (room.closePayload key) := by
  constructor
  · rw [RelayRoom.closePayload]
    dsimp only
    split <;> decide
  · rw [RelayRoom.closePayload]
    dsimp only
    split <;> decide

theorem forfeitPayload_twoRounds (loserSlot : Slot) :
    TwoRounds (forfeitPayload loserSlot) := by
  cases loserSlot with
  | p1 => exact ⟨by decide, by decide⟩
  | p2 => exact ⟨by decide, by decide⟩

inductive Reports (m m' : RoomManager) : Prop where
  | quiet {sends : Sends} (sent : m'.sent = m.sent ++ sends)
      (quiet : Quiet sends)
      (labels : m'.labels = m.labels)
  | ended {ref : RoomRef} {room : RelayRoom} {ending : Ending} {sends : Sends}
      (held : m.created[ref]? = some room) (live : room.state ≠ .closed)
      (sent : m'.sent = m.sent ++ sends)
      (tells : Tells room ending.payload sends)
      (rounds : TwoRounds ending.payload)
      (closes : ∃ room', m'.created[ref]? = some room' ∧
        room'.state = .closed)
      (records : m'.crashed = true ∨ m'.db = m.db.roomEnd ref ending)

theorem tells_openSockets (room : RelayRoom) (isOpen : SocketRef → Bool)
    (payload : MatchEndPayload) :
    Tells room payload ((room.openSockets isOpen).map fun ws =>
      (ws, .finish payload)) := by
  intro send mem _
  obtain ⟨ws, there, rfl⟩ := List.mem_map.mp mem
  exact ⟨rfl, RelayRoom.sitsIn_of_mem_openSockets there⟩

theorem finish_tells {room : RelayRoom} (live : room.state ≠ .closed)
    (isOpen : SocketRef → Bool) (payload : MatchEndPayload) :
    (room.finish isOpen payload).1 = true ∧
      (room.finish isOpen payload).2.1.state = .closed ∧
      Tells room payload (room.finish isOpen payload).2.2 := by
  rw [RelayRoom.finish, if_neg live]
  exact ⟨rfl, rfl, tells_openSockets room isOpen payload⟩

theorem handleClose_tells {room : RelayRoom} (live : room.state ≠ .closed)
    (isOpen : SocketRef → Bool) (key : SlotKey) :
    (room.handleClose isOpen key).1 = true ∧
      (room.handleClose isOpen key).2.1.state = .closed ∧
      Tells room (room.closePayload key) (room.handleClose isOpen key).2.2 := by
  obtain ⟨ended, closes, tells⟩ :=
    finish_tells live isOpen (room.closePayload key)
  rw [RelayRoom.handleClose, if_neg live]
  dsimp only
  refine ⟨ended, closes, fun send mem isFinish => ?_⟩
  rcases List.mem_append.mp mem with notice | told
  · split at notice
    next => cases notice
    next =>
      split at notice
      next =>
        cases List.mem_singleton.mp notice
        cases isFinish
      next => cases notice
  · exact tells send told isFinish

theorem endRoom_reports (database : config.skipDb = false) {ref : RoomRef}
    {room : RelayRoom} (held : m.created[ref]? = some room)
    (live : room.state ≠ .closed) {n : RoomManager} (sent : n.sent = m.sent)
    (created : n.created = m.created) (db : n.db = m.db)
    {outcome : Bool × RelayRoom × Sends} {payload : MatchEndPayload}
    (rounds : TwoRounds payload) (ended : outcome.1 = true)
    (closes : outcome.2.1.state = .closed)
    (tells : Tells room payload outcome.2.2) (now : Nat) :
    Reports m (n.endRoom config ref outcome payload now) := by
  obtain ⟨_, room', sends⟩ := outcome
  cases ended
  have inside : (n.created.set ref room')[ref]? = some room' := by
    rw [created, getElem?_set_of_held held, if_pos rfl]
  rw [endRoom]
  simp only [if_true, handleRoomEnd]
  split
  next =>
    exact @Reports.ended m _ ref room ⟨room.cfg, payload, 0, []⟩ sends held live
      (congrArg (· ++ sends) sent) tells rounds ⟨room', inside, closes⟩
      (.inl rfl)
  next =>
    rw [if_neg (by simp [database])]
    exact @Reports.ended m _ ref room ⟨room'.cfg, payload,
      room'.durationSec now, room'.inputLog.entries⟩ sends held live
      (congrArg (· ++ sends) sent) tells rounds ⟨room', inside, closes⟩
      (.inr (congrArg (Persistence.roomEnd ref _) db))

theorem close_reports (database : config.skipDb = false) (ws : SocketRef)
    (now : Nat) : Reports m (m.close config ws now) := by
  have idle {n : RoomManager} (sent : n.sent = m.sent) (db : n.db = m.db) :
      Reports m n :=
    @Reports.quiet m n [] (sent.trans (List.append_nil _).symm)
      (List.forall_mem_nil _) (by rw [labels, labels, db])
  rw [close]
  dsimp only
  split
  next => exact idle rfl rfl
  next =>
    split
    next => exact idle rfl rfl
    next ref key attached =>
      split
      next => exact idle rfl rfl
      next room held =>
        by_cases closed : room.state = .closed
        · rw [RelayRoom.handleClose, if_pos closed, endRoom_closed held]
          exact idle rfl rfl
        · obtain ⟨ended, closes, tells⟩ := handleClose_tells closed _ key
          refine @endRoom_reports config m database ref room held closed _ ?_
            ?_ ?_ _ _ (closePayload_twoRounds room key) ended closes tells now
          · rfl
          · rfl
          · rfl

theorem forfeit_reports (database : config.skipDb = false) (ref : RoomRef)
    (loserSlot : Slot) (now : Nat) :
    Reports m (m.forfeit config ref loserSlot now) := by
  have idle : Reports m m :=
    @Reports.quiet m m [] (List.append_nil _).symm (List.forall_mem_nil _) rfl
  rw [forfeit]
  split
  next => exact idle
  next room held =>
    split
    next => exact idle
    next =>
      by_cases closed : room.state = .closed
      · rw [RelayRoom.finish, if_pos closed, endRoom_closed held]
        exact idle
      · obtain ⟨ended, closes, tells⟩ := finish_tells closed m.isOpen
          (forfeitPayload loserSlot)
        exact endRoom_reports database held closed rfl rfl rfl
          (forfeitPayload_twoRounds loserSlot) ended closes tells now

theorem acts_quiet {event : ManagerEvent}
    (acts : Acts runtime config m event m' []) :
    ∃ sends, m'.sent = m.sent ++ sends ∧ Quiet sends := by
  cases acts with
  | idle _ _ sent _ _ =>
      exact ⟨[], sent.trans (List.append_nil _).symm, List.forall_mem_nil _⟩
  | create _ _ _ _ sent _ =>
      exact ⟨[], sent.trans (List.append_nil _).symm, List.forall_mem_nil _⟩
  | attach _ _ _ _ attached _ _ sent _ _ _ =>
      exact ⟨_, sent, attach_quiet attached⟩
  | relay _ _ _ handled _ _ sent _ =>
      obtain ⟨relays, _⟩ := RelayRoom.handleMessage_relays handled
      refine ⟨_, sent, fun send mem => ?_⟩
      have isRelayed := relays.relayed send mem
      cases told : send.2 with
      | finish payload =>
          rw [told] at isRelayed
          cases isRelayed
      | _ => rfl
  | ping _ _ _ _ _ sent _ =>
      refine ⟨_, sent, fun send mem => ?_⟩
      rw [(RelayRoom.sendPing_sends mem).1]
      rfl

theorem reports_of_no_end {event : ManagerEvent}
    (acts : Acts runtime config m event m' [])
    (writes : Writes expectedScore m event m'.db)
    {players : String → Option Player} (kept : m.db.Kept players)
    (noEnd : ∀ ref slot reason, ¬ m.Leaves ref event slot reason) :
    Reports m m' := by
  obtain ⟨sends, sent, quiet⟩ := acts_quiet acts
  refine .quiet sent quiet ?_
  rw [labels, labels]
  generalize m'.db = db at writes
  cases writes with
  | nothing => rfl
  | ended leaves _ => exact absurd leaves (noEnd _ _ _)
  | worker => exact kept.labels expectedScore _

theorem step_reports (database : config.skipDb = false)
    {players : String → Option Player} (kept : m.db.Kept players)
    (event : ManagerEvent) :
    Reports m (step runtime config expectedScore m event) := by
  have acts := @step_acts R _ _ _ runtime config expectedScore m event
  have writes := @step_writes R _ _ _ runtime config expectedScore m event
  have idle : Reports m m :=
    @Reports.quiet m m [] (List.append_nil _).symm (List.forall_mem_nil _) rfl
  cases event with
  | close ws now =>
      rw [step]
      split
      next => exact idle
      next => exact close_reports database ws now
  | forfeit ref loserSlot now =>
      rw [step]
      split
      next => exact idle
      next => exact forfeit_reports database ref loserSlot now
  | createRoom cfg =>
      exact reports_of_no_end acts writes kept fun _ _ _ leaves => by
        cases leaves
  | message ws data now =>
      exact reports_of_no_end acts writes kept fun _ _ _ leaves => by
        cases leaves
  | closing ws =>
      exact reports_of_no_end acts writes kept fun _ _ _ leaves => by
        cases leaves
  | pingTimer ref now =>
      exact reports_of_no_end acts writes kept fun _ _ _ leaves => by
        cases leaves
  | db event =>
      exact reports_of_no_end acts writes kept fun _ _ _ leaves => by
        cases leaves

/-- A room is recorded once, and not before it is closed; and whoever has been
told of an end sits in a room for which just that is recorded. -/
structure EndsRecorded (m : RoomManager) : Prop where
  closed : ∀ ref ending, (ref, ending) ∈ m.labels →
    ∃ room, m.created[ref]? = some room ∧ room.state = .closed
  once : ∀ ref ending other, (ref, ending) ∈ m.labels →
    (ref, other) ∈ m.labels → ending = other
  rounds : ∀ ref ending, (ref, ending) ∈ m.labels → TwoRounds ending.payload
  told : ∀ ws payload, (ws, .finish payload) ∈ m.sent →
    ∃ ref key ending, (m.sockets ws).attached = some (ref, key) ∧
      (ref, ending) ∈ m.labels ∧ ending.payload = payload

theorem EndsRecorded.step (database : config.skipDb = false)
    {players : String → Option Player} (kept : m.db.Kept players)
    (joint : m.Joint) (recorded : m.EndsRecorded) {event : ManagerEvent}
    (isNext : m' = RoomManager.step runtime config expectedScore m event)
    (alive : m'.crashed = false) : m'.EndsRecorded := by
  have reports := @step_reports R _ _ _ runtime config expectedScore m database
    players kept event
  have life := (@step_acts R _ _ _ runtime config expectedScore m
    event).lifeStep joint
  have attached {ws : SocketRef} {link : RoomRef × SlotKey}
      (before : (m.sockets ws).attached = some link) :=
    @attached_of_step R _ _ _ runtime config expectedScore m event joint ws
      link before
  rw [← isNext] at reports life attached
  have told_before {ws : SocketRef} {payload : MatchEndPayload}
      (before : (ws, .finish payload) ∈ m.sent) :
      ∃ ref key ending, (m'.sockets ws).attached = some (ref, key) ∧
        (ref, ending) ∈ m.labels ∧ ending.payload = payload := by
    obtain ⟨ref, key, ending, link, label, same⟩ :=
      recorded.told ws payload before
    exact ⟨ref, key, ending, attached link, label, same⟩
  cases reports with
  | quiet sent quiet labels =>
      refine ⟨?_, ?_, ?_, fun ws payload mem => ?_⟩
      · rw [labels]
        exact fun ref ending label =>
          life.closed (recorded.closed ref ending label)
      · rw [labels]
        exact recorded.once
      · rw [labels]
        exact recorded.rounds
      · rw [sent] at mem
        rw [labels]
        rcases List.mem_append.mp mem with before | now
        · exact told_before before
        · cases quiet _ now
  | @ended ref room ending sends held live sent tells rounds closes records =>
      have db := records.resolve_left (by simp [alive])
      have labels : m'.labels = m.labels ++ [(ref, ending)] := by
        rw [RoomManager.labels, db, Persistence.roomEnd, List.map_append]
        rfl
      -- the room was not closed, so nothing had been recorded for it
      have isNew (other : Ending) : (ref, other) ∉ m.labels := by
        intro label
        obtain ⟨_, held', closed⟩ := recorded.closed ref other label
        cases held.symm.trans held'
        exact live closed
      refine ⟨?_, ?_, ?_, fun ws payload mem => ?_⟩
      · intro which other label
        rw [labels] at label
        rcases List.mem_append.mp label with before | now
        · exact life.closed (recorded.closed which other before)
        · cases List.mem_singleton.mp now
          exact closes
      · intro which first second label label'
        rw [labels] at label label'
        rcases List.mem_append.mp label with before | now
        · rcases List.mem_append.mp label' with before' | now'
          · exact recorded.once which first second before before'
          · cases List.mem_singleton.mp now'
            exact absurd before (isNew first)
        · cases List.mem_singleton.mp now
          rcases List.mem_append.mp label' with before' | now'
          · exact absurd before' (isNew second)
          · cases List.mem_singleton.mp now'
            rfl
      · intro which other label
        rw [labels] at label
        rcases List.mem_append.mp label with before | now
        · exact recorded.rounds which other before
        · cases List.mem_singleton.mp now
          exact rounds
      · rw [sent] at mem
        rw [labels]
        rcases List.mem_append.mp mem with before | now
        · obtain ⟨which, key, other, link, label, same⟩ := told_before before
          exact ⟨which, key, other, link, List.mem_append_left _ label, same⟩
        · obtain ⟨same, sits⟩ := tells _ now rfl
          obtain ⟨key, link⟩ := joint.sitsIn held sits
          cases same
          exact ⟨ref, key, ending, attached link,
            List.mem_append_right _ List.mem_cons_self, rfl⟩

theorem endsRecorded_initial (players : String → Option Player) :
    (initial players).EndsRecorded where
  closed _ _ label := by cases label
  once _ _ _ label := by cases label
  rounds _ _ label := by cases label
  told _ _ told := by cases told

structure Reporting (players : String → Option Player) (m : RoomManager) :
    Prop where
  kept : m.db.Kept players
  joint : m.Joint
  recorded : m.crashed = false → m.EndsRecorded

theorem Reporting.step (database : config.skipDb = false)
    {players : String → Option Player} (reporting : m.Reporting players)
    (event : ManagerEvent) :
    (RoomManager.step runtime config expectedScore m event).Reporting
      players where
  kept := (step_writes m event).kept reporting.kept
  joint := reporting.joint.step (step_acts m event)
  recorded alive :=
    EndsRecorded.step database reporting.kept reporting.joint
      (reporting.recorded (running_of_step alive))
      (Eq.refl (RoomManager.step runtime config expectedScore m event)) alive

theorem reporting_initial (players : String → Option Player) :
    (initial players).Reporting players where
  kept := Persistence.initial_kept players
  joint := joint_initial players
  recorded _ := endsRecorded_initial players

end

end RoomManager

end FuryClash.Server
