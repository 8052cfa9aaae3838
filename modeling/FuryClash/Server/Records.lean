import FuryClash.Server.Admission
import Mathlib.Data.List.Induction

namespace FuryClash.Server

open FuryClash.Data

variable {R : Type} [Field R] [LinearOrder R] [FloorRing R]
  {runtime : JsRuntime} {config : RelayConfig}
  {expectedScore : Int → Int → R}

namespace Persistence

def Rated (id : String) (record : RoomEnd) : Prop :=
  record.processed = true ∧
    ∃ job ∈ record.eloJob, job.p1Id = id ∨ job.p2Id = id

theorem Rated.of_sameJob {id : String} {record next : RoomEnd}
    (rated : Rated id record) (same : RoomEnd.SameJob record next) :
    Rated id next := by
  rw [Rated, same.processed, same.eloJob]
  exact rated

theorem Rated.addEloJob {id : String} {record : RoomEnd}
    (rated : Rated id record) (ok : Bool) : Rated id (record.addEloJob ok) := by
  have queued : record.eloJob.isSome = true := by
    obtain ⟨_, job, queued, _⟩ := rated
    exact Option.isSome_of_mem queued
  rw [RoomEnd.addEloJob_of_queued ok queued]
  exact rated

variable (db : Persistence)

theorem dbStep_rooms (event : DbEvent) :
    (db.dbStep expectedScore event).records.map (·.room) =
      db.records.map (·.room) := by
  cases event with
  | createMatch matchId ok =>
      exact map_modify_of_same
        (fun record _ => (record.createMatch_sameJob _ ok).room) matchId
  | readPlayer matchId slot ok =>
      exact map_modify_of_same
        (fun record _ => (record.readPlayer_sameRow _ slot ok).room) matchId
  | addEloJob matchId ok =>
      exact map_modify_of_same (fun record _ => record.addEloJob_room ok)
        matchId
  | addReplayJob matchId ok =>
      exact map_modify_of_same
        (fun record _ => (record.addReplayJob_sameRow ok).room) matchId
  | processEloJob matchId =>
      rw [dbStep]
      rcases processEloJob_cases expectedScore db matchId with
        idle | ⟨record, job, players', held, _, _, _, next⟩
      · rw [idle]
      · rw [next, List.map_set]
        refine set_of_getElem? ?_
        rw [List.getElem?_map, held]
        rfl

theorem dbStep_rated {id : String} (event : DbEvent)
    (rated : ∃ record ∈ db.records, Rated id record) :
    ∃ record ∈ (db.dbStep expectedScore event).records, Rated id record := by
  cases event with
  | createMatch matchId ok =>
      exact exists_mem_modify (fun record rated =>
        rated.of_sameJob (record.createMatch_sameJob db.players ok)) rated
        matchId
  | readPlayer matchId slot ok =>
      exact exists_mem_modify (fun record rated => rated.of_sameJob
        (record.readPlayer_sameRow db.players slot ok).toSameJob) rated matchId
  | addEloJob matchId ok =>
      exact exists_mem_modify (fun _ rated => rated.addEloJob ok) rated
        matchId
  | addReplayJob matchId ok =>
      exact exists_mem_modify (fun record rated => rated.of_sameJob
        (record.addReplayJob_sameRow ok).toSameJob) rated matchId
  | processEloJob matchId =>
      rw [dbStep]
      rcases processEloJob_cases expectedScore db matchId with
        idle | ⟨record, job, players', held, _, _, _, next⟩
      · rw [idle]
        exact rated
      · rw [next]
        exact exists_mem_set held (fun old => ⟨rfl, old.2⟩) rated

/-- A rating that a step has moved is the work of a processed job. -/
theorem dbStep_players {id : String} (event : DbEvent)
    (moved : (db.dbStep expectedScore event).players id ≠ db.players id) :
    ∃ record ∈ (db.dbStep expectedScore event).records, Rated id record := by
  cases event with
  | processEloJob matchId =>
      rw [dbStep] at moved ⊢
      rcases processEloJob_cases expectedScore db matchId with
        idle | ⟨record, job, players', held, queued, _, updated, next⟩
      · rw [idle] at moved
        exact (moved rfl).elim
      · rw [next] at moved ⊢
        obtain ⟨bound, _⟩ := List.getElem?_eq_some_iff.mp held
        refine ⟨_, List.mem_set bound _, rfl, job, queued, ?_⟩
        by_contra neither
        rw [not_or] at neither
        exact moved (EloJobData.updatePlayers_others expectedScore updated (Ne.symm neither.1)
          (Ne.symm neither.2))
  | _ => exact (moved rfl).elim

theorem roomEnd_rated {id : String} (room : RoomRef) (ending : Ending)
    (rated : ∃ record ∈ db.records, Rated id record) :
    ∃ record ∈ (db.roomEnd room ending).records, Rated id record := by
  obtain ⟨record, mem, holds⟩ := rated
  exact ⟨record, List.mem_append_left _ mem, holds⟩

end Persistence

def RelayRoom.BothSeated (room : RelayRoom) : Prop :=
  (room.slots .p1).isSome = true ∧ (room.slots .p2).isSome = true

instance (room : RelayRoom) : Decidable room.BothSeated :=
  inferInstanceAs (Decidable (_ ∧ _))

theorem RelayRoom.SameSeats.bothSeated {room room' : RelayRoom}
    (same : room.SameSeats room') (both : room.BothSeated) :
    room'.BothSeated := by
  rw [BothSeated, same.isSome, same.isSome]
  exact both

theorem RelayRoom.BothSeated.taken {room : RelayRoom}
    (both : room.BothSeated) (slot : Slot) :
    (room.slots slot).isSome = true := by
  cases slot with
  | p1 => exact both.1
  | p2 => exact both.2

namespace RelayRoom.Attached

variable {slot playerId fighterId : JsVal} {ws : SocketRef} {key : SlotKey}
  {room room' : RelayRoom}

theorem not_bothSeated
    (attached : room.Attached slot ws playerId fighterId key room') :
    ¬ room.BothSeated := by
  intro both
  have taken := both.taken key.index
  rw [attached.free] at taken
  cases taken

theorem bothSeated_iff
    (attached : room.Attached slot ws playerId fighterId key room') :
    room'.BothSeated ↔ (room.slots key.index.other).isSome = true := by
  rw [BothSeated, attached.slots]
  exact setSlot_both_isSome ..

end RelayRoom.Attached

namespace RoomManager

/-- The sockets that leave, and the forfeits, come to no waiting room. -/
def NoLoneExit (m : RoomManager) : ManagerEvent → Prop
  | .close ws _ => ∀ link ∈ (m.sockets ws).attached,
      ∀ room ∈ m.created[link.1]?, room.state ≠ .waiting
  | .forfeit ref _ _ => ∀ room ∈ m.created[ref]?, room.state ≠ .waiting
  | _ => True

instance (m : RoomManager) :
    (event : ManagerEvent) → Decidable (m.NoLoneExit event)
  | .close _ _ =>
      inferInstanceAs (Decidable (∀ link ∈ _, ∀ room ∈ _, _))
  | .forfeit _ _ _ => inferInstanceAs (Decidable (∀ room ∈ _, _))
  | .createRoom _ => isTrue trivial
  | .message _ _ _ => isTrue trivial
  | .closing _ => isTrue trivial
  | .pingTimer _ _ => isTrue trivial
  | .db _ => isTrue trivial

def BothSeatedAt (m : RoomManager) (ref : RoomRef) : Prop :=
  ∃ room, m.created[ref]? = some room ∧ room.BothSeated

def ActiveAt (m : RoomManager) (ref : RoomRef) : Prop :=
  ∃ room, m.created[ref]? = some room ∧ room.state = .active ∧
    room.BothSeated

def WasActive (step : Machine RoomManager ManagerEvent) (start : RoomManager)
    (events : List ManagerEvent) (ref : RoomRef) : Prop :=
  ∃ earlier later, events = earlier ++ later ∧
    (step.run start earlier).ActiveAt ref

/-- A match row, an ELO job, a replay job and a new rating come from a room
that was active. -/
structure ResultsOfPlayed (step : Machine RoomManager ManagerEvent)
    (start : RoomManager) (events : List ManagerEvent) : Prop where
  recorded : ∀ record ∈ (step.run start events).db.records,
    record.matchRow.isSome ∨ record.eloJob.isSome ∨ record.replayJob.isSome →
      WasActive step start events record.room
  rated : ∀ id,
    (step.run start events).db.players id ≠ start.db.players id →
      ∃ record ∈ (step.run start events).db.records,
        Persistence.Rated id record ∧
          WasActive step start events record.room

variable {m m' : RoomManager} {event : ManagerEvent}

theorem BothSeatedAt.set {ref which : RoomRef} {room room' : RelayRoom}
    (both : m.BothSeatedAt which) (held : m.created[ref]? = some room)
    (created : m'.created = m.created.set ref room')
    (kept : room.BothSeated → room'.BothSeated) : m'.BothSeatedAt which := by
  obtain ⟨found, at_which, seats⟩ := both
  rw [BothSeatedAt, created, getElem?_set_of_held held]
  by_cases same : ref = which
  · subst same
    cases held.symm.trans at_which
    exact ⟨room', if_pos rfl, kept seats⟩
  · exact ⟨found, (if_neg same).trans at_which, seats⟩

theorem BothSeatedAt.of_created {which : RoomRef}
    (both : m.BothSeatedAt which) (created : m'.created = m.created) :
    m'.BothSeatedAt which := by
  rw [BothSeatedAt, created]
  exact both

theorem Moves.bothSeatedAt
    (moves : Moves runtime config expectedScore m event m') {which : RoomRef}
    (both : m.BothSeatedAt which) : m'.BothSeatedAt which := by
  cases moves with
  | idle same _ => exact both.of_created same.created
  | create _ _ _ created _ _ =>
      obtain ⟨room, held, seats⟩ := both
      obtain ⟨bound, _⟩ := List.getElem?_eq_some_iff.mp held
      refine ⟨room, ?_, seats⟩
      rw [created, List.getElem?_append_left bound]
      exact held
  | seat _ _ _ _ held _ attached _ created _ _ _ _ =>
      exact both.set held created fun seats =>
        (attached.not_bothSeated seats).elim
  | relay held same _ created _ _ =>
      exact both.set held created same.bothSeated
  | finish _ held _ _ created _ _ => exact both.set held created id
  | lose _ held _ _ created slots _ _ _ =>
      refine both.set held created fun seats => ?_
      rw [RelayRoom.BothSeated, slots]
      exact seats
  | persist _ created _ _ => exact both.of_created created

theorem Moves.activates
    (moves : Moves runtime config expectedScore m event m') {which : RoomRef}
    (before : ¬ m.BothSeatedAt which) (after : m'.BothSeatedAt which) :
    m'.ActiveAt which := by
  have unchanged {ref : RoomRef} {room room' : RelayRoom}
      (held : m.created[ref]? = some room)
      (created : m'.created = m.created.set ref room')
      (kept : room'.BothSeated → room.BothSeated) : m'.ActiveAt which := by
    refine (before ?_).elim
    obtain ⟨found, at_which, seats⟩ := after
    rw [created, getElem?_set_of_held held] at at_which
    split at at_which
    next same =>
      subst same
      cases at_which
      exact ⟨room, held, kept seats⟩
    next => exact ⟨found, at_which, seats⟩
  cases moves with
  | idle same _ => exact (before (after.of_created same.created.symm)).elim
  | create _ _ _ created _ _ =>
      obtain ⟨room, held, seats⟩ := after
      rw [created] at held
      rcases Nat.lt_or_ge which m.created.length with old | new
      · rw [List.getElem?_append_left old] at held
        exact (before ⟨room, held, seats⟩).elim
      · rw [List.getElem?_append_right new] at held
        cases List.mem_singleton.mp (List.mem_of_getElem? held)
        cases seats.1
  | @seat _ _ _ _ _ ref room room' _ _ _ _ _ _ _ held _ attached _ created _ _
      _ _ =>
      obtain ⟨found, at_which, seats⟩ := after
      rw [created, getElem?_set_of_held held] at at_which
      split at at_which
      next same =>
        subst same
        cases at_which
        refine ⟨room', ?_, ?_, seats⟩
        · rw [created, getElem?_set_of_held held, if_pos rfl]
        · rw [attached.state, if_pos (attached.bothSeated_iff.mp seats)]
      next => exact (before ⟨found, at_which, seats⟩).elim
  | relay held same _ created _ _ =>
      refine unchanged held created fun seats => ?_
      rw [RelayRoom.BothSeated, same.isSome, same.isSome] at seats
      exact seats
  | finish _ held _ _ created _ _ => exact unchanged held created id
  | lose _ held _ _ created slots _ _ _ =>
      refine unchanged held created fun seats => ?_
      rw [RelayRoom.BothSeated, slots] at seats
      exact seats
  | persist _ created _ _ =>
      exact (before (after.of_created created.symm)).elim

theorem wasActive_of_bothSeatedAt {start : RoomManager} {ref : RoomRef}
    (fresh : ¬ start.BothSeatedAt ref) (events : List ManagerEvent)
    (both : ((step runtime config expectedScore).run start
      events).BothSeatedAt ref) :
    WasActive (step runtime config expectedScore) start events ref := by
  induction events using List.reverseRecOn with
  | nil => exact (fresh both).elim
  | append_singleton events event ih =>
      rw [Machine.run_append] at both
      by_cases before : ((step runtime config expectedScore).run start
          events).BothSeatedAt ref
      · obtain ⟨earlier, later, split, active⟩ := ih before
        exact ⟨earlier, later ++ [event], by rw [split, List.append_assoc],
          active⟩
      · refine ⟨events ++ [event], [], (List.append_nil _).symm, ?_⟩
        rw [Machine.run_append]
        exact (step_moves _ event).activates before both

theorem BothSeatedAt.run {ref : RoomRef} (both : m.BothSeatedAt ref)
    (events : List ManagerEvent) :
    ((step runtime config expectedScore).run m events).BothSeatedAt ref :=
  Machine.run_invariant (fun m : RoomManager => m.BothSeatedAt ref)
    (fun m event both => (step_moves m event).bothSeatedAt both) both events

theorem WasActive.bothSeatedAt {start : RoomManager}
    {events : List ManagerEvent} {ref : RoomRef}
    (active : WasActive (step runtime config expectedScore) start events ref) :
    ((step runtime config expectedScore).run start
      events).BothSeatedAt ref := by
  obtain ⟨earlier, later, rfl, room, held, _, both⟩ := active
  rw [Machine.run_append]
  exact BothSeatedAt.run ⟨room, held, both⟩ later

structure OnlyPlayed (players : String → Option Player) (m : RoomManager) :
    Prop where
  rooms : ∀ room ∈ m.created, room.state ≠ .waiting → room.BothSeated
  records : ∀ record ∈ m.db.records, m.BothSeatedAt record.room
  rated : ∀ id, m.db.players id ≠ players id →
    ∃ record ∈ m.db.records, Persistence.Rated id record

variable {players : String → Option Player}

theorem OnlyPlayed.of_db (played : m.OnlyPlayed players)
    (moves : Moves runtime config expectedScore m event m')
    (db : m'.db = m.db)
    (rooms : ∀ room ∈ m'.created, room.state ≠ .waiting → room.BothSeated) :
    m'.OnlyPlayed players where
  rooms := rooms
  records record mem := by
    rw [db] at mem
    exact moves.bothSeatedAt (played.records record mem)
  rated id moved := by
    rw [db] at moved ⊢
    exact played.rated id moved

theorem OnlyPlayed.finish (played : m.OnlyPlayed players)
    (moves : Moves runtime config expectedScore m event m')
    {ref : RoomRef} {room : RelayRoom} {ending : Ending}
    (held : m.created[ref]? = some room) (seats : room.BothSeated)
    (created : m'.created = m.created.set ref
      { room with state := .closed, pingTimer := false })
    (db : m'.db = if config.skipDb then m.db else m.db.roomEnd ref ending) :
    m'.OnlyPlayed players := by
  have rooms : ∀ room ∈ m'.created, room.state ≠ .waiting →
      room.BothSeated := by
    have closed : RelayRoom.BothSeated
        { room with state := .closed, pingTimer := false } := seats
    rw [created]
    exact forall_mem_set played.rooms (fun _ => closed) ref
  split at db
  next => exact played.of_db moves db rooms
  next =>
    refine ⟨rooms, fun record mem => moves.bothSeatedAt ?_,
      fun id moved => ?_⟩
    · rw [db] at mem
      rcases List.mem_append.mp mem with old | new
      · exact played.records record old
      · cases List.mem_singleton.mp new
        exact ⟨room, held, seats⟩
    · rw [db] at moved ⊢
      exact m.db.roomEnd_rated ref ending (played.rated id moved)

theorem OnlyPlayed.persist (played : m.OnlyPlayed players) {event : DbEvent}
    (moves : Moves runtime config expectedScore m (.db event) m')
    (created : m'.created = m.created)
    (db : m'.db = m.db.dbStep expectedScore event) :
    m'.OnlyPlayed players where
  rooms := by
    rw [created]
    exact played.rooms
  records record mem := by
    have sameRooms :=
      @Persistence.dbStep_rooms R _ _ _ expectedScore m.db event
    have kept : record.room ∈ m.db.records.map (·.room) := by
      rw [← sameRooms, ← db]
      exact List.mem_map_of_mem mem
    obtain ⟨old, mem, room⟩ := List.mem_map.mp kept
    rw [← room]
    exact moves.bothSeatedAt (played.records old mem)
  rated id moved := by
    rw [db] at moved ⊢
    by_cases same :
        (m.db.dbStep expectedScore event).players id = m.db.players id
    · rw [same] at moved
      exact m.db.dbStep_rated event (played.rated id moved)
    · exact m.db.dbStep_players event same

theorem OnlyPlayed.step (played : m.OnlyPlayed players)
    (noLoneExit : m.NoLoneExit event)
    (moves : Moves runtime config expectedScore m event m') :
    m'.OnlyPlayed players := by
  have unmoved (created : m'.created = m.created) :
      ∀ room ∈ m'.created, room.state ≠ .waiting → room.BothSeated := by
    rw [created]
    exact played.rooms
  cases id moves with
  | idle same _ => exact played.of_db moves same.db (unmoved same.created)
  | create _ _ _ created db _ =>
      refine played.of_db moves db ?_
      rw [created]
      intro room mem notWaiting
      rcases List.mem_append.mp mem with old | new
      · exact played.rooms room old notWaiting
      · cases List.mem_singleton.mp new
        exact (notWaiting rfl).elim
  | @seat _ _ _ _ _ ref room _ key _ _ _ _ _ _ held _ attached _ created db _
      _ _ =>
      refine played.of_db moves db ?_
      rw [created]
      refine forall_mem_set played.rooms (fun notWaiting => ?_) ref
      rw [attached.bothSeated_iff]
      by_contra alone
      rw [attached.state, if_neg alone] at notWaiting
      exact attached.not_bothSeated
        (played.rooms room (List.mem_of_getElem? held) notWaiting)
  | @relay _ _ _ ref room _ _ held same _ created db _ =>
      refine played.of_db moves db ?_
      rw [created]
      refine forall_mem_set played.rooms (fun notWaiting => ?_) ref
      rw [same.state] at notWaiting
      exact same.bothSeated
        (played.rooms room (List.mem_of_getElem? held) notWaiting)
  | finish ends held _ _ created db _ =>
      refine played.finish moves held ?_ created db
      refine played.rooms _ (List.mem_of_getElem? held) ?_
      cases ends with
      | close attached _ => exact noLoneExit _ attached _ held
      | forfeit => exact noLoneExit _ held
  | @lose _ _ ref _ _ _ _ attached held _ _ created slots _ db _ =>
      refine played.of_db moves db ?_
      rw [created]
      refine forall_mem_set played.rooms (fun _ => ?_) ref
      rw [RelayRoom.BothSeated, slots]
      exact played.rooms _ (List.mem_of_getElem? held)
        (noLoneExit _ attached _ held)
  | persist _ created db _ => exact played.persist moves created db

theorem initial_onlyPlayed (players : String → Option Player) :
    (initial players).OnlyPlayed players where
  rooms _ mem := by cases mem
  records _ mem := by cases mem
  rated _ moved := (moved rfl).elim

/-- In a run in which no player leaves a waiting room, results come from
matches that were played. -/
theorem resultsOfPlayed_of_noLoneExit (players : String → Option Player)
    (events : List ManagerEvent)
    (noLoneExit : (RoomManager.step runtime config expectedScore).Along
      NoLoneExit (.initial players) events) :
    ResultsOfPlayed (RoomManager.step runtime config expectedScore)
      (.initial players) events := by
  have played := Machine.Along.invariant (OnlyPlayed players)
    (fun m event played good => played.step good (step_moves m event))
    (initial_onlyPlayed players) noLoneExit
  have fresh (ref : RoomRef) : ¬ (initial players).BothSeatedAt ref := by
    rintro ⟨room, held, _⟩
    cases held
  have active (record : RoomEnd) (mem : record ∈
      ((RoomManager.step runtime config expectedScore).run
        (.initial players) events).db.records) :=
    wasActive_of_bothSeatedAt (fresh record.room) events
      (played.records record mem)
  refine ⟨fun record mem _ => active record mem, fun id moved => ?_⟩
  obtain ⟨record, mem, rated⟩ := played.rated id moved
  exact ⟨record, mem, rated, active record mem⟩

end RoomManager

def persistFirst : List ManagerEvent :=
  [.db (.createMatch 0 true), .db (.readPlayer 0 .p1 true),
    .db (.readPlayer 0 .p2 true), .db (.addEloJob 0 true),
    .db (.addReplayJob 0 true), .db (.processEloJob 0)]

def playedMatch : List ManagerEvent :=
  [.createRoom (roomJson "room" "a" "b"), .message 0 (joinBytes "a" "0") 1,
    .message 1 (joinBytes "b" "1") 2, .close 0 3] ++ persistFirst

theorem resultsOfPlayed_of_noLoneExit_one_match :
    RoomManager.ResultsOfPlayed
      (RoomManager.step joinRuntime relayConfig evenScore)
      (.initial twoPlayers) playedMatch :=
  RoomManager.resultsOfPlayed_of_noLoneExit twoPlayers _ (by decide +kernel)

def loneExit : List ManagerEvent :=
  [.createRoom (roomJson "room" "a" "b"), .message 0 (joinBytes "a" "0") 1,
    .close 0 2] ++ persistFirst

/-- The player who waited alone has lost 16 points to one who never came. -/
theorem not_resultsOfPlayed_lone_exit :
    ¬ RoomManager.ResultsOfPlayed
      (RoomManager.step joinRuntime relayConfig evenScore)
      (.initial twoPlayers) loneExit := by
  intro results
  have lost : ((RoomManager.step joinRuntime relayConfig evenScore).run
      (.initial twoPlayers) loneExit).db.players "a" =
        some ⟨984, 0, 1, 0, 1⟩ := by
    decide +kernel
  have moved : ((RoomManager.step joinRuntime relayConfig evenScore).run
      (.initial twoPlayers) loneExit).db.players "a" ≠
        (RoomManager.initial twoPlayers).db.players "a" := by
    rw [lost]
    decide +kernel
  obtain ⟨record, _, _, active⟩ := results.rated "a" moved
  obtain ⟨room, held, both⟩ := active.bothSeatedAt
  have alone : ((RoomManager.step joinRuntime relayConfig evenScore).run
      (.initial twoPlayers) loneExit).created.all
        (fun room => decide (¬ room.BothSeated)) = true := by
    decide +kernel
  have single := List.all_eq_true.mp alone room (List.mem_of_getElem? held)
  exact of_decide_eq_true single both

end FuryClash.Server
