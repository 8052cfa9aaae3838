import FuryClash.Server.Records

namespace FuryClash.Server

open FuryClash.Data

variable {R : Type} [Field R] [LinearOrder R] [FloorRing R]
  {runtime : JsRuntime} {config : RelayConfig}
  {expectedScore : Int → Int → R}

inductive MatchOutcome where
  | won
  | lost
  | drawn
  deriving DecidableEq

def Winner.outcome : Winner → Slot → MatchOutcome
  | .draw, _ => .drawn
  | .p1, .p1 => .won
  | .p1, .p2 => .lost
  | .p2, .p1 => .lost
  | .p2, .p2 => .won

def MatchRow.winner (row : MatchRow) : Winner :=
  if row.winnerId = some row.player1Id then .p1
  else if row.winnerId = some row.player2Id then .p2
  else .draw

/-- What the row says of the player, once for each seat that is the player's. -/
def MatchRow.outcomes (id : String) (row : MatchRow) : List MatchOutcome :=
  (if row.player1Id = id then [row.winner.outcome .p1] else []) ++
    if row.player2Id = id then [row.winner.outcome .p2] else []

theorem MatchRow.notMem_outcomes (row : MatchRow) {slot : Slot}
    (winner : row.winnerId = some (RoomEnd.playerId row slot)) (id : String) :
    MatchOutcome.drawn ∉ row.outcomes id := by
  have decided : row.winner ≠ .draw := by
    rw [MatchRow.winner, winner]
    cases slot with
    | p1 =>
        rw [RoomEnd.playerId, if_pos rfl]
        decide
    | p2 =>
        split
        next => decide
        next =>
          rw [RoomEnd.playerId, if_pos rfl]
          decide
  rw [MatchRow.outcomes]
  cases shape : row.winner with
  | draw => exact absurd shape decided
  | p1 => split <;> split <;> simp [Winner.outcome]
  | p2 => split <;> split <;> simp [Winner.outcome]

namespace RoomEnd

/-- The matches that the worker has not seen do not count. -/
def outcomes (id : String) (record : RoomEnd) : List MatchOutcome :=
  if record.processed then record.matchRow.toList.flatMap (·.outcomes id)
  else []

end RoomEnd

def Persistence.outcomes (id : String) (db : Persistence) : List MatchOutcome :=
  db.records.flatMap (·.outcomes id)

/-- The counters have moved by the outcomes. -/
structure Standing (first : Player) (outcomes : List MatchOutcome)
    (player : Player) : Prop where
  wins : player.wins = first.wins + outcomes.count .won
  losses : player.losses = first.losses + outcomes.count .lost
  draws : player.draws = first.draws + outcomes.count .drawn
  totalGames : player.totalGames = first.totalGames + outcomes.length

namespace Standing

variable {first player : Player} {outcomes : List MatchOutcome}

theorem start (player : Player) : Standing player [] player :=
  ⟨rfl, rfl, rfl, rfl⟩

theorem perm (standing : Standing first outcomes player)
    {outcomes' : List MatchOutcome} (same : outcomes'.Perm outcomes) :
    Standing first outcomes' player where
  wins := by rw [same.count_eq, standing.wins]
  losses := by rw [same.count_eq, standing.losses]
  draws := by rw [same.count_eq, standing.draws]
  totalGames := by rw [same.length_eq, standing.totalGames]

structure Adds (outcome : MatchOutcome) (player next : Player) : Prop where
  wins : next.wins = player.wins + if outcome = .won then 1 else 0
  losses : next.losses = player.losses + if outcome = .lost then 1 else 0
  draws : next.draws = player.draws + if outcome = .drawn then 1 else 0
  totalGames : next.totalGames = player.totalGames + 1

theorem count_concat (outcomes : List MatchOutcome)
    (outcome which : MatchOutcome) :
    (outcomes ++ [outcome]).count which =
      outcomes.count which + if outcome = which then 1 else 0 := by
  rw [List.count_append, List.count_singleton]
  simp only [beq_iff_eq]

theorem add {outcome : MatchOutcome} {next : Player}
    (standing : Standing first outcomes player)
    (adds : Adds outcome player next) :
    Standing first (outcomes ++ [outcome]) next where
  wins := by
    rw [adds.wins, standing.wins, count_concat, Nat.add_assoc]
  losses := by
    rw [adds.losses, standing.losses, count_concat, Nat.add_assoc]
  draws := by
    rw [adds.draws, standing.draws, count_concat, Nat.add_assoc]
  totalGames := by
    rw [adds.totalGames, standing.totalGames, List.length_append,
      List.length_singleton, Nat.add_assoc]

end Standing

namespace EloJobData

theorem updateP1_adds (expectedScore : Int → Int → R) (job : EloJobData)
    (player : Player) :
    Standing.Adds (job.winner.outcome .p1) player
      (job.updateP1 expectedScore player) := by
  cases shape : job.winner <;> constructor <;>
    simp [updateP1, shape, Winner.outcome]

theorem updateP2_adds (expectedScore : Int → Int → R) (job : EloJobData)
    (player : Player) :
    Standing.Adds (job.winner.outcome .p2) player
      (job.updateP2 expectedScore player) := by
  cases shape : job.winner <;> constructor <;>
    simp [updateP2, shape, Winner.outcome]

end EloJobData

def Stands (players : String → Option Player)
    (outcomes : String → List MatchOutcome) (table : String → Option Player) :
    Prop :=
  ∀ id, ∀ player ∈ table id, ∃ first ∈ players id,
    Standing first (outcomes id) player

namespace Stands

variable {players table : String → Option Player}
  {outcomes outcomes' : String → List MatchOutcome}

theorem perm (stands : Stands players outcomes table)
    (same : ∀ id, (outcomes' id).Perm (outcomes id)) :
    Stands players outcomes' table := by
  intro id player held
  obtain ⟨first, known, standing⟩ := stands id player held
  exact ⟨first, known, standing.perm (same id)⟩

theorem update (stands : Stands players outcomes table) {key : String}
    {outcome : MatchOutcome} {player next : Player}
    (held : table key = some player)
    (adds : Standing.Adds outcome player next) :
    Stands players
      (fun id => outcomes id ++ if key = id then [outcome] else [])
      (Function.update table key (some next)) := by
  intro id found stored
  by_cases here : id = key
  · subst here
    rw [Function.update_self] at stored
    cases stored
    obtain ⟨first, known, standing⟩ := stands id player held
    refine ⟨first, known, ?_⟩
    dsimp only
    rw [if_pos rfl]
    exact standing.add adds
  · rw [Function.update_of_ne here] at stored
    obtain ⟨first, known, standing⟩ := stands id found stored
    refine ⟨first, known, ?_⟩
    dsimp only
    rw [if_neg (Ne.symm here), List.append_nil]
    exact standing

theorem updatePlayers (expectedScore : Int → Int → R)
    (stands : Stands players outcomes table)
    {job : EloJobData} {table' : String → Option Player}
    (updated : job.updatePlayers expectedScore table = some table') :
    Stands players
      (fun id => outcomes id ++
        ((if job.p1Id = id then [job.winner.outcome .p1] else []) ++
          if job.p2Id = id then [job.winner.outcome .p2] else [])) table' := by
  obtain ⟨p1, p2, first, second, rfl⟩ :=
    EloJobData.updatePlayers_eq_some expectedScore updated
  have both := (stands.update first
    (job.updateP1_adds expectedScore p1)).update second
      (job.updateP2_adds expectedScore p2)
  simp only [List.append_assoc] at both
  exact both

end Stands

namespace RoomEnd

structure Filed (record : RoomEnd) : Prop where
  queued : record.processed = true → record.eloJob.isSome = true
  job : ∀ job ∈ record.eloJob, ∃ row ∈ record.matchRow,
    row.player1Id = job.p1Id ∧ row.player2Id = job.p2Id ∧
      row.winnerId = job.winnerId
  winner : ∀ row ∈ record.matchRow,
    row.winnerId = record.ending.payload.winnerSlot.map (playerId row)
  reason : ∀ row ∈ record.matchRow,
    row.endReason = record.ending.payload.reason

variable {record next : RoomEnd}

theorem start_filed (room : RoomRef) (ending : Ending) :
    (start room ending).Filed where
  queued processed := by cases processed
  job _ queued := by cases queued
  winner _ row := by cases row
  reason _ row := by cases row

structure SameFile (record next : RoomEnd) : Prop
    extends SameRow record next where
  ending : next.ending = record.ending

theorem SameFile.refl (record : RoomEnd) : SameFile record record :=
  ⟨.refl record, rfl⟩

theorem SameFile.fail (record : RoomEnd) : SameFile record record.fail :=
  ⟨.fail record, rfl⟩

structure Files (record next : RoomEnd) : Prop where
  room : next.room = record.room
  ending : next.ending = record.ending
  filed : next.Filed
  outcomes : ∀ id, next.outcomes id = record.outcomes id

theorem SameFile.files (same : SameFile record next) (filed : record.Filed) :
    Files record next where
  room := same.room
  ending := same.ending
  filed :=
    { queued := by
        rw [same.processed, same.eloJob]
        exact filed.queued
      job := by
        rw [same.eloJob, same.matchRow]
        exact filed.job
      winner := by
        rw [same.matchRow, same.ending]
        exact filed.winner
      reason := by
        rw [same.matchRow, same.ending]
        exact filed.reason }
  outcomes id := by
    rw [RoomEnd.outcomes, RoomEnd.outcomes, same.processed, same.matchRow]

theorem Files.label (files : Files record next) :
    (next.room, next.ending) = (record.room, record.ending) :=
  Prod.ext files.room files.ending

theorem readPlayer_sameFile (players : String → Option Player) (slot : Slot)
    (ok : Bool) (record : RoomEnd) :
    SameFile record (record.readPlayer players slot ok) := by
  refine ⟨record.readPlayer_sameRow players slot ok, ?_⟩
  unfold readPlayer
  split
  next => rfl
  next =>
    split
    next => rfl
    next => cases ok <;> rfl

theorem addReplayJob_sameFile (ok : Bool) (record : RoomEnd) :
    SameFile record (record.addReplayJob ok) := by
  refine ⟨record.addReplayJob_sameRow ok, ?_⟩
  unfold addReplayJob
  split
  next => rfl
  next => cases ok <;> rfl

theorem Filed.unprocessed (filed : record.Filed)
    (noJob : record.eloJob = none) : record.processed = false := by
  apply Bool.eq_false_iff.mpr
  intro processed
  have queued := filed.queued processed
  rw [noJob] at queued
  cases queued

theorem outcomes_of_unprocessed (unprocessed : record.processed = false)
    (id : String) : record.outcomes id = [] := by
  rw [outcomes, unprocessed]
  exact if_neg Bool.false_ne_true

structure Ending.Inserts (ending : Ending) (row : MatchRow) : Prop where
  winner : row.winnerId = ending.payload.winnerSlot.map (playerId row)
  reason : row.endReason = ending.payload.reason

theorem matchRow_inserts {players : String → Option Player}
    {ending : Ending} {row : MatchRow}
    (inserted : ending.matchRow players = some row) :
    Ending.Inserts ending row := by
  rw [Ending.matchRow] at inserted
  split at inserted
  next p1Id p2Id _ _ =>
    split at inserted
    next =>
      cases inserted
      refine ⟨?_, rfl⟩
      cases ending.payload.winnerSlot with
      | none => rfl
      | some slot => cases slot <;> rfl
    next => cases inserted
  next => cases inserted

theorem createMatch_files (players : String → Option Player) (ok : Bool)
    (filed : record.Filed) : Files record (record.createMatch players ok) := by
  rw [createMatch]
  split
  next => exact (SameFile.refl record).files filed
  next unset =>
    have noRow : record.matchRow = none := by
      cases row : record.matchRow with
      | none => rfl
      | some _ => simp [row] at unset
    have noJob : record.eloJob = none := by
      cases job : record.eloJob with
      | none => rfl
      | some found =>
          obtain ⟨row, held, _⟩ := filed.job found job
          rw [noRow] at held
          cases held
    have unprocessed := filed.unprocessed noJob
    split
    next row inserted =>
      cases ok with
      | false => exact (SameFile.fail record).files filed
      | true =>
          have inserts := matchRow_inserts inserted
          refine ⟨rfl, rfl, ⟨filed.queued, ?_, ?_, ?_⟩, fun id => ?_⟩
          · intro job held
            rw [if_pos rfl, noJob] at held
            cases held
          · rintro _ ⟨⟩
            exact inserts.winner
          · rintro _ ⟨⟩
            exact inserts.reason
          · rw [outcomes_of_unprocessed unprocessed]
            exact @outcomes_of_unprocessed
              { record with matchRow := some row } unprocessed id
    next => exact (SameFile.fail record).files filed

theorem addEloJob_files (ok : Bool) (filed : record.Filed) :
    Files record (record.addEloJob ok) := by
  rw [addEloJob]
  split
  next row p1 p2 held _ _ =>
    split
    next => exact (SameFile.refl record).files filed
    next unset =>
      have noJob : record.eloJob = none := by
        cases job : record.eloJob with
        | none => rfl
        | some _ => simp [job] at unset
      have unprocessed := filed.unprocessed noJob
      cases ok with
      | false => exact (SameFile.fail record).files filed
      | true =>
          refine ⟨rfl, rfl, ⟨fun _ => rfl, ?_, filed.winner, filed.reason⟩,
            fun _ => rfl⟩
          rintro _ ⟨⟩
          exact ⟨row, held, rfl, rfl, rfl⟩
  next => exact (SameFile.refl record).files filed

theorem process_filed (expectedScore : Int → Int → R) {job : EloJobData}
    (queued : record.eloJob = some job) (filed : record.Filed) :
    (record.process expectedScore job).Filed where
  queued _ := by
    rw [RoomEnd.process, queued]
    rfl
  job found held := by
    obtain ⟨row, inserted, ids⟩ := filed.job found held
    refine ⟨job.updateMatch expectedScore row, ?_, ids⟩
    rw [RoomEnd.process, Option.mem_def.mp inserted]
    rfl
  winner row held := by
    obtain ⟨before, inserted, rfl⟩ := Option.map_eq_some_iff.mp held
    exact filed.winner before inserted
  reason row held := by
    obtain ⟨before, inserted, rfl⟩ := Option.map_eq_some_iff.mp held
    exact filed.reason before inserted

theorem outcomes_process (expectedScore : Int → Int → R) {job : EloJobData}
    (queued : record.eloJob = some job) (filed : record.Filed)
    (id : String) : (record.process expectedScore job).outcomes id =
      (if job.p1Id = id then [job.winner.outcome .p1] else []) ++
        if job.p2Id = id then [job.winner.outcome .p2] else [] := by
  obtain ⟨row, inserted, first, second, winner⟩ := filed.job job queued
  have winner : row.winner = job.winner := by
    rw [MatchRow.winner, EloJobData.winner, first, second, winner]
  rw [outcomes, RoomEnd.process, Option.mem_def.mp inserted, ← first,
    ← second, ← winner]
  exact List.append_nil _

end RoomEnd

namespace Persistence

structure Kept (players : String → Option Player) (db : Persistence) :
    Prop where
  stands : Stands players (fun id => db.outcomes id) db.players
  filed : ∀ record ∈ db.records, record.Filed

variable {players : String → Option Player} {db : Persistence}

theorem Kept.update (kept : db.Kept players) {f : RoomEnd → RoomEnd}
    (files : ∀ record, RoomEnd.Filed record → RoomEnd.Files record (f record))
    (matchId : Nat) : (db.update matchId f).Kept players where
  stands := by
    refine kept.stands.perm fun id => ?_
    have same : (db.update matchId f).outcomes id = db.outcomes id := by
      rw [Persistence.outcomes, Persistence.outcomes, List.flatMap_def,
        List.flatMap_def, Persistence.update, map_modify_of_same fun record mem =>
          (files record (kept.filed record mem)).outcomes id]
    rw [same]
  filed := forall_mem_modify (fun record filed => (files record filed).filed)
    kept.filed matchId

theorem Kept.roomEnd (kept : db.Kept players) (room : RoomRef)
    (ending : Ending) : (db.roomEnd room ending).Kept players where
  stands := by
    refine kept.stands.perm fun id => ?_
    rw [Persistence.outcomes, Persistence.roomEnd, List.flatMap_append]
    exact .of_eq (List.append_nil _)
  filed record mem := by
    rcases List.mem_append.mp mem with earlier | last
    · exact kept.filed record earlier
    · cases List.mem_singleton.mp last
      exact RoomEnd.start_filed room ending

theorem Kept.process (expectedScore : Int → Int → R)
    (kept : db.Kept players) (matchId : Nat) :
    (db.processEloJob expectedScore matchId).Kept players := by
  rcases processEloJob_cases expectedScore db matchId with
    idle | ⟨record, job, players', held, queued, unprocessed, updated, next⟩
  · rw [idle]
    exact kept
  have filed := kept.filed record (List.mem_of_getElem? held)
  rw [next]
  refine ⟨?_, forall_mem_set kept.filed
    (RoomEnd.process_filed expectedScore queued filed) matchId⟩
  refine (kept.stands.updatePlayers expectedScore updated).perm fun id => ?_
  rw [← RoomEnd.outcomes_process expectedScore queued filed]
  exact flatMap_set_perm held _
    (RoomEnd.outcomes_of_unprocessed unprocessed id)

theorem Kept.dbStep (expectedScore : Int → Int → R)
    (kept : db.Kept players) (event : DbEvent) :
    (db.dbStep expectedScore event).Kept players := by
  cases event with
  | createMatch matchId ok =>
      exact kept.update (fun _ filed => RoomEnd.createMatch_files _ ok filed)
        matchId
  | readPlayer matchId slot ok =>
      exact kept.update (fun record filed =>
        (record.readPlayer_sameFile db.players slot ok).files filed) matchId
  | addEloJob matchId ok =>
      exact kept.update (fun _ filed => RoomEnd.addEloJob_files ok filed)
        matchId
  | addReplayJob matchId ok =>
      exact kept.update (fun record filed =>
        (record.addReplayJob_sameFile ok).files filed) matchId
  | processEloJob matchId => exact kept.process expectedScore matchId

theorem Kept.labels (expectedScore : Int → Int → R)
    (kept : db.Kept players) (event : DbEvent) :
    (db.dbStep expectedScore event).records.map
        (fun record => (record.room, record.ending)) =
      db.records.map fun record => (record.room, record.ending) := by
  cases event with
  | createMatch matchId ok =>
      exact map_modify_of_same (fun record mem => (RoomEnd.createMatch_files
        db.players ok (kept.filed record mem)).label) matchId
  | readPlayer matchId slot ok =>
      exact map_modify_of_same (fun record mem =>
        ((record.readPlayer_sameFile db.players slot ok).files
          (kept.filed record mem)).label) matchId
  | addEloJob matchId ok =>
      exact map_modify_of_same (fun record mem => (RoomEnd.addEloJob_files ok
        (kept.filed record mem)).label) matchId
  | addReplayJob matchId ok =>
      exact map_modify_of_same (fun record mem =>
        ((record.addReplayJob_sameFile ok).files
          (kept.filed record mem)).label) matchId
  | processEloJob matchId =>
      rw [Persistence.dbStep]
      rcases processEloJob_cases expectedScore db matchId with
        idle | ⟨record, job, players', held, _, _, _, next⟩
      · rw [idle]
      · rw [next, List.map_set]
        refine set_of_getElem? ?_
        rw [List.getElem?_map, held]
        rfl

theorem initial_kept (players : String → Option Player) :
    (initial players).Kept players where
  stands _ player held := ⟨player, held, .start player⟩
  filed _ mem := by cases mem

end Persistence

namespace RoomManager

inductive Leaves (m : RoomManager) (ref : RoomRef) :
    ManagerEvent → Slot → EndReason → Prop where
  | close {ws : SocketRef} {now : Nat} {key : SlotKey}
      (attached : (m.sockets ws).attached = some (ref, key)) :
      Leaves m ref (.close ws now) key.index .disconnect
  | forfeit {loserSlot : Slot} {now : Nat} :
      Leaves m ref (.forfeit ref loserSlot now) loserSlot .forfeit

structure Blames (slot : Slot) (reason : EndReason)
    (payload : MatchEndPayload) : Prop where
  winner : payload.winnerSlot = some slot.other
  reason : payload.reason = reason

inductive Writes (expectedScore : Int → Int → R) (m : RoomManager) :
    ManagerEvent → Persistence → Prop where
  | nothing {event : ManagerEvent} : Writes expectedScore m event m.db
  | ended {event : ManagerEvent} {ref : RoomRef} {slot : Slot}
      {reason : EndReason} {ending : Ending}
      (leaves : m.Leaves ref event slot reason)
      (blames : Blames slot reason ending.payload) :
      Writes expectedScore m event (m.db.roomEnd ref ending)
  | worker {event : DbEvent} :
      Writes expectedScore m (.db event) (m.db.dbStep expectedScore event)

variable {m : RoomManager}

theorem endRoom_db (ref : RoomRef) (outcome : Bool × RelayRoom × Sends)
    (payload : MatchEndPayload) (now : Nat) :
    (m.endRoom config ref outcome payload now).db = m.db ∨
      ∃ ending : Ending, ending.payload = payload ∧
        (m.endRoom config ref outcome payload now).db =
          m.db.roomEnd ref ending := by
  obtain ⟨ended, room, sends⟩ := outcome
  rw [endRoom]
  split
  next =>
    rw [handleRoomEnd]
    split
    next => exact .inl rfl
    next =>
      dsimp only
      split
      next => exact .inl rfl
      next => exact .inr ⟨_, rfl, rfl⟩
  next => exact .inl rfl

theorem close_writes (ws : SocketRef) (now : Nat) :
    Writes expectedScore m (.close ws now) (m.close config ws now).db := by
  rw [close]
  dsimp only
  split
  next => exact .nothing
  next =>
    split
    next => exact .nothing
    next ref key attached =>
      split
      next => exact .nothing
      next room held =>
        rcases endRoom_db ref _ (room.closePayload key) now with
          same | ⟨ending, payload, next⟩
        · rw [same]
          exact .nothing
        · rw [next]
          refine .ended (.close attached) ?_
          rw [payload]
          exact ⟨rfl, rfl⟩

theorem forfeit_writes (ref : RoomRef) (loserSlot : Slot) (now : Nat) :
    Writes expectedScore m (.forfeit ref loserSlot now)
      (m.forfeit config ref loserSlot now).db := by
  rw [forfeit]
  split
  next => exact .nothing
  next room held =>
    split
    next => exact .nothing
    next =>
      rcases endRoom_db ref _ (forfeitPayload loserSlot) now with
        same | ⟨ending, payload, next⟩
      · rw [same]
        exact .nothing
      · rw [next]
        refine .ended .forfeit ?_
        rw [payload]
        exact ⟨rfl, rfl⟩

theorem Moves.writes_of_no_end {event : ManagerEvent} {m' : RoomManager}
    (moves : Moves runtime config expectedScore m event m')
    (noEnd : ∀ ref, ¬ m.Ends ref event) :
    Writes expectedScore m event m'.db := by
  cases moves with
  | idle same _ =>
      rw [same.db]
      exact .nothing
  | create _ _ _ _ db _ =>
      rw [db]
      exact .nothing
  | seat _ _ _ _ _ _ _ _ _ db _ _ _ =>
      rw [db]
      exact .nothing
  | relay _ _ _ _ db _ =>
      rw [db]
      exact .nothing
  | finish ends => exact absurd ends (noEnd _)
  | lose _ _ _ _ _ _ _ db _ =>
      rw [db]
      exact .nothing
  | persist _ _ db _ =>
      rw [db]
      exact .worker

theorem step_writes (m : RoomManager) (event : ManagerEvent) :
    Writes expectedScore m event
      (step runtime config expectedScore m event).db := by
  have moves := @step_moves R _ _ _ runtime config expectedScore m event
  cases event with
  | close ws now =>
      rw [step]
      split
      next => exact .nothing
      next => exact close_writes ws now
  | forfeit ref loserSlot now =>
      rw [step]
      split
      next => exact .nothing
      next => exact forfeit_writes ref loserSlot now
  | createRoom cfg => exact moves.writes_of_no_end fun _ ends => by cases ends
  | message ws data now =>
      exact moves.writes_of_no_end fun _ ends => by cases ends
  | closing ws => exact moves.writes_of_no_end fun _ ends => by cases ends
  | pingTimer ref now =>
      exact moves.writes_of_no_end fun _ ends => by cases ends
  | db event => exact moves.writes_of_no_end fun _ ends => by cases ends

theorem Writes.kept {players : String → Option Player} {event : ManagerEvent}
    {db : Persistence} (writes : Writes expectedScore m event db)
    (kept : m.db.Kept players) : db.Kept players := by
  cases writes with
  | nothing => exact kept
  | ended _ _ => exact kept.roomEnd _ _
  | worker => exact kept.dbStep expectedScore _

def Recorded (m : RoomManager) (item : RoomRef × Ending) : Prop :=
  item ∈ m.db.records.map fun record => (record.room, record.ending)

/-- The ending is the fault of the player whom the event makes leave. -/
def Blamed (m : RoomManager) (event : ManagerEvent)
    (item : RoomRef × Ending) : Prop :=
  ∃ slot reason, m.Leaves item.1 event slot reason ∧
    Blames slot reason item.2.payload

theorem Writes.recorded {players : String → Option Player}
    {event : ManagerEvent} {m' : RoomManager}
    (writes : Writes expectedScore m event m'.db)
    (kept : m.db.Kept players) {item : RoomRef × Ending}
    (recorded : m'.Recorded item) : m.Recorded item ∨ m.Blamed event item := by
  rw [Recorded] at recorded
  generalize m'.db = db at recorded writes
  cases writes with
  | nothing => exact .inl recorded
  | ended leaves blames =>
      rw [Persistence.roomEnd, List.map_append, List.mem_append] at recorded
      rcases recorded with earlier | now
      · exact .inl earlier
      · cases List.mem_singleton.mp now
        exact .inr ⟨_, _, leaves, blames⟩
  | worker =>
      rw [kept.labels] at recorded
      exact .inl recorded

theorem run_kept (players : String → Option Player)
    (events : List ManagerEvent) :
    ((step runtime config expectedScore).run (.initial players)
      events).db.Kept players :=
  Machine.run_invariant (fun m : RoomManager => m.db.Kept players)
    (fun m event kept => (step_writes m event).kept kept)
    (Persistence.initial_kept players) events

/-- The counters are those of the matches on record, and no match is a draw. -/
def StandingsExact (players : String → Option Player) (m : RoomManager) :
    Prop :=
  ∀ id, ∀ player ∈ m.db.players id, ∃ first ∈ players id,
    Standing first (m.db.outcomes id) player ∧ player.draws = first.draws

def Decided (m : RoomManager) : Prop :=
  ∀ item, m.Recorded item → item.2.payload.winnerSlot.isSome = true

theorem decided_step {players : String → Option Player}
    (kept : m.db.Kept players) (decided : m.Decided) (event : ManagerEvent) :
    (step runtime config expectedScore m event).Decided := by
  intro item recorded
  have writes := @step_writes R _ _ _ runtime config expectedScore m event
  rcases writes.recorded kept recorded with earlier | ⟨slot, reason, _, blames⟩
  · exact decided item earlier
  · rw [blames.winner]
    rfl

theorem notMem_outcomes (decided : m.Decided)
    {players : String → Option Player} (kept : m.db.Kept players)
    (id : String) : MatchOutcome.drawn ∉ m.db.outcomes id := by
  intro drawn
  obtain ⟨record, mem, drawn⟩ := List.mem_flatMap.mp drawn
  rw [RoomEnd.outcomes] at drawn
  split at drawn
  next =>
    obtain ⟨row, held, drawn⟩ := List.mem_flatMap.mp drawn
    have held := Option.mem_toList.mp held
    have someone := decided _ (List.mem_map_of_mem mem)
    obtain ⟨slot, won⟩ := Option.isSome_iff_exists.mp someone
    have winner := (kept.filed record mem).winner row held
    rw [won, Option.map_some] at winner
    exact row.notMem_outcomes winner id drawn
  next => cases drawn

/-- In every state of every run the counters of the players are what the
matches that the worker has processed make them. -/
theorem standings_exact (runtime : JsRuntime) (config : RelayConfig)
    (expectedScore : Int → Int → R) (players : String → Option Player)
    (events : List ManagerEvent) :
    (step runtime config expectedScore).Always (StandingsExact players)
      (.initial players) events := by
  refine Machine.always_of_invariant
    (fun m : RoomManager => m.db.Kept players ∧ m.Decided)
    (fun m event inv => ⟨(step_writes m event).kept inv.1,
      decided_step inv.1 inv.2 event⟩) (fun m inv => ?_)
    ⟨Persistence.initial_kept players, fun _ recorded => ?_⟩ events
  · intro id player held
    obtain ⟨first, known, standing⟩ := inv.1.stands id player held
    refine ⟨first, known, standing, ?_⟩
    rw [standing.draws,
      List.count_eq_zero.mpr (notMem_outcomes inv.2 inv.1 id), Nat.add_zero]
  · cases recorded

example : ((step joinRuntime relayConfig evenScore).run (.initial twoPlayers)
    playedMatch).db.outcomes "a" = [.lost] := by
  decide +kernel

/-- Every result on record is a defeat of one who has left the room in the
run, and the row says so. -/
def ResultsBlameLeavers (step : Machine RoomManager ManagerEvent)
    (start : RoomManager) (events : List ManagerEvent) : Prop :=
  ∀ record ∈ (step.run start events).db.records,
    ∃ before event after slot reason, events = before ++ event :: after ∧
      (step.run start before).Leaves record.room event slot reason ∧
      ∀ row ∈ record.matchRow,
        row.winnerId = some (RoomEnd.playerId row slot.other) ∧
          row.endReason = reason

theorem resultsBlameLeavers (runtime : JsRuntime) (config : RelayConfig)
    (expectedScore : Int → Int → R) (players : String → Option Player)
    (events : List ManagerEvent) :
    ResultsBlameLeavers (step runtime config expectedScore)
      (.initial players) events := by
  intro record mem
  have recorded : ((step runtime config expectedScore).run
      (.initial players) events).Recorded (record.room, record.ending) :=
    List.mem_map_of_mem mem
  have filed := (run_kept players events).filed record mem
  rcases Machine.run_origin (fun m : RoomManager => m.db.Kept players)
      (fun m event kept => (step_writes m event).kept kept)
      (fun m event item kept => (step_writes m event).recorded kept)
      (Persistence.initial_kept players) recorded with
    initial | ⟨before, event, after, split, slot, reason, leaves, blames⟩
  · cases initial
  · refine ⟨before, event, after, slot, reason, split, leaves, ?_⟩
    intro row held
    refine ⟨?_, (filed.reason row held).trans blames.reason⟩
    rw [filed.winner row held, blames.winner]
    rfl

end RoomManager

end FuryClash.Server
