import FuryClash.Server.Persistence

namespace FuryClash.Server

open FuryClash.Data

/-! What one call of `handleRoomEnd` leaves behind when any of its operations
may fail. -/

/-- An operation of the database or of a queue is done, done without an answer
that arrives, or not done. The last two throw. -/
inductive OpResult where
  | done
  | lost
  | refused
  deriving DecidableEq

/-- The results of the five operations, and the players that each of those that
look at them finds. -/
structure RoomEndResults where
  create : OpResult
  read : Slot → OpResult
  addEloJob : OpResult
  addReplayJob : OpResult
  playersAtCreate : String → Option Player
  playersAtRead : Slot → String → Option Player

namespace RoomEnd

def attempt (operation : Bool → RoomEnd → RoomEnd) (result : OpResult)
    (record : RoomEnd) : RoomEnd :=
  match result with
  | .done => operation true record
  | .lost => (operation true record).fail
  | .refused => operation false record

/-- What follows the insertion of the row. -/
def afterCreate (results : RoomEndResults) (record : RoomEnd) : RoomEnd :=
  let record := record.attempt (readPlayer (results.playersAtRead .p1) .p1)
    (results.read .p1)
  let record := record.attempt (readPlayer (results.playersAtRead .p2) .p2)
    (results.read .p2)
  let record := record.attempt addEloJob results.addEloJob
  record.attempt addReplayJob results.addReplayJob

/-- The call from its start to its return; the two reads leave together. -/
def handleRoomEnd (skipDb : Bool) (room : RoomRef) (ending : Ending)
    (results : RoomEndResults) : RoomEnd :=
  let record := start room ending
  if skipDb then record
  else
    let record := record.attempt (createMatch results.playersAtCreate)
      results.create
    record.afterCreate results

def AllOrNothing (record : RoomEnd) : Prop :=
  (record.matchRow.isSome ∧ record.eloJob.isSome ∧ record.replayJob.isSome) ∨
    (record.matchRow = none ∧ record.eloJob = none ∧ record.replayJob = none)

/-- The row is not made, or every operation up to the replay job is done. -/
def NoneOrAllDone (skipDb : Bool) (ending : Ending)
    (results : RoomEndResults) : Prop :=
  skipDb = true ∨ results.create = .refused ∨
    ending.matchRow results.playersAtCreate = none ∨
      results.create = .done ∧ (∀ slot, results.read slot = .done) ∧
        results.addEloJob = .done ∧ results.addReplayJob ≠ .refused

variable {room : RoomRef} {ending : Ending} {results : RoomEndResults}
  {record : RoomEnd} {players : String → Option Player} {slot : Slot}
  {result : OpResult}

theorem attempt_of_failed {operation : Bool → RoomEnd → RoomEnd}
    (skips : ∀ ok, operation ok record = record)
    (failed : record.failed = true) :
    record.attempt operation result = record := by
  have again : record.fail = record := by
    rw [fail, ← failed]
  cases result with
  | done => exact skips true
  | lost => rw [attempt, skips, again]
  | refused => exact skips false

theorem readPlayer_of_failed (failed : record.failed = true) (ok : Bool) :
    record.readPlayer players slot ok = record := by
  rw [readPlayer]
  split
  next => rfl
  next => rw [if_pos (.inl failed)]

theorem addEloJob_of_failed (failed : record.failed = true) (ok : Bool) :
    record.addEloJob ok = record := by
  rw [addEloJob]
  split
  next => rw [if_pos (.inl failed)]
  next => rfl

theorem addReplayJob_of_failed (failed : record.failed = true) (ok : Bool) :
    record.addReplayJob ok = record := by
  rw [addReplayJob, if_pos (.inl failed)]

theorem afterCreate_of_failed (failed : record.failed = true) :
    record.afterCreate results = record := by
  simp only [afterCreate, failed, attempt_of_failed
    (readPlayer_of_failed failed), attempt_of_failed
    (addEloJob_of_failed failed), attempt_of_failed
    (addReplayJob_of_failed failed)]

theorem not_allOrNothing_of_row_only (made : record.matchRow.isSome)
    (no_job : record.eloJob = none) : ¬ record.AllOrNothing := by
  rintro (all | nothing)
  · rw [no_job] at all
    exact absurd all.2.1 (by decide)
  · rw [nothing.1] at made
    exact absurd made (by decide)

theorem jobs_iff {row : MatchRow} {p1 p2 : PlayerRead}
    (made : record.matchRow = some row) (first : record.read .p1 = some p1)
    (second : record.read .p2 = some p2) (no_job : record.eloJob = none)
    (no_replay : record.replayJob = none) (ok : record.failed = false) :
    ((record.attempt addEloJob results.addEloJob).attempt addReplayJob
      results.addReplayJob).AllOrNothing ↔
      results.addEloJob = .done ∧ results.addReplayJob ≠ .refused := by
  cases queued : results.addEloJob with
  | done =>
      cases replay : results.addReplayJob <;>
        simp [attempt, addEloJob, addReplayJob, AllOrNothing, fail, *]
  | lost =>
      rw [attempt_of_failed (addReplayJob_of_failed rfl) rfl]
      simp [attempt, addEloJob, AllOrNothing, fail, *]
  | refused =>
      have failed : (record.addEloJob false).failed = true := by
        simp [addEloJob, fail, *]
      rw [attempt, attempt_of_failed (addReplayJob_of_failed failed) failed]
      simp [addEloJob, AllOrNothing, fail, *]

/-- A read that throws ends the call with the row alone. -/
theorem attempt_read {row : MatchRow} (made : record.matchRow = some row)
    (unread : record.read slot = none) (ok : record.failed = false) :
    (result = .done ∧
      record.attempt (readPlayer players slot) result =
        { record with
          read := Function.update record.read slot
            (some (.ofRow (players (playerId row slot)))) }) ∨
    (result ≠ .done ∧
      (record.attempt (readPlayer players slot) result).failed = true ∧
      (record.attempt (readPlayer players slot) result).matchRow = some row ∧
      (record.attempt (readPlayer players slot) result).eloJob =
        record.eloJob) := by
  cases result with
  | done => exact .inl ⟨rfl, by simp [attempt, readPlayer, *]⟩
  | lost => exact .inr ⟨by decide, by simp [attempt, readPlayer, fail, *]⟩
  | refused => exact .inr ⟨by decide, by simp [attempt, readPlayer, fail, *]⟩

theorem afterCreate_iff {row : MatchRow} (made : record.matchRow = some row)
    (unread : ∀ slot, record.read slot = none) (no_job : record.eloJob = none)
    (no_replay : record.replayJob = none) (ok : record.failed = false) :
    (record.afterCreate results).AllOrNothing ↔
      (∀ slot, results.read slot = .done) ∧ results.addEloJob = .done ∧
        results.addReplayJob ≠ .refused := by
  have stuck {record : RoomEnd} (failed : record.failed = true)
      (row_there : record.matchRow = some row) (jobless : record.eloJob = none) :
      ¬ ((record.attempt addEloJob results.addEloJob).attempt addReplayJob
        results.addReplayJob).AllOrNothing := by
    rw [attempt_of_failed (addEloJob_of_failed failed) failed,
      attempt_of_failed (addReplayJob_of_failed failed) failed]
    exact not_allOrNothing_of_row_only (by rw [row_there]; rfl) jobless
  rw [afterCreate]
  rcases @attempt_read record (results.playersAtRead .p1) .p1
    (results.read .p1) row made (unread .p1) ok with
    ⟨first, read⟩ | ⟨first, failed, row_there, same_job⟩
  · rw [read]
    let between : RoomEnd :=
      { record with
        read := Function.update record.read .p1
          (some (.ofRow (results.playersAtRead .p1 (playerId row .p1)))) }
    have p2_unread : between.read .p2 = none := by
      simp [between, unread]
    rcases @attempt_read between (results.playersAtRead .p2) .p2
      (results.read .p2) row made p2_unread ok with
      ⟨second, read⟩ | ⟨second, failed, row_there, same_job⟩
    · have both (slot : Slot) : results.read slot = .done := by
        cases slot with
        | p1 => exact first
        | p2 => exact second
      have p1_read : (Function.update between.read .p2
          (some (.ofRow (results.playersAtRead .p2 (playerId row .p2))))) .p1 =
          some (.ofRow (results.playersAtRead .p1 (playerId row .p1))) := by
        simp [between]
      have p2_read : (Function.update between.read .p2
          (some (.ofRow (results.playersAtRead .p2 (playerId row .p2))))) .p2 =
          some (.ofRow (results.playersAtRead .p2 (playerId row .p2))) :=
        Function.update_self ..
      rw [read, and_iff_right both]
      exact jobs_iff made p1_read p2_read no_job no_replay ok
    · refine iff_of_false (stuck failed row_there (same_job.trans no_job)) ?_
      exact fun all => second (all.1 .p2)
  · rw [attempt_of_failed (readPlayer_of_failed failed) failed]
    refine iff_of_false (stuck failed row_there (same_job.trans no_job)) ?_
    exact fun all => first (all.1 .p1)

theorem attempt_create_none
    (refused : result = .refused ∨ ending.matchRow players = none) :
    (start room ending).attempt (createMatch players) result =
      (start room ending).fail := by
  have same_ending : (start room ending).ending = ending := rfl
  have new : ¬ ((start room ending).failed = true ∨
    (start room ending).matchRow.isSome = true) := by simp [start]
  have tried (ok : Bool) : ending.matchRow players = none →
      (start room ending).createMatch players ok = (start room ending).fail := by
    intro no_row
    rw [createMatch, if_neg new, same_ending, no_row]
  rcases refused with rfl | no_row
  · rw [attempt, createMatch, if_neg new, same_ending]
    cases ending.matchRow players <;> rfl
  · cases result with
    | done => exact tried true no_row
    | lost => rw [attempt, tried true no_row, fail, fail]
    | refused => exact tried false no_row

theorem createMatch_start {row : MatchRow}
    (there : ending.matchRow players = some row) :
    (start room ending).createMatch players true =
      { start room ending with matchRow := some row } := by
  have same_ending : (start room ending).ending = ending := rfl
  rw [createMatch, if_neg (by simp [start]), same_ending, there]
  rfl

/-- All three exist or none does, exactly if the row is not made or everything
behind it is. -/
theorem allOrNothing_iff (skipDb : Bool) (room : RoomRef) (ending : Ending)
    (results : RoomEndResults) :
    (handleRoomEnd skipDb room ending results).AllOrNothing ↔
      NoneOrAllDone skipDb ending results := by
  rw [handleRoomEnd, NoneOrAllDone]
  cases skipDb with
  | true => exact iff_of_true (.inr ⟨rfl, rfl, rfl⟩) (.inl rfl)
  | false =>
      dsimp only
      rw [if_neg Bool.false_ne_true, or_iff_right Bool.false_ne_true]
      by_cases unmade : results.create = .refused ∨
        ending.matchRow results.playersAtCreate = none
      · rw [attempt_create_none unmade, afterCreate_of_failed rfl]
        refine iff_of_true (.inr ⟨rfl, rfl, rfl⟩) ?_
        exact unmade.imp_right .inl
      · obtain ⟨accepted, some_row⟩ := not_or.mp unmade
        obtain ⟨row, there⟩ := Option.ne_none_iff_exists'.mp some_row
        rw [or_iff_right accepted, or_iff_right some_row]
        cases created : results.create with
        | done =>
            rw [attempt, createMatch_start there, and_iff_right rfl]
            exact afterCreate_iff rfl (fun _ => rfl) rfl rfl rfl
        | lost =>
            rw [attempt, createMatch_start there, afterCreate_of_failed rfl]
            refine iff_of_false (not_allOrNothing_of_row_only rfl rfl) ?_
            exact fun all => absurd all.1 (by decide)
        | refused => exact absurd created accepted

def noReplays : RoomEndResults where
  create := .done
  read _ := .done
  addEloJob := .done
  addReplayJob := .refused
  playersAtCreate _ := some ⟨1000, 0, 0, 0, 0⟩
  playersAtRead _ _ := some ⟨1000, 0, 0, 0, 0⟩

theorem not_allOrNothing_noReplays :
    ¬ (handleRoomEnd false 0
      ⟨pairConfig, ⟨some .p1, .disconnect, 2, 0, 600⟩, 10, []⟩
      noReplays).AllOrNothing := by
  rintro (all | nothing)
  · exact absurd all.2.2 (by decide)
  · exact absurd (congrArg Option.isSome nothing.1) (by decide)

end RoomEnd

theorem modify_concat {α : Type} (l : List α) (last : α) (f : α → α) :
    (l ++ [last]).modify l.length f = l ++ [f last] := by
  induction l with
  | nil => rfl
  | cons first rest ih => exact congrArg (List.cons first) ih

/-- Every answer arrives, and nobody else changes the players. -/
structure RoomEndResults.Undisturbed (results : RoomEndResults)
    (players : String → Option Player) : Prop where
  create : results.create ≠ .lost
  read : ∀ slot, results.read slot ≠ .lost
  addEloJob : results.addEloJob ≠ .lost
  addReplayJob : results.addReplayJob ≠ .lost
  atCreate : results.playersAtCreate = players
  atRead : ∀ slot, results.playersAtRead slot = players

def OpResult.ok (result : OpResult) : Bool := decide (result = .done)

theorem RoomEnd.attempt_answered {operation : Bool → RoomEnd → RoomEnd}
    {result : OpResult} {record : RoomEnd} (answered : result ≠ .lost) :
    record.attempt operation result = operation result.ok record := by
  cases result with
  | done => rfl
  | lost => exact absurd rfl answered
  | refused => rfl

namespace Persistence

def persistEvents (matchId : Nat) (results : RoomEndResults) :
    List PersistenceEvent :=
  [.db (.createMatch matchId results.create.ok),
    .db (.readPlayer matchId .p1 (results.read .p1).ok),
    .db (.readPlayer matchId .p2 (results.read .p2).ok),
    .db (.addEloJob matchId results.addEloJob.ok),
    .db (.addReplayJob matchId results.addReplayJob.ok)]

theorem run_persistEvents {R : Type} [Field R] [LinearOrder R] [FloorRing R]
    (expectedScore : Int → Int → R) (db : Persistence) (room : RoomRef)
    (ending : Ending) {results : RoomEndResults}
    (undisturbed : results.Undisturbed db.players) :
    (Persistence.step expectedScore).run db
        (.roomEnd room ending :: persistEvents db.records.length results) =
      { db with
        records := db.records ++
          [RoomEnd.handleRoomEnd false room ending results] } := by
  obtain ⟨create, read, elo, replay, atCreate, atRead⟩ := undisturbed
  rw [RoomEnd.handleRoomEnd, if_neg Bool.false_ne_true, RoomEnd.afterCreate,
    RoomEnd.attempt_answered create, RoomEnd.attempt_answered (read .p1),
    RoomEnd.attempt_answered (read .p2), RoomEnd.attempt_answered elo,
    RoomEnd.attempt_answered replay, atCreate, atRead, atRead]
  simp only [persistEvents, Machine.run_cons, step, dbStep, roomEnd, update,
    modify_concat]
  rfl

end Persistence

end FuryClash.Server
