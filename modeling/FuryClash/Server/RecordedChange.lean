import FuryClash.Server.Ratings

namespace FuryClash.Server

variable {R : Type} [Field R] [LinearOrder R] [FloorRing R]
  (expectedScore : Int → Int → R)

namespace EloJobData

/-- `R' = R + K * (S - E)`, before it is rounded. -/
def exactP1 (job : EloJobData) : R :=
  job.p1Elo + eloK job.p1TotalGames *
    (job.winner.scores.1 - expectedScore job.p1Elo job.p2Elo)

def exactP2 (job : EloJobData) : R :=
  job.p2Elo + eloK job.p2TotalGames *
    (job.winner.scores.2 - (1 - expectedScore job.p1Elo job.p2Elo))

/-- Neither new rating falls below 100 when it is rounded, and one player gets
one rating. -/
structure OffFloor (job : EloJobData) : Prop where
  p1 : 199 / 2 ≤ job.exactP1 expectedScore
  p2 : 199 / 2 ≤ job.exactP2 expectedScore
  same : job.p1Id = job.p2Id →
    mathRound (job.exactP1 expectedScore) =
      mathRound (job.exactP2 expectedScore)

end EloJobData

namespace Persistence

/-- The worker finds the job and everything that it is to update. -/
structure Writes (db : Persistence) (matchId : Nat) (job : EloJobData) :
    Prop where
  queued : ∃ record ∈ db.records[matchId]?, record.eloJob = some job ∧
    record.processed = false ∧ record.matchRow.isSome
  p1 : (db.players job.p1Id).isSome
  p2 : (db.players job.p2Id).isSome

/-- The row adds up, and the players have the ratings of the row. -/
structure RowAgrees (job : EloJobData) (row : MatchRow) (db : Persistence) :
    Prop where
  p1Elo : row.p1EloAfter = job.p1Elo + row.p1EloChange
  p2Elo : row.p2EloAfter = job.p2Elo + row.p2EloChange
  p1Stored : (db.players job.p1Id).map (·.elo) = some row.p1EloAfter
  p2Stored : (db.players job.p2Id).map (·.elo) = some row.p2EloAfter

def ChangeRecorded (db : Persistence) (matchId : Nat) (job : EloJobData) :
    Prop :=
  ∃ record ∈ (db.processEloJob expectedScore matchId).records[matchId]?,
    ∃ row ∈ record.matchRow,
      RowAgrees job row (db.processEloJob expectedScore matchId)

end Persistence

namespace EloJobData

variable (job : EloJobData)

theorem updatePlayers_stored {players : String → Option Player}
    (p1 : (players job.p1Id).isSome) (p2 : (players job.p2Id).isSome) :
    ∃ players', job.updatePlayers expectedScore players = some players' ∧
      (players' job.p1Id).map (·.elo) =
        some (if job.p1Id = job.p2Id then (job.change expectedScore).p2NewElo
          else (job.change expectedScore).p1NewElo) ∧
      (players' job.p2Id).map (·.elo) =
        some (job.change expectedScore).p2NewElo := by
  obtain ⟨first, held⟩ := Option.isSome_iff_exists.mp p1
  obtain ⟨second, held'⟩ : ∃ second, Function.update players job.p1Id
      (some (job.updateP1 expectedScore first)) job.p2Id = some second := by
    by_cases same : job.p2Id = job.p1Id
    · rw [same, Function.update_self]
      exact ⟨_, rfl⟩
    · rw [Function.update_of_ne same]
      exact Option.isSome_iff_exists.mp p2
  refine ⟨Function.update
    (Function.update players job.p1Id
      (some (job.updateP1 expectedScore first)))
    job.p2Id (some (job.updateP2 expectedScore second)), ?_, ?_, ?_⟩
  · simp only [updatePlayers, held, held', Bind.bind, Pure.pure,
      Option.bind_some]
  · split
    next same =>
      rw [same, Function.update_self]
      rfl
    next differ =>
      rw [Function.update_of_ne differ, Function.update_self]
      rfl
  · rw [Function.update_self]
    rfl

end EloJobData

variable [IsStrictOrderedRing R]

/-- The floor does not change a rating that is rounded to 100 or more. -/
theorem max_floor_iff (own : Int) (x : R) :
    max 100 (own + mathRound x) = own + mathRound x ↔
      199 / 2 ≤ (own : R) + x := by
  have half : ((100 : Int) : R) - 1 / 2 = 199 / 2 := by norm_num
  rw [max_eq_right_iff, ← mathRound_intCast_add, le_mathRound_iff, half]

namespace EloJobData

variable (job : EloJobData)

theorem change_p1 : (job.change expectedScore).p1NewElo =
      job.p1Elo + (job.change expectedScore).p1Delta ↔
    199 / 2 ≤ job.exactP1 expectedScore :=
  max_floor_iff ..

theorem change_p2 : (job.change expectedScore).p2NewElo =
      job.p2Elo + (job.change expectedScore).p2Delta ↔
    199 / 2 ≤ job.exactP2 expectedScore :=
  max_floor_iff ..

theorem exact_round :
    mathRound (job.exactP1 expectedScore) =
        job.p1Elo + (job.change expectedScore).p1Delta ∧
      mathRound (job.exactP2 expectedScore) =
        job.p2Elo + (job.change expectedScore).p2Delta :=
  ⟨mathRound_intCast_add .., mathRound_intCast_add ..⟩

end EloJobData

namespace Persistence

/-- The row of the match adds up exactly when the floor has no say. -/
theorem changeRecorded_iff {db : Persistence} {matchId : Nat}
    {job : EloJobData} (writes : db.Writes matchId job) :
    db.ChangeRecorded expectedScore matchId job ↔
      job.OffFloor expectedScore := by
  obtain ⟨record, held, queued, unprocessed, inserted⟩ := writes.queued
  obtain ⟨row, inserted⟩ := Option.isSome_iff_exists.mp inserted
  obtain ⟨players', updated, p1Stored, p2Stored⟩ :=
    job.updatePlayers_stored expectedScore writes.p1 writes.p2
  have processed : db.processEloJob expectedScore matchId =
      ⟨players', db.records.set matchId
        (record.process expectedScore job)⟩ := by
    rw [processEloJob, Option.mem_def.mp held]
    simp only [queued, unprocessed, updated, Bool.false_eq_true, if_false]
  have place : (db.records.set matchId
      (record.process expectedScore job))[matchId]? =
      some (record.process expectedScore job) :=
    List.getElem?_set_self (List.getElem?_eq_some_iff.mp held).1
  have written : (record.process expectedScore job).matchRow =
      some (job.updateMatch expectedScore row) := by
    rw [RoomEnd.process, inserted]
    rfl
  have agrees : db.ChangeRecorded expectedScore matchId job ↔
      RowAgrees job (job.updateMatch expectedScore row)
        ⟨players', db.records.set matchId
          (record.process expectedScore job)⟩ := by
    rw [ChangeRecorded, processed, place]
    simp only [Option.mem_some_iff, exists_eq_left', written]
  obtain ⟨round1, round2⟩ := job.exact_round expectedScore
  rw [agrees]
  constructor
  · intro agrees
    have p1Elo := agrees.p1Elo
    have p2Elo := agrees.p2Elo
    refine ⟨(job.change_p1 expectedScore).mp p1Elo,
      (job.change_p2 expectedScore).mp p2Elo, fun same => ?_⟩
    have stored := Option.some.inj (p1Stored.symm.trans agrees.p1Stored)
    rw [if_pos same] at stored
    rw [round1, round2]
    exact p1Elo.symm.trans (stored.symm.trans p2Elo)
  · intro off
    have p1Elo := (job.change_p1 expectedScore).mpr off.p1
    have p2Elo := (job.change_p2 expectedScore).mpr off.p2
    refine ⟨p1Elo, p2Elo, p1Stored.trans (congrArg some ?_), p2Stored⟩
    split
    next same =>
      have equal := off.same same
      rw [round1, round2] at equal
      exact p2Elo.trans (equal.symm.trans p1Elo.symm)
    next => rfl

end Persistence

def pairAt (rating : Int) : String → Option Player := fun id =>
  if id = "a" ∨ id = "b" then some ⟨rating, 0, 0, 0, 0⟩ else none

def queuedAt (rating : Int) : Persistence :=
  (Persistence.step evenScore).run (.initial (pairAt rating)) (persistOne 0)

def firstWins (rating : Int) : EloJobData :=
  ⟨"a", "b", some "a", rating, rating, 0, 0⟩

theorem queuedAt_writes (rating : Int) :
    (queuedAt rating).Writes 0 (firstWins rating) :=
  ⟨⟨_, rfl, rfl, rfl, rfl⟩, rfl, rfl⟩

theorem changeRecorded_iff_thousand :
    (queuedAt 1000).ChangeRecorded evenScore 0 (firstWins 1000) ↔
      (firstWins 1000).OffFloor evenScore :=
  Persistence.changeRecorded_iff evenScore (queuedAt_writes 1000)

/-- The second player stays at 100, and the row records a change of -16. -/
theorem not_changeRecorded_hundred :
    ¬ (queuedAt 100).ChangeRecorded evenScore 0 (firstWins 100) := by
  rintro ⟨record, held, row, inserted, agrees⟩
  cases held
  cases inserted
  have adds := agrees.p2Elo
  revert adds
  decide +kernel

end FuryClash.Server
