import FuryClash.Data.ListUpdate
import FuryClash.Server.Persistence
import Mathlib.Algebra.Order.Ring.Rat
import Mathlib.Data.Rat.Floor

namespace FuryClash.Server

open FuryClash.Data

variable {R : Type} [Field R] [LinearOrder R] [FloorRing R]
  (expectedScore : Int → Int → R)

/-! Stored ratings against the changes recorded on the matches. -/

def RoomEnd.changeOf (id : String) (record : RoomEnd) : Int :=
  match record.matchRow with
  | none => 0
  | some row =>
      (if row.player1Id = id then row.p1EloChange else 0) +
        if row.player2Id = id then row.p2EloChange else 0

namespace Persistence

def recordedChange (id : String) (db : Persistence) : Int :=
  (db.records.map (·.changeOf id)).sum

def AddsUp (players : String → Option Player) (db : Persistence) : Prop :=
  ∀ id, ∀ player ∈ db.players id, ∃ first ∈ players id,
    player.elo = first.elo + db.recordedChange id

/-- The job that the event makes the worker process. -/
def jobOf (db : Persistence) : PersistenceEvent → Option EloJobData
  | .db (.processEloJob matchId) => do
      let record ← db.records[matchId]?
      if record.processed then none else record.eloJob
  | _ => none

def AboveFloor (db : Persistence) (event : PersistenceEvent) : Prop :=
  ∀ job ∈ db.jobOf event,
    100 ≤ job.p1Elo + (job.change expectedScore).p1Delta ∧
      100 ≤ job.p2Elo + (job.change expectedScore).p2Delta

/-- A job that is processed is about two players, and holds the ratings that
are still theirs. -/
def Fresh (db : Persistence) (event : PersistenceEvent) : Prop :=
  ∀ job ∈ db.jobOf event, job.p1Id ≠ job.p2Id ∧
    (∀ player ∈ db.players job.p1Id, player.elo = job.p1Elo) ∧
    ∀ player ∈ db.players job.p2Id, player.elo = job.p2Elo

instance (db : Persistence) (event : PersistenceEvent) :
    Decidable (db.AboveFloor expectedScore event) :=
  inferInstanceAs (Decidable (∀ job ∈ db.jobOf event, _ ∧ _))

instance (db : Persistence) (event : PersistenceEvent) :
    Decidable (db.Fresh event) :=
  inferInstanceAs (Decidable (∀ job ∈ db.jobOf event, _ ∧ _ ∧ _))

end Persistence

namespace RoomEnd

structure SameJob (record next : RoomEnd) : Prop where
  room : next.room = record.room
  eloJob : next.eloJob = record.eloJob
  processed : next.processed = record.processed

structure SameRow (record next : RoomEnd) : Prop
    extends SameJob record next where
  matchRow : next.matchRow = record.matchRow

theorem SameRow.refl (record : RoomEnd) : SameRow record record :=
  ⟨⟨rfl, rfl, rfl⟩, rfl⟩

theorem SameRow.fail (record : RoomEnd) : SameRow record record.fail :=
  ⟨⟨rfl, rfl, rfl⟩, rfl⟩

theorem createMatch_sameJob (players : String → Option Player) (ok : Bool)
    (record : RoomEnd) : SameJob record (record.createMatch players ok) := by
  unfold createMatch
  split
  next => exact (SameRow.refl record).toSameJob
  next =>
    split
    next =>
      split
      next => exact ⟨rfl, rfl, rfl⟩
      next => exact (SameRow.fail record).toSameJob
    next => exact (SameRow.fail record).toSameJob

theorem readPlayer_sameRow (players : String → Option Player) (slot : Slot)
    (ok : Bool) (record : RoomEnd) :
    SameRow record (record.readPlayer players slot ok) := by
  unfold readPlayer
  split
  next => exact .refl record
  next =>
    split
    next => exact .refl record
    next =>
      split
      next => exact ⟨⟨rfl, rfl, rfl⟩, rfl⟩
      next => exact .fail record

theorem addReplayJob_sameRow (ok : Bool) (record : RoomEnd) :
    SameRow record (record.addReplayJob ok) := by
  unfold addReplayJob
  split
  next => exact .refl record
  next =>
    split
    next => exact ⟨⟨rfl, rfl, rfl⟩, rfl⟩
    next => exact .fail record

theorem addEloJob_room (ok : Bool) (record : RoomEnd) :
    (record.addEloJob ok).room = record.room := by
  unfold addEloJob
  split
  next =>
    split
    next => rfl
    next => cases ok <;> rfl
  next => rfl

theorem addEloJob_of_queued (ok : Bool) {record : RoomEnd}
    (queued : record.eloJob.isSome = true) :
    record.addEloJob ok = record := by
  unfold addEloJob
  split
  next => exact if_pos (.inr queued)
  next => rfl

end RoomEnd

structure RoomEnd.Sound (record : RoomEnd) : Prop where
  unprocessed : record.processed = false → ∀ row ∈ record.matchRow,
    row.p1EloChange = 0 ∧ row.p2EloChange = 0
  job : ∀ job ∈ record.eloJob, ∃ row ∈ record.matchRow,
    row.player1Id = job.p1Id ∧ row.player2Id = job.p2Id

namespace RoomEnd

variable {record : RoomEnd}

theorem start_sound (room : RoomRef) (ending : Ending) :
    (start room ending).Sound where
  unprocessed _ _ row := by cases row
  job _ job := by cases job

@[simp] theorem start_changeOf (room : RoomRef) (ending : Ending)
    (id : String) : (start room ending).changeOf id = 0 := rfl

theorem Sound.fail (sound : record.Sound) : record.fail.Sound :=
  ⟨sound.unprocessed, sound.job⟩

theorem Sound.of_sameRow {next : RoomEnd} (sound : record.Sound)
    (same : SameRow record next) : next.Sound where
  unprocessed := by
    rw [same.matchRow, same.processed]
    exact sound.unprocessed
  job := by
    rw [same.matchRow, same.eloJob]
    exact sound.job

theorem SameRow.changeOf {next : RoomEnd} (same : SameRow record next)
    (id : String) : next.changeOf id = record.changeOf id := by
  rw [RoomEnd.changeOf, RoomEnd.changeOf, same.matchRow]

theorem matchRow_changes {players : String → Option Player}
    {ending : Ending} {row : MatchRow}
    (inserted : ending.matchRow players = some row) :
    row.p1EloChange = 0 ∧ row.p2EloChange = 0 := by
  rw [Ending.matchRow] at inserted
  split at inserted
  next =>
    split at inserted
    next =>
      cases inserted
      exact ⟨rfl, rfl⟩
    next => cases inserted
  next => cases inserted

theorem createMatch_sound (players : String → Option Player) (ok : Bool)
    (sound : record.Sound) :
    (record.createMatch players ok).Sound ∧
      ∀ id, (record.createMatch players ok).changeOf id =
        record.changeOf id := by
  rw [createMatch]
  split
  next => exact ⟨sound, fun _ => rfl⟩
  next unset =>
    have noRow : record.matchRow = none := by
      cases row : record.matchRow with
      | none => rfl
      | some _ => simp [row] at unset
    have noJob : record.eloJob = none := by
      cases job : record.eloJob with
      | none => rfl
      | some found =>
          obtain ⟨row, held, _⟩ := sound.job found job
          rw [noRow] at held
          cases held
    split
    next row inserted =>
      cases ok with
      | false => exact ⟨sound.fail, fun _ => rfl⟩
      | true =>
          have zero := matchRow_changes inserted
          refine ⟨⟨?_, ?_⟩, fun id => ?_⟩
          · rintro _ _ ⟨⟩
            exact zero
          · intro job held
            rw [if_pos rfl, noJob] at held
            cases held
          · simp [changeOf, noRow, zero]
    next => exact ⟨sound.fail, fun _ => rfl⟩

theorem addEloJob_sound (ok : Bool) (sound : record.Sound) :
    (record.addEloJob ok).Sound ∧
      ∀ id, (record.addEloJob ok).changeOf id = record.changeOf id := by
  rw [addEloJob]
  split
  next row p1 p2 held _ _ =>
    split
    next => exact ⟨sound, fun _ => rfl⟩
    next =>
      cases ok with
      | false => exact ⟨sound.fail, fun _ => rfl⟩
      | true =>
          refine ⟨⟨sound.unprocessed, ?_⟩, fun _ => rfl⟩
          rintro _ ⟨⟩
          exact ⟨row, held, rfl, rfl⟩
  next => exact ⟨sound, fun _ => rfl⟩

end RoomEnd

structure Persistence.Balanced (players : String → Option Player)
    (db : Persistence) : Prop where
  addsUp : db.AddsUp players
  sound : ∀ record ∈ db.records, record.Sound

namespace Persistence

variable {expectedScore} {players : String → Option Player}
  {db : Persistence}

theorem Balanced.update (balanced : db.Balanced players)
    {f : RoomEnd → RoomEnd}
    (step : ∀ record, record.Sound → (f record).Sound ∧
      ∀ id, (f record).changeOf id = record.changeOf id)
    (matchId : Nat) : (db.update matchId f).Balanced players where
  addsUp id player held := by
    have same : (db.update matchId f).recordedChange id =
        db.recordedChange id := by
      rw [recordedChange, recordedChange, Persistence.update,
        map_modify_of_same fun record mem =>
          (step record (balanced.sound record mem)).2 id]
    rw [same]
    exact balanced.addsUp id player held
  sound := forall_mem_modify (fun record sound => (step record sound).1)
    balanced.sound matchId

theorem Balanced.roomEnd (balanced : db.Balanced players) (room : RoomRef)
    (ending : Ending) : (db.roomEnd room ending).Balanced players where
  addsUp id player held := by
    have same : (db.roomEnd room ending).recordedChange id =
        db.recordedChange id := by
      simp [recordedChange, Persistence.roomEnd]
    rw [same]
    exact balanced.addsUp id player held
  sound record mem := by
    rcases List.mem_append.mp mem with earlier | last
    · exact balanced.sound record earlier
    · cases List.mem_singleton.mp last
      exact RoomEnd.start_sound room ending

/-- The worker finds an unprocessed job and both players, or does nothing. -/
theorem processEloJob_cases (expectedScore : Int → Int → R)
    (db : Persistence) (matchId : Nat) :
    db.processEloJob expectedScore matchId = db ∨
      ∃ record job players', db.records[matchId]? = some record ∧
        record.eloJob = some job ∧ record.processed = false ∧
        job.updatePlayers expectedScore db.players = some players' ∧
        db.processEloJob expectedScore matchId =
          ⟨players', db.records.set matchId
            (record.process expectedScore job)⟩ := by
  rw [processEloJob]
  split
  next => exact .inl rfl
  next record held =>
    split
    next => exact .inl rfl
    next job queued =>
      cases processed : record.processed with
      | true => exact .inl rfl
      | false =>
          rw [if_neg Bool.false_ne_true]
          split
          next => exact .inl rfl
          next players' updated =>
            exact .inr ⟨record, job, players', held, queued, processed,
              updated, rfl⟩

end Persistence

namespace EloJobData

variable {job : EloJobData} {players players' : String → Option Player}

theorem updatePlayers_eq_some
    (updated : job.updatePlayers expectedScore players = some players') :
    ∃ p1 p2, players job.p1Id = some p1 ∧
      Function.update players job.p1Id (some (job.updateP1 expectedScore p1))
        job.p2Id = some p2 ∧
      players' = Function.update
        (Function.update players job.p1Id
          (some (job.updateP1 expectedScore p1)))
        job.p2Id (some (job.updateP2 expectedScore p2)) := by
  simp only [updatePlayers, Bind.bind, Pure.pure] at updated
  obtain ⟨p1, first, updated⟩ := Option.bind_eq_some_iff.mp updated
  obtain ⟨p2, second, updated⟩ := Option.bind_eq_some_iff.mp updated
  exact ⟨p1, p2, first, second, (Option.some.inj updated).symm⟩

theorem updatePlayers_others
    (updated : job.updatePlayers expectedScore players = some players')
    {id : String} (notFirst : id ≠ job.p1Id) (notSecond : id ≠ job.p2Id) :
    players' id = players id := by
  obtain ⟨p1, p2, _, _, rfl⟩ := updatePlayers_eq_some expectedScore updated
  rw [Function.update_of_ne notSecond, Function.update_of_ne notFirst]

/-- With two different players neither update sees the other. -/
theorem updatePlayers_both (differ : job.p1Id ≠ job.p2Id)
    (updated : job.updatePlayers expectedScore players = some players') :
    ∃ p1 p2, players job.p1Id = some p1 ∧ players job.p2Id = some p2 ∧
      players' job.p1Id = some (job.updateP1 expectedScore p1) ∧
      players' job.p2Id = some (job.updateP2 expectedScore p2) := by
  obtain ⟨p1, p2, first, second, rfl⟩ :=
    updatePlayers_eq_some expectedScore updated
  rw [Function.update_of_ne differ.symm] at second
  refine ⟨p1, p2, first, second, ?_, ?_⟩
  · rw [Function.update_of_ne differ, Function.update_self]
  · rw [Function.update_self]

end EloJobData

theorem RoomEnd.Sound.process {record : RoomEnd} {job : EloJobData}
    (sound : record.Sound) : (record.process expectedScore job).Sound where
  unprocessed unprocessed := by cases unprocessed
  job := by
    intro queued held
    obtain ⟨row, inserted, ids⟩ := sound.job queued held
    refine ⟨job.updateMatch expectedScore row, ?_, ids⟩
    rw [RoomEnd.process, Option.mem_def.mp inserted]
    rfl

theorem RoomEnd.Sound.changeOf_process {record : RoomEnd} {job : EloJobData}
    (sound : record.Sound) (queued : record.eloJob = some job) (id : String) :
    (record.process expectedScore job).changeOf id =
      (if job.p1Id = id then (job.change expectedScore).p1Delta else 0) +
        if job.p2Id = id then (job.change expectedScore).p2Delta else 0 := by
  obtain ⟨row, inserted, first, second⟩ := sound.job job queued
  rw [RoomEnd.changeOf, RoomEnd.process, Option.mem_def.mp inserted, ← first,
    ← second]
  rfl

theorem RoomEnd.Sound.changeOf_unprocessed {record : RoomEnd}
    (sound : record.Sound) (unprocessed : record.processed = false)
    (id : String) : record.changeOf id = 0 := by
  rw [RoomEnd.changeOf]
  split
  next => rfl
  next row held =>
    obtain ⟨first, second⟩ := sound.unprocessed unprocessed row held
    simp [first, second]

namespace Persistence

variable {expectedScore} {players : String → Option Player}
  {db : Persistence}

theorem Balanced.process (balanced : db.Balanced players) (matchId : Nat)
    (above : db.AboveFloor expectedScore (.db (.processEloJob matchId)))
    (fresh : db.Fresh (.db (.processEloJob matchId))) :
    (db.processEloJob expectedScore matchId).Balanced players := by
  rcases processEloJob_cases expectedScore db matchId with
    idle | ⟨record, job, players', held, queued, unprocessed, updated, next⟩
  · rw [idle]
    exact balanced
  have sound := balanced.sound record (List.mem_of_getElem? held)
  have chosen : db.jobOf (.db (.processEloJob matchId)) = some job := by
    simp [jobOf, held, unprocessed, queued]
  obtain ⟨p1Above, p2Above⟩ := above job chosen
  obtain ⟨differ, p1Fresh, p2Fresh⟩ := fresh job chosen
  obtain ⟨p1, p2, first, second, first', second'⟩ :=
    EloJobData.updatePlayers_both expectedScore differ updated
  have p1Rating : (job.change expectedScore).p1NewElo =
      p1.elo + (job.change expectedScore).p1Delta := by
    rw [p1Fresh p1 first]
    exact max_eq_right p1Above
  have p2Rating : (job.change expectedScore).p2NewElo =
      p2.elo + (job.change expectedScore).p2Delta := by
    rw [p2Fresh p2 second]
    exact max_eq_right p2Above
  have total (id : String) :
      recordedChange id ⟨players', db.records.set matchId
        (record.process expectedScore job)⟩ =
      db.recordedChange id +
        ((if job.p1Id = id then (job.change expectedScore).p1Delta else 0) +
          if job.p2Id = id then (job.change expectedScore).p2Delta
            else 0) := by
    rw [recordedChange, sum_map_set held, sound.changeOf_process expectedScore queued,
      sound.changeOf_unprocessed unprocessed, recordedChange]
    omega
  rw [next]
  refine ⟨fun id player stored => ?_,
    forall_mem_set balanced.sound (sound.process expectedScore) matchId⟩
  have stored : players' id = some player := stored
  rw [total]
  -- only the job's own players have new ratings
  by_cases isFirst : id = job.p1Id
  · subst isFirst
    cases first'.symm.trans stored
    obtain ⟨start, known, sum⟩ := balanced.addsUp _ p1 first
    refine ⟨start, known, p1Rating.trans ?_⟩
    rw [if_pos rfl, if_neg differ.symm, sum]
    omega
  · by_cases isSecond : id = job.p2Id
    · subst isSecond
      cases second'.symm.trans stored
      obtain ⟨start, known, sum⟩ := balanced.addsUp _ p2 second
      refine ⟨start, known, p2Rating.trans ?_⟩
      rw [if_neg differ, if_pos rfl, sum]
      omega
    · rw [EloJobData.updatePlayers_others expectedScore updated isFirst
        isSecond] at stored
      obtain ⟨start, known, sum⟩ := balanced.addsUp id player stored
      refine ⟨start, known, ?_⟩
      rw [if_neg (Ne.symm isFirst), if_neg (Ne.symm isSecond), sum]
      omega

theorem Balanced.step (balanced : db.Balanced players)
    (event : PersistenceEvent) (above : db.AboveFloor expectedScore event)
    (fresh : db.Fresh event) :
    (Persistence.step expectedScore db event).Balanced players := by
  cases event with
  | roomEnd room ending => exact balanced.roomEnd room ending
  | db event =>
      cases event with
      | createMatch matchId ok =>
          exact balanced.update
            (fun _ sound => RoomEnd.createMatch_sound _ ok sound) matchId
      | readPlayer matchId slot ok =>
          refine balanced.update (fun record sound => ?_) matchId
          have same := record.readPlayer_sameRow db.players slot ok
          exact ⟨sound.of_sameRow same, same.changeOf⟩
      | addEloJob matchId ok =>
          exact balanced.update
            (fun _ sound => RoomEnd.addEloJob_sound ok sound) matchId
      | addReplayJob matchId ok =>
          refine balanced.update (fun record sound => ?_) matchId
          have same := record.addReplayJob_sameRow ok
          exact ⟨sound.of_sameRow same, same.changeOf⟩
      | processEloJob matchId => exact balanced.process matchId above fresh

theorem initial_balanced (players : String → Option Player) :
    (initial players).Balanced players where
  addsUp _ player held := ⟨player, held, (add_zero _).symm⟩
  sound _ mem := by cases mem

/-- In every state of a run in which the worker only takes jobs whose ratings
are still the stored ones, no change is lost. -/
theorem addsUp_of_fresh (players : String → Option Player)
    (events : List PersistenceEvent)
    (above : (Persistence.step expectedScore).Along
      (AboveFloor expectedScore) (initial players) events)
    (fresh : (Persistence.step expectedScore).Along Fresh
      (initial players) events) :
    (Persistence.step expectedScore).Always (AddsUp players)
      (initial players) events :=
  Machine.Along.always (Balanced players)
    (fun _ event balanced good => balanced.step event good.1 good.2)
    (fun _ balanced => balanced.addsUp) (initial_balanced players)
    (above.and fresh)

end Persistence

def twoPlayers : String → Option Player := fun id =>
  if id = "a" ∨ id = "b" then some ⟨1000, 0, 0, 0, 0⟩ else none

def evenScore (_ _ : Int) : ℚ := 1 / 2

def pairEnding : Ending :=
  ⟨pairConfig, ⟨some .p1, .disconnect, 2, 0, 600⟩, 10, []⟩

def persistOne (matchId : Nat) : List PersistenceEvent :=
  [.roomEnd matchId pairEnding, .db (.createMatch matchId true),
    .db (.readPlayer matchId .p1 true), .db (.readPlayer matchId .p2 true),
    .db (.addEloJob matchId true), .db (.addReplayJob matchId true)]

/-- The second match is recorded after the first one has been rated. -/
theorem addsUp_of_fresh_in_turn :
    (Persistence.step evenScore).Always (Persistence.AddsUp twoPlayers)
      (.initial twoPlayers)
      (persistOne 0 ++ .db (.processEloJob 0) :: persistOne 1 ++
        [.db (.processEloJob 1)]) :=
  Persistence.addsUp_of_fresh twoPlayers _ (by decide +kernel)
    (by decide +kernel)

/-- The second match overwrites the rating that the first has written: both
changes are recorded as 16, and the rating has risen by 16. -/
theorem not_addsUp_two_matches :
    ¬ (Persistence.step evenScore).Always (Persistence.AddsUp twoPlayers)
      (.initial twoPlayers)
      (persistOne 0 ++ persistOne 1 ++
        [.db (.processEloJob 0), .db (.processEloJob 1)]) := by
  intro always
  obtain ⟨first, known, sum⟩ :=
    always.last "a" ⟨1016, 2, 0, 0, 2⟩ (by decide +kernel)
  cases known
  revert sum
  decide +kernel

end FuryClash.Server
