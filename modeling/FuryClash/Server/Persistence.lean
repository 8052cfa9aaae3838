import FuryClash.Data.Run
import FuryClash.Server.Elo
import FuryClash.Server.RelayRoom

namespace FuryClash.Server

open FuryClash.Data

/-! What becomes of a room that has ended: the rest of `handleRoomEnd`, which
stops at every `await`, and the worker of the queue `elo`. Each call of
`handleRoomEnd` is one record; the place of the record is its match id. -/

abbrev RoomRef := Nat

structure Player where
  elo : Int
  wins : Nat
  losses : Nat
  draws : Nat
  totalGames : Nat
  deriving DecidableEq

structure MatchRow where
  player1Id : String
  player2Id : String
  winnerId : Option String
  p1Fighter : JsVal
  p2Fighter : JsVal
  p1EloChange : Int
  p2EloChange : Int
  p1EloAfter : Int
  p2EloAfter : Int
  rounds : List Json
  region : String
  durationSec : Nat
  endReason : EndReason

structure PlayerRead where
  elo : Int
  totalGames : Nat

structure EloJobData where
  p1Id : String
  p2Id : String
  winnerId : Option String
  p1Elo : Int
  p2Elo : Int
  p1TotalGames : Nat
  p2TotalGames : Nat

structure ReplayJobData where
  roomId : JsVal
  inputLog : List InputEntry

structure Ending where
  cfg : RoomConfig
  payload : MatchEndPayload
  durationSec : Nat
  inputLog : List InputEntry

structure RoomEnd where
  room : RoomRef
  ending : Ending
  matchRow : Option MatchRow
  read : Slot → Option PlayerRead
  eloJob : Option EloJobData
  processed : Bool
  replayJob : Option ReplayJobData
  failed : Bool

structure Persistence where
  players : String → Option Player
  records : List RoomEnd

/-- `ok` tells whether the database or the queue did what it was asked. -/
inductive DbEvent where
  | createMatch (matchId : Nat) (ok : Bool)
  | readPlayer (matchId : Nat) (slot : Slot) (ok : Bool)
  | addEloJob (matchId : Nat) (ok : Bool)
  | addReplayJob (matchId : Nat) (ok : Bool)
  | processEloJob (matchId : Nat)

inductive PersistenceEvent where
  | roomEnd (room : RoomRef) (ending : Ending)
  | db (event : DbEvent)

/-- `p1?.elo ?? 1000` and `p1?.totalGames ?? 0`. -/
def PlayerRead.ofRow : Option Player → PlayerRead
  | none => ⟨eloDefault, 0⟩
  | some player => ⟨player.elo, player.totalGames⟩

namespace Ending

/-- The row that is inserted. The ids refer to rows of `Player`. -/
def matchRow (players : String → Option Player) (ending : Ending) :
    Option MatchRow :=
  match ending.cfg.p1Id, ending.cfg.p2Id with
  | some (.string p1Id), some (.string p2Id) =>
      if (players p1Id).isSome ∧ (players p2Id).isSome then
        some
          { player1Id := p1Id
            player2Id := p2Id
            winnerId := match ending.payload.winnerSlot with
              | some .p1 => some p1Id
              | some .p2 => some p2Id
              | none => none
            p1Fighter := ending.cfg.p1Fighter
            p2Fighter := ending.cfg.p2Fighter
            p1EloChange := 0
            p2EloChange := 0
            p1EloAfter := 0
            p2EloAfter := 0
            rounds := []
            region := "us-east"
            durationSec := ending.durationSec
            endReason := ending.payload.reason }
      else none
  | _, _ => none

end Ending

namespace RoomEnd

def start (room : RoomRef) (ending : Ending) : RoomEnd :=
  ⟨room, ending, none, fun _ => none, none, false, none, false⟩

/-- The `catch`. -/
def fail (record : RoomEnd) : RoomEnd := { record with failed := true }

def createMatch (players : String → Option Player) (ok : Bool)
    (record : RoomEnd) : RoomEnd :=
  if record.failed ∨ record.matchRow.isSome then record
  else match record.ending.matchRow players with
    | some row => if ok then { record with matchRow := some row } else record.fail
    | none => record.fail

def playerId (row : MatchRow) : Slot → String
  | .p1 => row.player1Id
  | .p2 => row.player2Id

def readPlayer (players : String → Option Player) (slot : Slot) (ok : Bool)
    (record : RoomEnd) : RoomEnd :=
  match record.matchRow with
  | none => record
  | some row =>
      if record.failed ∨ (record.read slot).isSome then record
      else if ok then
        { record with
          read := Function.update record.read slot
            (some (.ofRow (players (playerId row slot)))) }
      else record.fail

def addEloJob (ok : Bool) (record : RoomEnd) : RoomEnd :=
  match record.matchRow, record.read .p1, record.read .p2 with
  | some row, some p1, some p2 =>
      if record.failed ∨ record.eloJob.isSome then record
      else if ok then
        { record with
          eloJob := some
            { p1Id := row.player1Id
              p2Id := row.player2Id
              winnerId := row.winnerId
              p1Elo := p1.elo
              p2Elo := p2.elo
              p1TotalGames := p1.totalGames
              p2TotalGames := p2.totalGames } }
      else record.fail
  | _, _, _ => record

def addReplayJob (ok : Bool) (record : RoomEnd) : RoomEnd :=
  if record.failed ∨ record.eloJob.isNone ∨ record.replayJob.isSome then record
  else if ok then
    { record with
      replayJob := some ⟨record.ending.cfg.roomId, record.ending.inputLog⟩ }
  else record.fail

end RoomEnd

namespace EloJobData

def winner (job : EloJobData) : Winner :=
  if job.winnerId = some job.p1Id then .p1
  else if job.winnerId = some job.p2Id then .p2
  else .draw

section

variable {R : Type} [Field R] [LinearOrder R] [FloorRing R]
  (expectedScore : Int → Int → R)

def change (job : EloJobData) : EloChange :=
  calculateElo expectedScore job.p1Elo job.p2Elo job.p1TotalGames
    job.p2TotalGames job.winner

def updateP1 (job : EloJobData) (player : Player) : Player where
  elo := (job.change expectedScore).p1NewElo
  totalGames := player.totalGames + 1
  wins := player.wins + if job.winner = .p1 then 1 else 0
  losses := player.losses + if job.winner = .p2 then 1 else 0
  draws := player.draws + if job.winner = .draw then 1 else 0

def updateP2 (job : EloJobData) (player : Player) : Player where
  elo := (job.change expectedScore).p2NewElo
  totalGames := player.totalGames + 1
  wins := player.wins + if job.winner = .p2 then 1 else 0
  losses := player.losses + if job.winner = .p1 then 1 else 0
  draws := player.draws + if job.winner = .draw then 1 else 0

def updateMatch (job : EloJobData) (row : MatchRow) : MatchRow :=
  let change := job.change expectedScore
  { row with
    p1EloChange := change.p1Delta
    p2EloChange := change.p2Delta
    p1EloAfter := change.p1NewElo
    p2EloAfter := change.p2NewElo }

/-- The two updates of players, one after the other; `none` when a row to be
updated does not exist and the transaction is rolled back. -/
def updatePlayers (job : EloJobData) (players : String → Option Player) :
    Option (String → Option Player) := do
  let p1 ← players job.p1Id
  let players := Function.update players job.p1Id
    (some (job.updateP1 expectedScore p1))
  let p2 ← players job.p2Id
  return Function.update players job.p2Id
    (some (job.updateP2 expectedScore p2))

end

end EloJobData

def RoomEnd.process {R : Type} [Field R] [LinearOrder R] [FloorRing R]
    (expectedScore : Int → Int → R) (job : EloJobData) (record : RoomEnd) :
    RoomEnd :=
  { record with
    processed := true
    matchRow := record.matchRow.map (job.updateMatch expectedScore) }

namespace Persistence

variable {R : Type} [Field R] [LinearOrder R] [FloorRing R]
  (expectedScore : Int → Int → R)

def initial (players : String → Option Player) : Persistence := ⟨players, []⟩

def update (matchId : Nat) (f : RoomEnd → RoomEnd) (db : Persistence) :
    Persistence :=
  { db with records := db.records.modify matchId f }

/-- The worker on one job of the queue, in one transaction. -/
def processEloJob (matchId : Nat) (db : Persistence) : Persistence :=
  match db.records[matchId]? with
  | none => db
  | some record =>
      match record.eloJob with
      | none => db
      | some job =>
          if record.processed then db
          else match job.updatePlayers expectedScore db.players with
            | none => db
            | some players =>
                { players := players
                  records :=
                    db.records.set matchId (record.process expectedScore job) }

def dbStep (db : Persistence) : DbEvent → Persistence
  | .createMatch matchId ok =>
      db.update matchId (·.createMatch db.players ok)
  | .readPlayer matchId slot ok =>
      db.update matchId (·.readPlayer db.players slot ok)
  | .addEloJob matchId ok => db.update matchId (·.addEloJob ok)
  | .addReplayJob matchId ok => db.update matchId (·.addReplayJob ok)
  | .processEloJob matchId => db.processEloJob expectedScore matchId

def roomEnd (room : RoomRef) (ending : Ending) (db : Persistence) :
    Persistence :=
  { db with records := db.records ++ [.start room ending] }

def step : Machine Persistence PersistenceEvent
  | db, .roomEnd room ending => db.roomEnd room ending
  | db, .db event => db.dbStep expectedScore event

end Persistence

end FuryClash.Server
