import FuryClash.Data.Doubles
import FuryClash.Server.MatchQueue

namespace FuryClash.Server

open FuryClash.Data

/-! `matcher.ts`, and the tasks of the matchmaker and of the routes. -/

structure MatchmakerConfig where
  eloInitialRange : Int
  eloRangeExpansionPerSec : Int
  eloMaxRange : Int
  relayEndpoint : String

def regions : List Region := [.usEast, .usWest, .euWest, .apSouth, .apEast]

def relayEndpointForRegion (_region : Region) (relayBase : String) : String :=
  relayBase

namespace Matcher

variable (config : MatchmakerConfig)

/-- Quotient and product are rounded to doubles. The other numbers are
integers, which a double holds exactly below `2 ^ 53`. -/
def eloRange (entry : QueueEntry) (now : Nat) : Int :=
  let waitSec := roundDouble (((now : Int) - entry.queuedAt : Int) / 1000)
  let expansion := ⌊roundDouble (waitSec * config.eloRangeExpansionPerSec)⌋
  min (config.eloInitialRange + expansion) config.eloMaxRange

def createMatch (p1 p2 : QueueEntry) (region : Region) : QueueCode Unit := do
  let roomId ← uuidv4
  let relay := relayEndpointForRegion region config.relayEndpoint
  MatchQueue.remove roomId p1
  MatchQueue.remove roomId p2
  let ok ← postRoom
    { roomId := roomId, p1Id := p1.playerId, p2Id := p2.playerId
      p1Fighter := p1.fighterId, p2Fighter := p2.fighterId }
    [p1.ticket, p2.ticket]
  if ok then
    let result : MatchResult := ⟨roomId, p1, p2, relay⟩
    Redis.setMatchRoom roomId p1.playerId p2.playerId
    Redis.publish p1.playerId result
    Redis.publish p2.playerId result

def opponent (a : QueueEntry) (range : Int) (matched : List String)
    (rest : List QueueEntry) : Option QueueEntry :=
  rest.find? fun b =>
    b.playerId ∉ matched ∧ ((a.elo - b.elo).natAbs : Int) ≤ range

def pairEntries (region : Region) :
    List QueueEntry → List String → QueueCode Unit
  | [], _ => pure ()
  | a :: rest, matched =>
      if a.playerId ∈ matched then pairEntries region rest matched
      else do
        let now ← dateNow
        match opponent a (eloRange config a now) matched rest with
        | none => pairEntries region rest matched
        | some b => do
            createMatch config a b region
            pairEntries region rest (b.playerId :: a.playerId :: matched)

def scanRegion (region : Region) : QueueCode Unit := do
  let entries ← MatchQueue.dequeue region
  if entries.length < 2 then return ()
  pairEntries config region entries []

def scanRegions : List Region → QueueCode Unit
  | [] => pure ()
  | region :: rest => do
      scanRegion config region
      scanRegions rest

def scan : QueueCode Unit := scanRegions config regions

end Matcher

/-- `scan` is what the interval of the matchmaker starts; the clock of a meta
key can run out at any time. -/
inductive MatchmakingStart where
  | postQueue (id : String) (body : JoinBody)
  | deleteQueue (id : String)
  | scan
  | expire (id : String)

def matchmakingCode (config : MatchmakerConfig) (task : Nat) :
    MatchmakingStart → QueueCode Outcome
  | .postQueue id body => postQueue task id body
  | .deleteQueue id => deleteQueue id
  | .scan => do
      Matcher.scan config
      return .scanned
  | .expire id => do
      Redis.expire id
      return .expired

abbrev MatchmakingPool :=
  Pool Matchmaking QueueCall QueueCall.Answer Outcome

namespace Matchmaking

def step (config : MatchmakerConfig) :
    Machine MatchmakingPool (PoolEvent MatchmakingStart Env) :=
  Pool.step exec (matchmakingCode config)

def pool : MatchmakingPool := ⟨initial, []⟩

end Matchmaking

end FuryClash.Server
