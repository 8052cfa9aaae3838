import FuryClash.Data.Tasks
import Mathlib.Data.List.Sort

namespace FuryClash.Server

open FuryClash.Data

/-! The matchmaking queue: what Redis holds of it, the commands on it, and the
functions of `queue.ts` and `routes/matchmaking.ts` that give them. Commands of
one `Promise.all` leave on one connection, in order. -/

inductive Region where
  | usEast
  | usWest
  | euWest
  | apSouth
  | apEast
  deriving DecidableEq

/-- A join of the queue, told by the task that serves its `POST /queue`. The
code knows nothing of it. -/
abbrev Ticket := Nat

/-- The ids that `uuidv4` draws, in order. -/
abbrev RoomId := Nat

structure QueueEntry where
  playerId : String
  username : String
  elo : Int
  fighterId : Nat
  region : Region
  queuedAt : Nat
  ticket : Ticket
  deriving DecidableEq

structure MatchResult where
  roomId : RoomId
  player1 : QueueEntry
  player2 : QueueEntry
  relayEndpoint : String

structure RoomRequest where
  roomId : RoomId
  p1Id : String
  p2Id : String
  p1Fighter : Nat
  p2Fighter : Nat
  deriving DecidableEq

/-- A room that the relay has made, and the joins that it was made for. -/
structure MatchedRoom where
  request : RoomRequest
  tickets : List Ticket
  deriving DecidableEq

structure MatchRoomInfo where
  p1Id : String
  p2Id : String
  createdAt : Nat

inductive Removal where
  | stale
  | matching (roomId : RoomId) (ticket : Ticket)
  | leaving (ticket : Ticket)

/-- The answer to `fetch`: a room is made and the answer is ok, a room is made
and the answer lost, or no room is made. -/
inductive RelayAnswer where
  | ok
  | lost
  | refused
  deriving DecidableEq

structure PlayerRow where
  username : String
  elo : Int

structure Env where
  now : Nat
  ragequits : Nat
  player : Option PlayerRow
  relay : RelayAnswer

inductive QueueCall where
  | llen (id : String)
  | metaExists (id : String)
  | findPlayer (id : String)
  | dateNow
  | zadd (region : Region) (elo : Int) (id : String)
  | set (id : String) (entry : QueueEntry)
  | zrank (region : Region) (id : String)
  | get (id : String)
  | zrangebyscore (region : Region)
  | zrem (region : Region) (id : String) (removal : Removal)
  | del (id : String) (removal : Removal)
  /-- The time to live of the meta key has passed. -/
  | expire (id : String)
  | uuidv4
  | postRoom (request : RoomRequest) (tickets : List Ticket)
  | setMatchRoom (roomId : RoomId) (p1Id p2Id : String)
  | publish (playerId : String) (result : MatchResult)

@[reducible] def QueueCall.Answer : QueueCall → Type
  | .llen _ => Nat
  | .metaExists _ => Bool
  | .findPlayer _ => Option PlayerRow
  | .dateNow => Nat
  | .zrank _ _ => Option Nat
  | .get _ => Option QueueEntry
  | .zrangebyscore _ => List String
  | .uuidv4 => RoomId
  | .postRoom _ _ => Bool
  | _ => Unit

/-- `joined`, `taken`, `left` and `barred` are the history: the entries that
have been written, the joins that were deleted for a room, those whose `DELETE`
has been completed, and those that had been left before the room's
`createMatch` began to remove them. -/
structure Matchmaking where
  queues : Region → List (Int × String)
  metas : String → Option QueueEntry
  drawn : List Nat
  rooms : List MatchedRoom
  matchRooms : List (RoomId × MatchRoomInfo)
  published : List (String × MatchResult)
  joined : List QueueEntry
  taken : List (RoomId × Ticket)
  left : List Ticket
  barred : List (RoomId × Ticket)

abbrev QueueCode := Async QueueCall QueueCall.Answer

inductive ErrorCode where
  | matchAlreadyQueued
  | matchNotInQueue
  | matchBanned
  deriving DecidableEq

def ErrorCode.text : ErrorCode → String
  | .matchAlreadyQueued => "MATCH_001"
  | .matchNotInQueue => "MATCH_002"
  | .matchBanned => "MATCH_005"

structure AppError where
  code : ErrorCode
  message : String
  statusCode : Nat
  deriving DecidableEq

inductive Outcome where
  | queued (position : Option Nat)
  | left
  | refused (error : AppError)
  /-- `findUniqueOrThrow` has found no player. -/
  | notFound
  | scanned
  | expired
  deriving DecidableEq

def scoreLe (a b : Int × String) : Prop :=
  a.1 < b.1 ∨ a.1 = b.1 ∧ a.2 ≤ b.2

instance : DecidableRel scoreLe :=
  fun _ _ => inferInstanceAs (Decidable (_ ∨ _))

namespace Matchmaking

def initial : Matchmaking where
  queues := fun _ => []
  metas := fun _ => none
  drawn := []
  rooms := []
  matchRooms := []
  published := []
  joined := []
  taken := []
  left := []
  barred := []

def withoutMember (id : String) (members : List (Int × String)) :
    List (Int × String) :=
  members.filter fun member => member.2 ≠ id

def zadd (region : Region) (elo : Int) (id : String) (m : Matchmaking) :
    Matchmaking :=
  let others := withoutMember id (m.queues region)
  { m with
    queues := Function.update m.queues region
      (others.orderedInsert scoreLe (elo, id)) }

def zrem (region : Region) (id : String) (m : Matchmaking) : Matchmaking :=
  { m with
    queues := Function.update m.queues region
      (withoutMember id (m.queues region)) }

def zrank (region : Region) (id : String) (m : Matchmaking) : Option Nat :=
  (m.queues region).findIdx? fun member => member.2 = id

def setMeta (id : String) (entry : Option QueueEntry) (m : Matchmaking) :
    Matchmaking :=
  { m with metas := Function.update m.metas id entry }

theorem of_setMeta_none {m : Matchmaking} {id key : String}
    {entry : QueueEntry}
    (entered : (m.setMeta id none).metas key = some entry) :
    m.metas key = some entry := by
  by_cases same : key = id
  · subst same
    simp [setMeta] at entered
  · simpa [setMeta, Function.update_of_ne same] using entered

def noteRemoval (m : Matchmaking) : Removal → Matchmaking
  | .matching roomId ticket =>
      { m with
        barred := if ticket ∈ m.left then (roomId, ticket) :: m.barred
          else m.barred }
  | _ => m

def noteDeletion (m : Matchmaking) : Removal → Matchmaking
  | .matching roomId ticket => { m with taken := (roomId, ticket) :: m.taken }
  | .leaving ticket => { m with left := ticket :: m.left }
  | .stale => m

def postRoom (answer : RelayAnswer) (room : MatchedRoom) (m : Matchmaking) :
    Matchmaking :=
  if answer = .refused then m else { m with rooms := m.rooms ++ [room] }

def exec (task : Nat) (env : Env) :
    (call : QueueCall) → Matchmaking → call.Answer × Matchmaking
  | .llen _, m => (env.ragequits, m)
  | .metaExists id, m => ((m.metas id).isSome, m)
  | .findPlayer _, m => (env.player, m)
  | .dateNow, m => (env.now, m)
  | .zadd region elo id, m => ((), m.zadd region elo id)
  | .set id entry, m =>
      ((), { m.setMeta id (some entry) with joined := entry :: m.joined })
  | .zrank region id, m => (m.zrank region id, m)
  | .get id, m => (m.metas id, m)
  | .zrangebyscore region, m => ((m.queues region).map (·.2), m)
  | .zrem region id removal, m => ((), (m.zrem region id).noteRemoval removal)
  | .del id removal, m => ((), (m.setMeta id none).noteDeletion removal)
  | .expire id, m => ((), m.setMeta id none)
  | .uuidv4, m => (m.drawn.length, { m with drawn := m.drawn ++ [task] })
  | .postRoom request tickets, m =>
      (decide (env.relay = .ok), m.postRoom env.relay ⟨request, tickets⟩)
  | .setMatchRoom roomId p1Id p2Id, m =>
      ((), { m with
        matchRooms := (roomId, ⟨p1Id, p2Id, env.now⟩) :: m.matchRooms })
  | .publish playerId result, m =>
      ((), { m with published := m.published ++ [(playerId, result)] })

end Matchmaking

namespace Redis

def llen (id : String) : QueueCode Nat := .await (.llen id) .done

def metaExists (id : String) : QueueCode Bool := .await (.metaExists id) .done

def zadd (region : Region) (elo : Int) (id : String) : QueueCode Unit :=
  .await (.zadd region elo id) .done

def set (id : String) (entry : QueueEntry) : QueueCode Unit :=
  .await (.set id entry) .done

def zrank (region : Region) (id : String) : QueueCode (Option Nat) :=
  .await (.zrank region id) .done

def get (id : String) : QueueCode (Option QueueEntry) := .await (.get id) .done

def zrangebyscore (region : Region) : QueueCode (List String) :=
  .await (.zrangebyscore region) .done

def zrem (region : Region) (id : String) (removal : Removal) :
    QueueCode Unit :=
  .await (.zrem region id removal) .done

def del (id : String) (removal : Removal) : QueueCode Unit :=
  .await (.del id removal) .done

def expire (id : String) : QueueCode Unit := .await (.expire id) .done

def setMatchRoom (roomId : RoomId) (p1Id p2Id : String) : QueueCode Unit :=
  .await (.setMatchRoom roomId p1Id p2Id) .done

def publish (playerId : String) (result : MatchResult) : QueueCode Unit :=
  .await (.publish playerId result) .done

end Redis

def findPlayer (id : String) : QueueCode (Option PlayerRow) :=
  .await (.findPlayer id) .done

def dateNow : QueueCode Nat := .await .dateNow .done

def uuidv4 : QueueCode RoomId := .await .uuidv4 .done

def postRoom (request : RoomRequest) (tickets : List Ticket) :
    QueueCode Bool :=
  .await (.postRoom request tickets) .done

namespace MatchQueue

def dequeueMembers (region : Region) :
    List String → List QueueEntry → QueueCode (List QueueEntry)
  | [], entries => pure entries
  | playerId :: members, entries => do
      let metaRaw ← Redis.get playerId
      match metaRaw with
      | none => do
          Redis.zrem region playerId .stale
          dequeueMembers region members entries
      | some entry => dequeueMembers region members (entries ++ [entry])

def dequeue (region : Region) : QueueCode (List QueueEntry) := do
  let members ← Redis.zrangebyscore region
  dequeueMembers region members []

def remove (roomId : RoomId) (entry : QueueEntry) : QueueCode Unit := do
  Redis.zrem entry.region entry.playerId
    (.matching roomId entry.ticket)
  Redis.del entry.playerId (.matching roomId entry.ticket)

end MatchQueue

def ragequitLimit : Nat := 3

/-- The body of `POST /queue`, after validation. -/
structure JoinBody where
  fighterId : Nat
  region : Region

def postQueue (ticket : Ticket) (id : String) (body : JoinBody) :
    QueueCode Outcome := do
  let rqCount ← Redis.llen id
  if ragequitLimit ≤ rqCount then
    return .refused ⟨.matchBanned,
      "You are temporarily banned from matchmaking", 403⟩
  let already ← Redis.metaExists id
  if already then
    return .refused ⟨.matchAlreadyQueued, "Already in queue", 400⟩
  let player ← findPlayer id
  match player with
  | none => return .notFound
  | some player => do
      let queuedAt ← dateNow
      let entry : QueueEntry :=
        { playerId := id, username := player.username, elo := player.elo
          fighterId := body.fighterId, region := body.region
          queuedAt := queuedAt, ticket := ticket }
      Redis.zadd body.region player.elo id
      Redis.set id entry
      let position ← Redis.zrank body.region id
      return .queued position

def deleteQueue (id : String) : QueueCode Outcome := do
  let metaRaw ← Redis.get id
  match metaRaw with
  | none => return .refused ⟨.matchNotInQueue, "Not in queue", 400⟩
  | some entry => do
      Redis.zrem entry.region id (.leaving entry.ticket)
      Redis.del id (.leaving entry.ticket)
      return .left

end FuryClash.Server
