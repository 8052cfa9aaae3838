import FuryClash.Server.QueueContract

namespace FuryClash.Server

open FuryClash.Data

namespace Matchmaking

variable {task : Nat} {m : Matchmaking}

theorem keeps_createMatch (config : MatchmakerConfig) (p1 p2 : QueueEntry)
    (region : Region) (m : Matchmaking) :
    Keeps task (fun _ _ => True) (Matcher.createMatch config p1 p2 region)
      m := by
  refine keeps_uuidv4 fun _ roomId mine => ?_
  refine keeps_zrem mine (.nil roomId) fun _ mine removing => ?_
  refine keeps_del mine removing fun _ mine removed => ?_
  refine keeps_zrem mine removed fun _ mine removing => ?_
  refine keeps_del mine removing fun _ mine removed => ?_
  refine keeps_postRoom mine removed fun _ ok => ?_
  cases ok with
  | false => trivial
  | true =>
      refine keeps_calm rfl fun _ _ _ => ?_
      refine keeps_calm rfl fun _ _ _ => ?_
      exact keeps_calm rfl fun _ _ _ => trivial

theorem keeps_pairEntries (config : MatchmakerConfig) (region : Region)
    (entries : List QueueEntry) (matched : List String) (m : Matchmaking) :
    Keeps task (fun _ _ => True)
      (Matcher.pairEntries config region entries matched) m := by
  induction entries generalizing matched m with
  | nil => trivial
  | cons a rest ih =>
      rw [Matcher.pairEntries]
      split
      next => exact ih matched m
      next =>
        refine keeps_calm rfl fun later _ now => ?_
        rw [Async.done_bind]
        split
        next => exact ih matched later
        next b _ =>
          exact (keeps_createMatch config a b region later).bind
            fun _ last _ => ih _ last

theorem keeps_dequeueMembers (region : Region) (members : List String)
    (entries : List QueueEntry) (m : Matchmaking) :
    Keeps task (fun _ _ => True)
      (MatchQueue.dequeueMembers region members entries) m := by
  induction members generalizing entries m with
  | nil => trivial
  | cons playerId members ih =>
      refine keeps_get fun later metaRaw _ _ => ?_
      cases metaRaw with
      | none =>
          exact keeps_calm rfl fun last _ _ => ih entries last
      | some entry => exact ih (entries ++ [entry]) later

theorem keeps_scanRegion (config : MatchmakerConfig) (region : Region)
    (m : Matchmaking) :
    Keeps task (fun _ _ => True) (Matcher.scanRegion config region) m := by
  have dequeued : Keeps task (fun _ _ => True) (MatchQueue.dequeue region) m :=
    keeps_calm rfl
      fun later _ members => keeps_dequeueMembers region members [] later
  refine dequeued.bind fun entries later _ => ?_
  split
  next => trivial
  next => exact keeps_pairEntries config region entries [] later

theorem keeps_scan (config : MatchmakerConfig) (rest : List Region)
    (m : Matchmaking) :
    Keeps task (fun _ _ => True) (Matcher.scanRegions config rest) m := by
  induction rest generalizing m with
  | nil => trivial
  | cons region rest ih =>
      exact (keeps_scanRegion config region m).bind fun _ later _ => ih later

theorem keeps_postQueue (id : String) (body : JoinBody)
    (unwritten : ∀ old ∈ m.joined, old.ticket ≠ task) :
    Keeps task (fun _ _ => True) (postQueue task id body) m := by
  have still {m' : Matchmaking} (growth : Grows task m m') :
      ∀ old ∈ m'.joined, old.ticket ≠ task :=
    fun old mem same => unwritten old (growth.own old mem same) same
  refine keeps_calm rfl fun _ banned rqCount => ?_
  rw [Async.done_bind]
  split
  next => trivial
  refine keeps_calm rfl fun _ checked already => ?_
  rw [Async.done_bind]
  split
  next => trivial
  refine keeps_calm rfl fun _ found player => ?_
  cases player with
  | none => trivial
  | some player =>
      refine keeps_calm rfl fun _ timed queuedAt => ?_
      refine keeps_calm rfl fun _ added _ => ?_
      have growth :=
        (((banned.trans checked).trans found).trans timed).trans added
      refine keeps_set rfl rfl (still growth) fun _ => ?_
      exact keeps_calm rfl fun _ _ _ => trivial

theorem keeps_deleteQueue (id : String) (m : Matchmaking) :
    Keeps task (fun _ _ => True) (deleteQueue id) m := by
  refine keeps_get fun later metaRaw _ read => ?_
  cases metaRaw with
  | none => trivial
  | some entry =>
      obtain ⟨joined, isId⟩ := read entry rfl
      refine keeps_calm rfl fun _ growth _ => ?_
      exact keeps_leave (growth.joined joined) isId fun _ => trivial

theorem keeps_matchmakingCode (config : MatchmakerConfig)
    (what : MatchmakingStart) :
    Keeps task (fun _ _ => True) (matchmakingCode config task what)
      initial := by
  cases what with
  | postQueue id body =>
      exact keeps_postQueue id body fun _ mem => by cases mem
  | deleteQueue id => exact keeps_deleteQueue id initial
  | scan =>
      exact (keeps_scan config regions initial).bind fun _ _ _ => trivial
  | expire id => exact keeps_calm rfl fun _ _ _ => trivial

/-- As long as `createMatch` deletes only what the scan has read, every join
is used once at the most. -/
theorem usedOnce_of_stillQueued (config : MatchmakerConfig)
    (events : List (PoolEvent MatchmakingStart Env))
    (stillQueued : (step config).Along (Pool.Good StillQueued) pool events) :
    (step config).Always (fun pool => UsedOnce pool.shared) pool events := by
  have always := Pool.always_valid initial_valid
    (fun task what => keeps_matchmakingCode config what) stillQueued
  exact always.mono fun pool valid => valid.usedOnce

end Matchmaking

def matchmakerConfig : MatchmakerConfig := ⟨100, 20, 500, "ws://localhost:3002"⟩

def ordinaryEnv : Env := ⟨0, 0, some ⟨"player", 1000⟩, .ok⟩

def goOn (task steps : Nat) : List (PoolEvent MatchmakingStart Env) :=
  List.replicate steps (.resume task ordinaryEnv)

def twoInQueue : List (PoolEvent MatchmakingStart Env) :=
  .start (.postQueue "a" ⟨0, .usEast⟩) :: goOn 0 7 ++
    .start (.postQueue "b" ⟨1, .usEast⟩) :: goOn 1 7

/-- The second scan lists the two before the first has removed them, and asks
for their entries afterwards. -/
def overlappingScans : List (PoolEvent MatchmakingStart Env) :=
  twoInQueue ++ .start .scan :: .start .scan ::
    goOn 2 3 ++ goOn 3 1 ++ goOn 2 6 ++ goOn 3 4 ++ goOn 2 1

theorem usedOnce_of_stillQueued_overlappingScans :
    (Matchmaking.step matchmakerConfig).Always
      (fun pool => pool.shared.UsedOnce) Matchmaking.pool overlappingScans ∧
    ((Matchmaking.step matchmakerConfig).run Matchmaking.pool
      overlappingScans).shared.rooms.map (·.tickets) = [[0, 1]] :=
  ⟨Matchmaking.usedOnce_of_stillQueued matchmakerConfig _ (by decide +kernel),
    by decide +kernel⟩

/-- The second scan reads the queue before the first has removed anything. -/
theorem not_usedOnce_two_scans :
    ¬ (Matchmaking.step matchmakerConfig).Always
      (fun pool => pool.shared.UsedOnce) Matchmaking.pool
      (twoInQueue ++ .start .scan :: .start .scan ::
        goOn 2 3 ++ goOn 3 3 ++ goOn 2 7 ++ goOn 3 7) := by
  intro always
  have once := always.last.once 0
  revert once
  decide +kernel

end FuryClash.Server
