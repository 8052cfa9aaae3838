import FuryClash.Server.RegionQueues
import FuryClash.Server.Tickets

namespace FuryClash.Server

open FuryClash.Data

/-! In how many regions a player waits, and whom a match of a region is made
of. -/

namespace RegionQueues

variable {task : Nat} {region : Region} {entries : List QueueEntry}
  {s : RegionQueues}

theorem keeps_createMatch (config : MatchmakerConfig) {p1 p2 : QueueEntry}
    (first : p1 ∈ entries) (second : p2 ∈ entries)
    (scanning : Scanning task region entries s) :
    Keeps task (fun _ => Scanning task region entries)
      (Matcher.createMatch config p1 p2 region) s := by
  have ofEntries : ∀ ticket ∈ [p1.ticket, p2.ticket],
      ∃ entry ∈ entries, entry.ticket = ticket := by
    intro ticket mem
    rcases List.mem_cons.mp mem with rfl | mem
    · exact ⟨p1, first, rfl⟩
    · cases List.mem_singleton.mp mem
      exact ⟨p2, second, rfl⟩
  refine keeps_quiet rfl fun _ drawn _ => ?_
  refine keeps_quiet rfl fun _ left1 _ => ?_
  refine keeps_quiet rfl fun _ deleted1 _ => ?_
  refine keeps_quiet rfl fun _ left2 _ => ?_
  refine keeps_quiet rfl fun _ deleted2 _ => ?_
  have growth :=
    (((drawn.trans left1).trans deleted1).trans left2).trans deleted2
  refine keeps_postRoom (scanning.mono growth) ofEntries
    fun _ ok scanning => ?_
  cases ok with
  | false => exact scanning
  | true =>
      refine keeps_quiet rfl fun _ set _ => ?_
      refine keeps_quiet rfl fun _ told1 _ => ?_
      refine keeps_quiet rfl fun _ told2 _ => ?_
      exact scanning.mono ((set.trans told1).trans told2)

theorem keeps_pairEntries (config : MatchmakerConfig)
    (rest : List QueueEntry) (listed : rest ⊆ entries) (matched : List String)
    (scanning : Scanning task region entries s) :
    Keeps task (fun _ _ => True)
      (Matcher.pairEntries config region rest matched) s := by
  induction rest generalizing matched s with
  | nil => trivial
  | cons a rest ih =>
      obtain ⟨first, others⟩ := List.cons_subset.mp listed
      rw [Matcher.pairEntries]
      split
      next => exact ih others matched scanning
      next =>
        refine keeps_quiet rfl fun later growth now => ?_
        rw [Async.done_bind]
        have scanning := scanning.mono growth
        split
        next => exact ih others matched scanning
        next b found =>
          have second := others (List.mem_of_find?_eq_some found)
          exact (keeps_createMatch config first second scanning).bind
            fun _ _ scanning => ih others _ scanning

theorem keeps_dequeueMembers (members : List String)
    (reads : s.readings.lookup task = some (region, members))
    (dequeued : ∀ entry ∈ entries, (region, entry) ∈ s.dequeued) :
    Keeps task (fun entries => Scanning task region entries)
      (MatchQueue.dequeueMembers region members entries) s := by
  induction members generalizing entries s with
  | nil => exact ⟨⟨[], reads⟩, dequeued⟩
  | cons playerId members ih =>
      refine keeps_get reads fun later metaRaw reads before answered => ?_
      cases metaRaw with
      | none =>
          refine keeps_quiet rfl fun last growth _ => ?_
          refine ih (growth.readings.trans reads) fun entry mem => ?_
          exact growth.dequeued (before (dequeued entry mem))
      | some entry =>
          refine ih reads fun other mem => ?_
          rcases List.mem_append.mp mem with old | new
          · exact before (dequeued other old)
          · cases List.mem_singleton.mp new
            exact answered entry rfl

theorem keeps_dequeue (region : Region) (s : RegionQueues) :
    Keeps task (fun entries => Scanning task region entries)
      (MatchQueue.dequeue region) s := by
  refine keeps_zrangebyscore fun later members reads => ?_
  exact keeps_dequeueMembers members reads fun _ mem => by cases mem

theorem keeps_scan (config : MatchmakerConfig) (rest : List Region)
    (s : RegionQueues) :
    Keeps task (fun _ _ => True) (Matcher.scanRegions config rest) s := by
  induction rest generalizing s with
  | nil => trivial
  | cons region rest ih =>
      have scanned : Keeps task (fun _ _ => True)
          (Matcher.scanRegion config region) s := by
        refine (keeps_dequeue region s).bind fun entries later scanning => ?_
        split
        next => trivial
        next =>
          exact keeps_pairEntries config entries (List.Subset.refl _) []
            scanning
      exact scanned.bind fun _ later _ => ih later

theorem keeps_postQueue (id : String) (body : JoinBody) (s : RegionQueues) :
    Keeps task (fun _ _ => True) (postQueue task id body) s := by
  refine keeps_quiet rfl fun _ _ rqCount => ?_
  rw [Async.done_bind]
  split
  next => trivial
  refine keeps_quiet rfl fun _ _ already => ?_
  rw [Async.done_bind]
  split
  next => trivial
  refine keeps_quiet rfl fun _ _ player => ?_
  cases player with
  | none => trivial
  | some player =>
      refine keeps_quiet rfl fun _ _ queuedAt => ?_
      refine keeps_zadd fun _ _ => ?_
      refine keeps_set fun _ _ => ?_
      exact keeps_quiet rfl fun _ _ _ => trivial

theorem keeps_deleteQueue (id : String)
    (idle : s.readings.lookup task = none) :
    Keeps task (fun _ _ => True) (deleteQueue id) s := by
  refine keeps_get_idle idle fun _ metaRaw => ?_
  cases metaRaw with
  | none => trivial
  | some entry =>
      refine keeps_quiet rfl fun _ _ _ => ?_
      exact keeps_quiet rfl fun _ _ _ => trivial

theorem keeps_matchmakingCode (config : MatchmakerConfig)
    (what : MatchmakingStart) :
    Keeps task (fun _ _ => True) (matchmakingCode config task what)
      initial := by
  cases what with
  | postQueue id body => exact keeps_postQueue id body initial
  | deleteQueue id => exact keeps_deleteQueue id rfl
  | scan =>
      exact (keeps_scan config regions initial).bind fun _ _ _ => trivial
  | expire id => exact keeps_quiet rfl fun _ _ _ => trivial

/-- As long as `POST /queue` writes only for players of whom no other region
has a trace, the regions stay apart. -/
theorem oneRegion_of_untraced (config : MatchmakerConfig)
    (events : List (PoolEvent MatchmakingStart Env))
    (untraced : (step config).Along (Pool.Good Untraced) pool events) :
    (step config).Always (fun pool => OneRegion pool.shared) pool events := by
  have always := Pool.always_valid initial_valid
    (fun task what => keeps_matchmakingCode config what) untraced
  exact always.mono fun pool valid => valid.toOneRegion

def changesRegion : List (PoolEvent MatchmakingStart Env) :=
  .start (.postQueue "a" ⟨0, .usEast⟩) :: goOn 0 7 ++
    .start (.deleteQueue "a") :: goOn 1 3 ++
    .start (.postQueue "a" ⟨0, .euWest⟩) :: goOn 2 7 ++
    .start (.postQueue "b" ⟨1, .euWest⟩) :: goOn 3 7 ++
    .start .scan :: goOn 4 12

theorem oneRegion_of_untraced_changesRegion :
    (step matchmakerConfig).Always (fun pool => OneRegion pool.shared) pool
      changesRegion ∧
    ((step matchmakerConfig).run pool changesRegion).shared.matched =
      [(.euWest, [2, 3])] :=
  ⟨oneRegion_of_untraced matchmakerConfig _ (by decide +kernel),
    by decide +kernel⟩

def joinsAgain : List (PoolEvent MatchmakingStart Env) :=
  .start (.postQueue "a" ⟨0, .usEast⟩) :: goOn 0 7 ++
    .start (.expire "a") :: goOn 1 1 ++
    .start (.postQueue "a" ⟨0, .euWest⟩) :: goOn 2 7

theorem joinsAgain_not_oneRegion :
    ¬ (step matchmakerConfig).Always (fun pool => OneRegion pool.shared) pool
      joinsAgain := by
  intro always
  have both : ∀ region ∈ [Region.usEast, Region.euWest],
      ((step matchmakerConfig).run pool joinsAgain).shared.queue.Waits "a"
        region := by
    decide +kernel
  have same := always.last.once "a" .usEast .euWest (both _ (by decide))
    (both _ (by decide))
  cases same

end RegionQueues

end FuryClash.Server
