import FuryClash.Server.Matcher
import Mathlib.Data.List.AList

namespace FuryClash.Server

open FuryClash.Data

/-! The regional queues, with the history of who has been read for which of
them, and the contract by which a player is in one region at a time. -/

/-- `readings` tells of each task that has begun to dequeue a region which
members it still has to get the entries of. `dequeued` are the entries that it
has put among those it returns, `matched` the joins that it has asked a room
for. -/
structure RegionQueues where
  queue : Matchmaking
  readings : AList fun _ : Nat => Region × List String
  dequeued : List (Region × QueueEntry)
  matched : List (Region × List Ticket)

def Matchmaking.Waits (m : Matchmaking) (id : String) (region : Region) :
    Prop :=
  id ∈ (m.queues region).map (·.2)

instance (m : Matchmaking) (id : String) (region : Region) :
    Decidable (m.Waits id region) :=
  inferInstanceAs (Decidable (_ ∈ _))

namespace RegionQueues

def initial : RegionQueues := ⟨.initial, ∅, [], []⟩

def note (task : Nat) (s : RegionQueues) : QueueCall → RegionQueues
  | .zrangebyscore region =>
      { s with
        readings := s.readings.insert task
          (region, (s.queue.queues region).map (·.2)) }
  | .get id =>
      match s.readings.lookup task with
      | some (region, _ :: rest) =>
          { s with
            readings := s.readings.insert task (region, rest)
            dequeued :=
              (s.queue.metas id).toList.map (region, ·) ++ s.dequeued }
      | _ => s
  | .postRoom _ tickets =>
      match s.readings.lookup task with
      | some (region, _) =>
          { s with matched := (region, tickets) :: s.matched }
      | none => s
  | _ => s

def exec (task : Nat) (env : Env) (call : QueueCall) (s : RegionQueues) :
    call.Answer × RegionQueues :=
  let (answer, queue) := Matchmaking.exec task env call s.queue
  (answer, { s.note task call with queue := queue })

def step (config : MatchmakerConfig) :
    Machine (Pool RegionQueues QueueCall QueueCall.Answer Outcome)
      (PoolEvent MatchmakingStart Env) :=
  Pool.step exec (matchmakingCode config)

def pool : Pool RegionQueues QueueCall QueueCall.Answer Outcome :=
  ⟨initial, []⟩

structure OneRegion (s : RegionQueues) : Prop where
  once : ∀ id region other, s.queue.Waits id region →
    s.queue.Waits id other → region = other
  dequeued : ∀ region entry, (region, entry) ∈ s.dequeued →
    entry.region = region
  matched : ∀ region tickets, (region, tickets) ∈ s.matched →
    ∀ ticket ∈ tickets, ∃ entry ∈ s.queue.joined,
      entry.ticket = ticket ∧ entry.region = region

/-- What `POST /queue` writes for a player finds no trace of him in another
region: he is not in its queue, he has no entry of it, and no `dequeue` of it
that has read him has yet to get his entry. -/
def Untraced (s : RegionQueues) : QueueCall → Prop
  | .zadd region _ id =>
      (∀ other, s.queue.Waits id other → other = region) ∧
        ∀ entry ∈ s.queue.metas id, entry.region = region
  | .set id entry =>
      (∀ other, s.queue.Waits id other → other = entry.region) ∧
        ∀ task ∈ s.readings.keys, ∀ reading ∈ s.readings.lookup task,
          id ∈ reading.2 → reading.1 = entry.region
  | _ => True

theorem mem_regions (region : Region) : region ∈ regions := by
  cases region <;> decide

instance (P : Region → Prop) [DecidablePred P] :
    Decidable (∀ region, P region) :=
  decidable_of_iff (∀ region ∈ regions, P region)
    ⟨fun all region => all region (mem_regions region),
      fun all region _ => all region⟩

instance (s : RegionQueues) (call : QueueCall) :
    Decidable (s.Untraced call) := by
  unfold Untraced
  split
  · infer_instance
  · infer_instance
  · infer_instance

structure Valid (s : RegionQueues) : Prop extends OneRegion s where
  metas : ∀ id entry region, s.queue.metas id = some entry →
    s.queue.Waits id region → entry.region = region
  joined : ∀ id entry, s.queue.metas id = some entry →
    entry ∈ s.queue.joined
  read : ∀ region entry, (region, entry) ∈ s.dequeued →
    entry ∈ s.queue.joined
  reading : ∀ task region members id entry,
    s.readings.lookup task = some (region, members) → id ∈ members →
    s.queue.metas id = some entry → entry.region = region

/-- What the other tasks leave to this one: its own reading, and the past. -/
structure Grows (task : Nat) (s s' : RegionQueues) : Prop where
  readings : s'.readings.lookup task = s.readings.lookup task
  joined : s.queue.joined ⊆ s'.queue.joined
  dequeued : s.dequeued ⊆ s'.dequeued

variable {task : Nat} {s s' s'' : RegionQueues}

theorem initial_valid : initial.Valid where
  once _ _ _ waits := by cases waits
  dequeued _ _ mem := by cases mem
  matched _ _ mem := by cases mem
  metas _ _ _ entered := by cases entered
  joined _ _ entered := by cases entered
  read _ _ mem := by cases mem
  reading _ _ _ _ _ reads := by cases reads

theorem Grows.refl (task : Nat) (s : RegionQueues) : Grows task s s where
  readings := rfl
  joined := List.Subset.refl _
  dequeued := List.Subset.refl _

theorem Grows.trans (first : Grows task s s') (second : Grows task s' s'') :
    Grows task s s'' where
  readings := second.readings.trans first.readings
  joined := List.Subset.trans first.joined second.joined
  dequeued := List.Subset.trans first.dequeued second.dequeued

def contract : Contract RegionQueues QueueCall where
  valid := Valid
  grows := Grows
  good := Untraced
  refl := Grows.refl
  trans := Grows.trans

abbrev Keeps {α : Type} (task : Nat) (post : α → RegionQueues → Prop)
    (code : QueueCode α) (s : RegionQueues) : Prop :=
  code.Safe exec contract task post s

structure Quiet (s s' : RegionQueues) : Prop where
  waits : ∀ id region, s'.queue.Waits id region → s.queue.Waits id region
  metas : ∀ id entry, s'.queue.metas id = some entry →
    s.queue.metas id = some entry
  joined : s'.queue.joined = s.queue.joined
  readings : s'.readings = s.readings
  dequeued : s'.dequeued = s.dequeued
  matched : s'.matched = s.matched

def isQuiet : QueueCall → Bool
  | .zadd _ _ _ | .set _ _ | .zrangebyscore _ | .get _ | .postRoom _ _ => false
  | _ => true

theorem waits_zrem {m : Matchmaking} {id key : String}
    {region other : Region} (waits : (m.zrem region id).Waits key other) :
    m.Waits key other := by
  by_cases same : other = region
  · subst same
    rw [Matchmaking.Waits, Matchmaking.zrem] at waits
    dsimp only at waits
    rw [Function.update_self] at waits
    exact (List.filter_sublist.map _).subset waits
  · simpa only [Matchmaking.Waits, Matchmaking.zrem,
      Function.update_of_ne same] using waits

theorem waits_zadd {m : Matchmaking} {id key : String}
    {region other : Region} {elo : Int}
    (waits : (m.zadd region elo id).Waits key other) :
    m.Waits key other ∨ key = id ∧ other = region := by
  by_cases same : other = region
  · subst same
    rw [Matchmaking.Waits, Matchmaking.zadd] at waits
    dsimp only at waits
    rw [Function.update_self] at waits
    obtain ⟨member, mem, rfl⟩ := List.mem_map.mp waits
    rcases List.mem_orderedInsert _ |>.mp mem with rfl | mem
    · exact .inr ⟨rfl, rfl⟩
    · exact .inl (List.mem_map_of_mem (List.mem_of_mem_filter mem))
  · refine .inl ?_
    simpa only [Matchmaking.Waits, Matchmaking.zadd,
      Function.update_of_ne same] using waits

theorem quiet_exec {call : QueueCall} (quiet : isQuiet call = true)
    (env : Env) (s : RegionQueues) : Quiet s (exec task env call s).2 := by
  cases call with
  | zrem region id removal =>
      have waits (key : String) (other : Region)
          (waits : (s.queue.zrem region id).Waits key other) :
          s.queue.Waits key other := waits_zrem waits
      cases removal with
      | _ => exact ⟨waits, fun _ _ same => same, rfl, rfl, rfl, rfl⟩
  | del id removal =>
      have metas (key : String) (entry : QueueEntry)
          (entered : (s.queue.setMeta id none).metas key = some entry) :
          s.queue.metas key = some entry := Matchmaking.of_setMeta_none entered
      cases removal with
      | _ => exact ⟨fun _ _ waits => waits, metas, rfl, rfl, rfl, rfl⟩
  | expire id =>
      exact ⟨fun _ _ waits => waits, fun _ _ => Matchmaking.of_setMeta_none,
        rfl, rfl, rfl, rfl⟩
  | zadd _ _ _ => cases quiet
  | set _ _ => cases quiet
  | zrangebyscore _ => cases quiet
  | get _ => cases quiet
  | postRoom _ _ => cases quiet
  | _ => exact ⟨fun _ _ waits => waits, fun _ _ same => same, rfl, rfl, rfl, rfl⟩

theorem Valid.quiet (valid : s.Valid) (quiet : Quiet s s') : s'.Valid := by
  obtain ⟨waits, metas, joined, readings, dequeued, matched⟩ := quiet
  refine ⟨⟨?_, ?_, ?_⟩, ?_, ?_, ?_, ?_⟩
  · intro id region other first second
    exact valid.once id region other (waits id region first)
      (waits id other second)
  · rw [dequeued]
    exact valid.dequeued
  · rw [matched, joined]
    exact valid.matched
  · intro id entry region entered waiting
    exact valid.metas id entry region (metas id entry entered)
      (waits id region waiting)
  · intro id entry entered
    rw [joined]
    exact valid.joined id entry (metas id entry entered)
  · rw [dequeued, joined]
    exact valid.read
  · intro task region members id entry reads mem entered
    rw [readings] at reads
    exact valid.reading task region members id entry reads mem
      (metas id entry entered)

theorem Grows.quiet (quiet : Quiet s s') (task : Nat) : Grows task s s' := by
  obtain ⟨_, _, joined, readings, dequeued, _⟩ := quiet
  refine ⟨?_, ?_, ?_⟩
  · rw [readings]
  · rw [joined]
    exact List.Subset.refl _
  · rw [dequeued]
    exact List.Subset.refl _

variable {α : Type} {post : α → RegionQueues → Prop} {region : Region}
  {id : String} {entry : QueueEntry}

theorem keeps_quiet {call : QueueCall} {next : call.Answer → QueueCode α}
    (quiet : isQuiet call = true)
    (rest : ∀ s', Grows task s s' → ∀ answer,
      Keeps task post (next answer) s') :
    Keeps task post (.await call next) s := by
  intro later growth valid _ env
  have quiet := @quiet_exec task _ quiet env later
  exact ⟨valid.quiet quiet, fun other _ => .quiet quiet other,
    rest _ (growth.trans (.quiet quiet task)) _⟩

theorem Valid.zadd (valid : s.Valid) {elo : Int}
    (untraced : s.Untraced (.zadd region elo id)) (env : Env) :
    (exec task env (.zadd region elo id) s).2.Valid := by
  obtain ⟨nowhereElse, noEntry⟩ := untraced
  refine ⟨⟨?_, valid.dequeued, valid.matched⟩, ?_, valid.joined, valid.read,
    valid.reading⟩
  · intro key first second waits waitsToo
    rcases waits_zadd waits with before | ⟨rfl, rfl⟩
    · rcases waits_zadd waitsToo with beforeToo | ⟨rfl, rfl⟩
      · exact valid.once key first second before beforeToo
      · exact nowhereElse first before
    · rcases waits_zadd waitsToo with beforeToo | ⟨_, same⟩
      · exact (nowhereElse second beforeToo).symm
      · exact same.symm
  · intro key entry other entered waits
    rcases waits_zadd waits with before | ⟨rfl, rfl⟩
    · exact valid.metas key entry other entered before
    · exact noEntry entry entered

theorem Valid.set (valid : s.Valid) (untraced : s.Untraced (.set id entry))
    (env : Env) : (exec task env (.set id entry) s).2.Valid := by
  obtain ⟨nowhereElse, noReading⟩ := untraced
  have entries (key : String) (found : QueueEntry)
      (entered : (exec task env (.set id entry) s).2.queue.metas key =
        some found) :
      key = id ∧ found = entry ∨ s.queue.metas key = some found := by
    by_cases same : key = id
    · subst same
      have new : entry = found := by
        simpa [exec, Matchmaking.exec, Matchmaking.setMeta] using entered
      exact .inl ⟨rfl, new.symm⟩
    · refine .inr ?_
      simpa [exec, Matchmaking.exec, Matchmaking.setMeta,
        Function.update_of_ne same] using entered
  refine ⟨⟨valid.once, valid.dequeued, ?_⟩, ?_, ?_, ?_, ?_⟩
  · intro region tickets mem ticket used
    obtain ⟨found, joined, isTicket⟩ :=
      valid.matched region tickets mem ticket used
    exact ⟨found, List.mem_cons_of_mem _ joined, isTicket⟩
  · intro key found region entered waits
    rcases entries key found entered with ⟨rfl, rfl⟩ | before
    · exact (nowhereElse region waits).symm
    · exact valid.metas key found region before waits
  · intro key found entered
    rcases entries key found entered with ⟨rfl, rfl⟩ | before
    · exact List.mem_cons_self
    · exact List.mem_cons_of_mem _ (valid.joined key found before)
  · intro region found mem
    exact List.mem_cons_of_mem _ (valid.read region found mem)
  · intro other region members key found reads mem entered
    rcases entries key found entered with ⟨rfl, rfl⟩ | before
    · have known : other ∈ s.readings.keys := by
        rw [← AList.mem_keys, ← AList.lookup_isSome]
        exact Option.isSome_of_eq_some reads
      exact (noReading other known (region, members) reads mem).symm
    · exact valid.reading other region members key found reads mem before

theorem keeps_zadd {elo : Int} {next : Unit → QueueCode α}
    (rest : ∀ s', Grows task s s' → Keeps task post (next ()) s') :
    Keeps task post (.await (.zadd region elo id) next) s := by
  intro later growth valid untraced env
  have grows (other : Nat) :
      Grows other later (exec task env (.zadd region elo id) later).2 :=
    ⟨rfl, List.Subset.refl _, List.Subset.refl _⟩
  exact ⟨valid.zadd untraced env, fun other _ => grows other,
    rest _ (growth.trans (grows task))⟩

theorem keeps_set {next : Unit → QueueCode α}
    (rest : ∀ s', Grows task s s' → Keeps task post (next ()) s') :
    Keeps task post (.await (.set id entry) next) s := by
  intro later growth valid untraced env
  have grows (other : Nat) :
      Grows other later (exec task env (.set id entry) later).2 :=
    ⟨rfl, List.subset_cons_self _ _, List.Subset.refl _⟩
  exact ⟨valid.set untraced env, fun other _ => grows other,
    rest _ (growth.trans (grows task))⟩

/-- A reading that is begun or goes on names players who have no entry of
another region. -/
theorem Valid.insert (valid : s.Valid) {members : List String}
    (right : ∀ id ∈ members, ∀ entry, s.queue.metas id = some entry →
      entry.region = region) (which : Nat) (other : Nat)
    (region' : Region) (members' : List String) (id : String)
    (entry : QueueEntry)
    (reads : (s.readings.insert which (region, members)).lookup other =
      some (region', members')) (mem : id ∈ members')
    (entered : s.queue.metas id = some entry) : entry.region = region' := by
  by_cases same : other = which
  · subst same
    rw [AList.lookup_insert] at reads
    cases reads
    exact right id mem entry entered
  · rw [AList.lookup_insert_ne same] at reads
    exact valid.reading other region' members' id entry reads mem entered

theorem keeps_zrangebyscore {next : List String → QueueCode α}
    (rest : ∀ s' members,
      s'.readings.lookup task = some (region, members) →
      Keeps task post (next members) s') :
    Keeps task post (.await (.zrangebyscore region) next) s := by
  intro later _ valid _ env
  refine ⟨⟨⟨valid.once, valid.dequeued, valid.matched⟩, valid.metas,
    valid.joined, valid.read, valid.insert (fun id waits entry entered => ?_) task⟩,
    fun other apart => ⟨?_, List.Subset.refl _, List.Subset.refl _⟩,
    rest _ _ (AList.lookup_insert _)⟩
  · exact valid.metas id entry region entered waits
  · exact AList.lookup_insert_ne apart

theorem exec_get_reading {members : List String}
    (reads : s.readings.lookup task = some (region, id :: members))
    (env : Env) :
    exec task env (.get id) s = (s.queue.metas id,
      { s with
        readings := s.readings.insert task (region, members)
        dequeued :=
          (s.queue.metas id).toList.map (region, ·) ++ s.dequeued }) := by
  rw [exec, note, reads]
  rfl

theorem keeps_get {members : List String}
    {next : Option QueueEntry → QueueCode α}
    (reads : s.readings.lookup task = some (region, id :: members))
    (rest : ∀ s' answer,
      s'.readings.lookup task = some (region, members) →
      s.dequeued ⊆ s'.dequeued →
      (∀ entry ∈ answer, (region, entry) ∈ s'.dequeued) →
      Keeps task post (next answer) s') :
    Keeps task post (.await (.get id) next) s := by
  intro later growth valid _ env
  have reads := growth.readings.trans reads
  have right := valid.reading task region (id :: members)
  -- what has just been dequeued, and what had been
  have cases {other : Region} {entry : QueueEntry}
      (mem : (other, entry) ∈
        (later.queue.metas id).toList.map (region, ·) ++ later.dequeued) :
      other = region ∧ later.queue.metas id = some entry ∨
        (other, entry) ∈ later.dequeued := by
    rcases List.mem_append.mp mem with new | old
    · obtain ⟨found, mem, same⟩ := List.mem_map.mp new
      cases same
      exact .inl ⟨rfl, Option.mem_toList.mp mem⟩
    · exact .inr old
  rw [exec_get_reading reads]
  refine ⟨⟨⟨valid.once, ?_, valid.matched⟩, valid.metas, valid.joined, ?_,
    valid.insert (fun key mem entry entered => ?_) task⟩,
    fun other apart => ⟨AList.lookup_insert_ne apart, List.Subset.refl _,
      List.subset_append_right _ _⟩,
    rest _ _ (AList.lookup_insert _)
      (List.Subset.trans growth.dequeued (List.subset_append_right _ _)) ?_⟩
  · intro other entry mem
    rcases cases mem with ⟨rfl, entered⟩ | old
    · exact right id entry reads List.mem_cons_self entered
    · exact valid.dequeued other entry old
  · intro other entry mem
    rcases cases mem with ⟨_, entered⟩ | old
    · exact valid.joined id entry entered
    · exact valid.read other entry old
  · exact right key entry reads (List.mem_cons_of_mem _ mem) entered
  · intro entry answered
    refine List.mem_append_left _ (List.mem_map.mpr ⟨entry, ?_, rfl⟩)
    exact Option.mem_toList.mpr answered

theorem keeps_get_idle {next : Option QueueEntry → QueueCode α}
    (idle : s.readings.lookup task = none)
    (rest : ∀ s' answer, Keeps task post (next answer) s') :
    Keeps task post (.await (.get id) next) s := by
  intro later growth valid _ env
  have unchanged : (exec task env (.get id) later).2 = later := by
    rw [exec, note, growth.readings.trans idle]
    rfl
  rw [unchanged]
  exact ⟨valid, fun other _ => .refl other later, rest later _⟩

structure Scanning (task : Nat) (region : Region) (entries : List QueueEntry)
    (s : RegionQueues) : Prop where
  reading : ∃ members, s.readings.lookup task = some (region, members)
  entries : ∀ entry ∈ entries, (region, entry) ∈ s.dequeued

theorem Scanning.mono {entries : List QueueEntry}
    (scanning : Scanning task region entries s) (growth : Grows task s s') :
    Scanning task region entries s' where
  reading := by
    obtain ⟨members, reads⟩ := scanning.reading
    exact ⟨members, growth.readings.trans reads⟩
  entries entry mem := growth.dequeued (scanning.entries entry mem)

theorem keeps_postRoom {entries : List QueueEntry} {request : RoomRequest}
    {tickets : List Ticket} {next : Bool → QueueCode α}
    (scanning : Scanning task region entries s)
    (ofEntries : ∀ ticket ∈ tickets, ∃ entry ∈ entries, entry.ticket = ticket)
    (rest : ∀ s' answer, Scanning task region entries s' →
      Keeps task post (next answer) s') :
    Keeps task post (.await (.postRoom request tickets) next) s := by
  intro later growth valid _ env
  have scanning := scanning.mono growth
  obtain ⟨members, reads⟩ := scanning.reading
  have asked : (exec task env (.postRoom request tickets) later).2 =
      { later with
        matched := (region, tickets) :: later.matched
        queue := later.queue.postRoom env.relay ⟨request, tickets⟩ } := by
    rw [exec, note, reads]
    rfl
  have right : ∀ ticket ∈ tickets, ∃ entry ∈ later.queue.joined,
      entry.ticket = ticket ∧ entry.region = region := by
    intro ticket mem
    obtain ⟨entry, listed, isTicket⟩ := ofEntries ticket mem
    have dequeued := scanning.entries entry listed
    exact ⟨entry, valid.read region entry dequeued, isTicket,
      valid.dequeued region entry dequeued⟩
  have matched (other : Region) (tickets' : List Ticket)
      (mem : (other, tickets') ∈ (region, tickets) :: later.matched) :
      ∀ ticket ∈ tickets', ∃ entry ∈ later.queue.joined,
        entry.ticket = ticket ∧ entry.region = other := by
    rcases List.mem_cons.mp mem with same | old
    · cases same
      exact right
    · exact valid.matched other tickets' old
  -- a room that is made is nothing to the queues
  have made : (exec task env (.postRoom request tickets) later).2.Valid ∧
      ∀ other, Grows other later
        (exec task env (.postRoom request tickets) later).2 := by
    rw [asked, Matchmaking.postRoom]
    split
    · exact ⟨⟨⟨valid.once, valid.dequeued, matched⟩, valid.metas,
        valid.joined, valid.read, valid.reading⟩,
        fun _ => ⟨rfl, List.Subset.refl _, List.Subset.refl _⟩⟩
    · exact ⟨⟨⟨valid.once, valid.dequeued, matched⟩, valid.metas,
        valid.joined, valid.read, valid.reading⟩,
        fun _ => ⟨rfl, List.Subset.refl _, List.Subset.refl _⟩⟩
  exact ⟨made.1, fun other _ => made.2 other,
    rest _ _ (scanning.mono (made.2 task))⟩

end RegionQueues

end FuryClash.Server
