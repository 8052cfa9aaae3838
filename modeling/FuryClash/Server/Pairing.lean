import FuryClash.Server.RoomCreation

namespace FuryClash.Server

open FuryClash.Data

abbrev MadeCall := Made QueueCall QueueCall.Answer

abbrev Oracle := Nat → (call : QueueCall) → call.Answer

/-- The calls that change what the queue holds of a player. -/
def QueueCall.Touches (id : String) : QueueCall → Prop
  | .zadd _ _ member => member = id
  | .set key _ => key = id
  | .zrem _ member _ => member = id
  | .del key _ => key = id
  | .expire key => key = id
  | _ => False

/-- A turn of the outer loop that is not skipped: the entry `a`, the time that
`eloRange` reads, the partner if there is one, and the calls of `createMatch`
for the two. -/
structure Turn where
  entry : QueueEntry
  now : Nat
  partner : Option QueueEntry
  calls : List MadeCall

namespace Turn

def log (turn : Turn) : List MadeCall :=
  ⟨.dateNow, turn.now⟩ :: turn.calls

/-- The players that the turn pairs. -/
def paired (turn : Turn) : List String :=
  match turn.partner with
  | none => []
  | some b => [turn.entry.playerId, b.playerId]

end Turn

namespace Matcher

variable (config : MatchmakerConfig) (region : Region) (oracle : Oracle)

def entriesRead : List QueueEntry :=
  ((MatchQueue.dequeue region).trace oracle 0).2

/-- The calls of the scan behind those of `dequeue`. -/
def scanCalls : List MadeCall :=
  ((scanRegion config region).trace oracle 0).1.drop
    ((MatchQueue.dequeue region).trace oracle 0).1.length

def turns : (call : Nat) → List QueueEntry → List String → List Turn
  | _, [], _ => []
  | n, a :: rest, matched =>
      if a.playerId ∈ matched then turns n rest matched
      else
        let now := oracle n .dateNow
        match opponent a (eloRange config a now) matched rest with
        | none => ⟨a, now, none, []⟩ :: turns (n + 1) rest matched
        | some b =>
            let calls := ((createMatch config a b region).trace oracle (n + 1)).1
            ⟨a, now, some b, calls⟩ ::
              turns (n + 1 + calls.length) rest
                (b.playerId :: a.playerId :: matched)

/-- The turns of the scan; a region with one entry has none. -/
def scanTurns : List Turn :=
  let entries := entriesRead region oracle
  if entries.length < 2 then []
  else turns config region oracle
    ((MatchQueue.dequeue region).trace oracle 0).1.length entries []

/-- The pairs are sound for the entries that were read. The candidates of an
entry are those behind it that no earlier turn has paired. -/
structure SoundScan (entries : List QueueEntry) (scan : List Turn)
    (calls : List MadeCall) : Prop where
  logged : calls = scan.flatMap Turn.log
  created : ∀ turn ∈ scan, ∀ b, turn.partner = some b →
    ∃ n, turn.calls = ((createMatch config turn.entry b region).trace
      oracle n).1
  idle : ∀ turn ∈ scan, turn.partner = none → turn.calls = []
  disjoint : (scan.flatMap Turn.paired).Nodup
  ordered : ∀ turn ∈ scan, ∀ b, turn.partner = some b →
    [turn.entry, b].Sublist entries
  inRange : ∀ turn ∈ scan, ∀ b, turn.partner = some b →
    ((turn.entry.elo - b.elo).natAbs : Int) ≤
      eloRange config turn.entry turn.now
  capped : ∀ turn ∈ scan,
    eloRange config turn.entry turn.now ≤ config.eloMaxRange
  above : ∀ turn ∈ scan, ∀ b, turn.partner = some b →
    turn.entry.elo ≤ b.elo
  closest : ∀ earlier turn later, scan = earlier ++ turn :: later →
    ∀ b, turn.partner = some b → ∀ c, [turn.entry, c].Sublist entries →
      c.playerId ∉ earlier.flatMap Turn.paired →
        (turn.entry.elo - b.elo).natAbs ≤ (turn.entry.elo - c.elo).natAbs
  untouched : ∀ e ∈ entries, e.playerId ∉ scan.flatMap Turn.paired →
    ∀ made ∈ calls, ¬ made.1.Touches e.playerId

variable {config region oracle} {n : Nat} {a b c : QueueEntry}
  {entries rest : List QueueEntry} {matched : List String} {turn : Turn}

theorem pairEntries_of_unmatched (free : a.playerId ∉ matched) :
    pairEntries config region (a :: rest) matched =
      .await .dateNow fun now =>
        match opponent a (eloRange config a now) matched rest with
        | none => pairEntries config region rest matched
        | some b =>
            createMatch config a b region >>= fun _ =>
              pairEntries config region rest
                (b.playerId :: a.playerId :: matched) := by
  rw [pairEntries, if_neg free]
  rfl

theorem trace_pairEntries (n : Nat) (entries : List QueueEntry)
    (matched : List String) :
    ((pairEntries config region entries matched).trace oracle n).1 =
      (turns config region oracle n entries matched).flatMap Turn.log := by
  induction entries generalizing n matched with
  | nil => rfl
  | cons a rest ih =>
      rw [turns]
      split
      next taken =>
        rw [pairEntries, if_pos taken]
        exact ih n matched
      next free =>
        rw [pairEntries_of_unmatched free, Async.trace_await]
        dsimp only
        cases opponent a (eloRange config a (oracle n .dateNow)) matched
          rest with
        | none =>
            dsimp only
            rw [ih]
            rfl
        | some b =>
            dsimp only
            rw [Async.trace_bind, ih]
            rfl

theorem scanCalls_eq :
    scanCalls config region oracle =
      (scanTurns config region oracle).flatMap Turn.log := by
  rw [scanCalls, scanRegion, Async.trace_bind, List.drop_left, scanTurns,
    entriesRead, Nat.zero_add]
  split
  next => rfl
  next => exact trace_pairEntries _ _ _

theorem opponent_some {range : Int}
    (found : opponent a range matched rest = some b) :
    b ∈ rest ∧ b.playerId ∉ matched ∧
      ((a.elo - b.elo).natAbs : Int) ≤ range := by
  have fits := List.find?_some found
  rw [decide_eq_true_eq] at fits
  exact ⟨List.mem_of_find?_eq_some found, fits.1, fits.2⟩

/-- Behind the entry the ratings go up, so the first partner in range is the
closest. -/
theorem opponent_closest {range : Int}
    (sorted : (a :: rest).Pairwise fun e e' => e.elo ≤ e'.elo)
    (found : opponent a range matched rest = some b)
    (candidate : c ∈ rest) (free : c.playerId ∉ matched) :
    (a.elo - b.elo).natAbs ≤ (a.elo - c.elo).natAbs := by
  obtain ⟨above, rising⟩ := List.pairwise_cons.mp sorted
  obtain ⟨_, front, behind, split, skipped⟩ :=
    List.find?_eq_some_iff_append.mp found
  have in_range := (opponent_some found).2.2
  have b_above : a.elo ≤ b.elo := above b (opponent_some found).1
  have c_above : a.elo ≤ c.elo := above c candidate
  rw [split, List.mem_append, List.mem_cons] at candidate
  rcases candidate with before | same | later
  · have out : ¬ ((a.elo - c.elo).natAbs : Int) ≤ range := by
      simpa [free] using skipped c before
    omega
  · rw [same]
  · rw [split] at rising
    have order := (List.pairwise_append.mp rising).2.1
    have b_below := (List.pairwise_cons.mp order).1 c later
    omega

structure TurnAt (config : MatchmakerConfig) (region : Region)
    (oracle : Oracle) (entries : List QueueEntry) (matched : List String)
    (earlier : List Turn) (turn : Turn) (rest : List QueueEntry)
    (taken : List String) : Prop where
  suffix : turn.entry :: rest <:+ entries
  mem_taken : ∀ id, id ∈ taken ↔
    id ∈ matched ∨ id ∈ earlier.flatMap Turn.paired
  partner : turn.partner =
    opponent turn.entry (eloRange config turn.entry turn.now) taken rest
  idle : turn.partner = none → turn.calls = []
  created : ∀ b, turn.partner = some b → ∃ n, turn.calls =
    ((createMatch config turn.entry b region).trace oracle n).1

theorem TurnAt.skip {earlier : List Turn} {taken : List String}
    (at_turn : TurnAt config region oracle entries matched earlier turn rest
      taken) (a : QueueEntry) :
    TurnAt config region oracle (a :: entries) matched earlier turn rest taken :=
  { at_turn with suffix := at_turn.suffix.trans (List.suffix_cons a entries) }

theorem exists_turnAt {earlier later : List Turn}
    (split : turns config region oracle n entries matched =
      earlier ++ turn :: later) :
    ∃ rest taken,
      TurnAt config region oracle entries matched earlier turn rest taken := by
  induction entries generalizing n matched earlier with
  | nil => simp [turns] at split
  | cons a rest ih =>
      rw [turns] at split
      split at split
      next =>
        obtain ⟨behind, taken, at_turn⟩ := ih split
        exact ⟨behind, taken, at_turn.skip a⟩
      next =>
        dsimp only at split
        cases found : opponent a (eloRange config a (oracle n .dateNow))
          matched rest with
        | none =>
            rw [found] at split
            cases earlier with
            | nil =>
                cases split
                exact ⟨rest, matched, List.suffix_rfl, by simp, found.symm,
                  fun _ => rfl, by simp⟩
            | cons first earlier =>
                obtain ⟨rfl, others⟩ := List.cons.inj split
                obtain ⟨behind, taken, at_turn⟩ := ih others
                exact ⟨behind, taken,
                  { at_turn.skip a with mem_taken := at_turn.mem_taken }⟩
        | some b =>
            rw [found] at split
            cases earlier with
            | nil =>
                cases split
                refine ⟨rest, matched, List.suffix_rfl, by simp, found.symm,
                  by simp, ?_⟩
                intro partner same
                cases same
                exact ⟨n + 1, rfl⟩
            | cons first earlier =>
                obtain ⟨rfl, others⟩ := List.cons.inj split
                obtain ⟨behind, taken, at_turn⟩ := ih others
                refine ⟨behind, taken,
                  { at_turn.skip a with mem_taken := fun id => ?_ }⟩
                rw [at_turn.mem_taken, List.flatMap_cons, List.mem_append,
                  Turn.paired]
                simp only [List.mem_cons, List.not_mem_nil]
                tauto

/-- The turns pair players of these entries that have not been matched. -/
theorem paired_fresh {id : String}
    (paired : id ∈ (turns config region oracle n entries matched).flatMap
      Turn.paired) :
    id ∉ matched ∧ id ∈ entries.map (·.playerId) := by
  fun_induction turns config region oracle n entries matched with
  | case1 => cases paired
  | case2 n a rest matched taken ih =>
      exact (ih paired).imp_right (List.mem_cons_of_mem _)
  | case3 n a rest matched free now alone ih =>
      exact (ih paired).imp_right (List.mem_cons_of_mem _)
  | case4 n a rest matched free now b found calls ih =>
      obtain ⟨behind, b_free, _⟩ := opponent_some found
      rw [List.flatMap_cons, List.mem_append] at paired
      rcases paired with here | later
      · rcases List.mem_pair.mp here with rfl | rfl
        · exact ⟨free, List.mem_cons_self⟩
        · exact ⟨b_free, List.mem_cons_of_mem _ (List.mem_map_of_mem behind)⟩
      · obtain ⟨fresh, there⟩ := ih later
        refine ⟨fun old => fresh ?_, List.mem_cons_of_mem _ there⟩
        exact List.mem_cons_of_mem _ (List.mem_cons_of_mem _ old)

theorem paired_nodup (distinct : (entries.map (·.playerId)).Nodup) :
    ((turns config region oracle n entries matched).flatMap
      Turn.paired).Nodup := by
  fun_induction turns config region oracle n entries matched with
  | case1 => exact List.nodup_nil
  | case2 n a rest matched taken ih => exact ih (List.nodup_cons.mp distinct).2
  | case3 n a rest matched free now alone ih =>
      exact ih (List.nodup_cons.mp distinct).2
  | case4 n a rest matched free now b found calls ih =>
      obtain ⟨apart, others⟩ := List.nodup_cons.mp distinct
      have behind := (opponent_some found).1
      have two : a.playerId ≠ b.playerId := fun same =>
        apart (List.mem_map.mpr ⟨b, behind, same.symm⟩)
      rw [List.flatMap_cons]
      refine List.Nodup.append (by simpa [Turn.paired] using two)
        (ih others) ?_
      intro id here later
      apply (paired_fresh later).1
      rcases List.mem_pair.mp here with rfl | rfl
      · exact List.mem_cons_of_mem _ List.mem_cons_self
      · exact List.mem_cons_self

theorem mem_rest_of_behind (distinct : (entries.map (·.playerId)).Nodup)
    (suffix : a :: rest <:+ entries) (behind : [a, c].Sublist entries) :
    c ∈ rest := by
  obtain ⟨front, rfl⟩ := suffix
  induction front with
  | nil =>
      rcases List.sublist_cons_iff.mp behind with in_rest | ⟨tail, same, there⟩
      · exact in_rest.subset (List.mem_cons_of_mem _ List.mem_cons_self)
      · cases same
        exact List.singleton_sublist.mp there
  | cons first front ih =>
      obtain ⟨apart, others⟩ := List.nodup_cons.mp distinct
      rcases List.sublist_cons_iff.mp behind with later | ⟨tail, same, _⟩
      · exact ih others later
      · cases same
        refine absurd (List.mem_map_of_mem ?_) apart
        exact List.mem_append_right _ List.mem_cons_self

def For (a b : QueueEntry) (call : QueueCall) : Prop :=
  ∀ id, call.Touches id → id = a.playerId ∨ id = b.playerId

theorem remove_only {roomId : RoomId} {e : QueueEntry} {kind : QueueCall → Prop}
    (zrem : kind (.zrem e.region e.playerId (.matching roomId e.ticket)))
    (del : kind (.del e.playerId (.matching roomId e.ticket))) :
    (MatchQueue.remove roomId e).Only kind :=
  ⟨zrem, fun _ => ⟨del, fun _ => trivial⟩⟩

theorem createMatch_only : (createMatch config a b region).Only (For a b) := by
  have first (id : String) (same : a.playerId = id) :
      id = a.playerId ∨ id = b.playerId := .inl same.symm
  have second (id : String) (same : b.playerId = id) :
      id = a.playerId ∨ id = b.playerId := .inr same.symm
  have neither {call : QueueCall} (harmless : ∀ id, ¬ call.Touches id) :
      For a b call := fun id touches => absurd touches (harmless id)
  rw [createMatch]
  refine Async.Only.bind ⟨neither fun _ => not_false, fun _ => trivial⟩
    fun roomId => ?_
  refine Async.Only.bind (remove_only first first) fun _ => ?_
  refine Async.Only.bind (remove_only second second) fun _ => ?_
  refine Async.Only.bind ⟨neither fun _ => not_false, fun _ => trivial⟩
    fun ok => ?_
  cases ok with
  | false => trivial
  | true =>
      refine Async.Only.bind ⟨neither fun _ => not_false, fun _ => trivial⟩
        fun _ => ?_
      refine Async.Only.bind ⟨neither fun _ => not_false, fun _ => trivial⟩
        fun _ => ?_
      exact ⟨neither fun _ => not_false, fun _ => trivial⟩

theorem turnAt_of_mem
    (which : turn ∈ turns config region oracle n entries matched) :
    ∃ earlier rest taken,
      TurnAt config region oracle entries matched earlier turn rest taken := by
  obtain ⟨earlier, later, split⟩ := List.append_of_mem which
  exact ⟨earlier, exists_turnAt split⟩

theorem not_touches {id : String} {made : MadeCall}
    (unpaired : id ∉ (turns config region oracle n entries matched).flatMap
      Turn.paired)
    (call : made ∈ (turns config region oracle n entries matched).flatMap
      Turn.log) : ¬ made.1.Touches id := by
  intro touches
  obtain ⟨turn, which, logged⟩ := List.mem_flatMap.mp call
  obtain ⟨_, _, _, found⟩ := turnAt_of_mem which
  rcases List.mem_cons.mp logged with rfl | in_creation
  · exact touches
  · cases paired : turn.partner with
    | none =>
        rw [found.idle paired] at in_creation
        cases in_creation
    | some b =>
        obtain ⟨n, calls⟩ := found.created b paired
        rw [calls] at in_creation
        apply unpaired
        refine List.mem_flatMap.mpr ⟨turn, which, ?_⟩
        rw [Turn.paired, paired]
        exact List.mem_pair.mpr (createMatch_only.trace in_creation _ touches)

theorem turns_sound (distinct : (entries.map (·.playerId)).Nodup)
    (sorted : entries.Pairwise fun e e' => e.elo ≤ e'.elo) (n : Nat) :
    SoundScan config region oracle entries
      (turns config region oracle n entries [])
      ((turns config region oracle n entries []).flatMap Turn.log) := by
  refine ⟨rfl, ?_, ?_, paired_nodup distinct, ?_, ?_,
    fun turn _ => Int.min_le_right .., ?_, ?_, ?_⟩
  · intro turn which
    obtain ⟨_, _, _, found⟩ := turnAt_of_mem which
    exact found.created
  · intro turn which
    obtain ⟨_, _, _, found⟩ := turnAt_of_mem which
    exact found.idle
  · intro turn which b paired
    obtain ⟨_, rest, _, found⟩ := turnAt_of_mem which
    have behind := (opponent_some (found.partner.symm.trans paired)).1
    exact ((List.singleton_sublist.mpr behind).cons_cons _).trans
      found.suffix.sublist
  · intro turn which b paired
    obtain ⟨_, _, _, found⟩ := turnAt_of_mem which
    exact (opponent_some (found.partner.symm.trans paired)).2.2
  · intro turn which b paired
    obtain ⟨_, rest, _, found⟩ := turnAt_of_mem which
    have behind := (opponent_some (found.partner.symm.trans paired)).1
    exact (List.pairwise_cons.mp (sorted.sublist found.suffix.sublist)).1 b
      behind
  · intro earlier turn later split b paired c behind unpaired
    obtain ⟨rest, taken, found⟩ := exists_turnAt split
    refine opponent_closest (sorted.sublist found.suffix.sublist)
      (found.partner.symm.trans paired)
      (mem_rest_of_behind distinct found.suffix behind) ?_
    rw [found.mem_taken]
    rintro (matched | earlier_paired)
    · cases matched
    · exact unpaired earlier_paired
  · exact fun e _ unpaired made call => not_touches unpaired call

/-- A scan of a region, whatever its calls are answered, makes sound pairs of
the entries that `dequeue` has returned. -/
theorem scanRegion_sound (config : MatchmakerConfig) (region : Region)
    (oracle : Oracle)
    (distinct : ((entriesRead region oracle).map (·.playerId)).Nodup)
    (sorted : (entriesRead region oracle).Pairwise
      fun e e' => e.elo ≤ e'.elo) :
    SoundScan config region oracle (entriesRead region oracle)
      (scanTurns config region oracle) (scanCalls config region oracle) := by
  rw [scanCalls_eq, scanTurns]
  split
  next =>
    exact ⟨rfl, by simp, by simp, List.nodup_nil, by simp, by simp, by simp,
      by simp, by simp, by simp⟩
  next => exact turns_sound distinct sorted _

def twoWaiting : Oracle
  | _, .zrangebyscore _ => ["a", "b"]
  | _, .get id => some (queuedPlayer id)
  | _, .dateNow => (1000 : Nat)
  | _, .postRoom _ _ => true
  | _, .llen _ => (0 : Nat)
  | _, .metaExists _ => true
  | _, .findPlayer _ => none
  | _, .zadd _ _ _ => ()
  | _, .set _ _ => ()
  | _, .zrank _ _ => none
  | _, .zrem _ _ _ => ()
  | _, .del _ _ => ()
  | _, .expire _ => ()
  | _, .uuidv4 => (0 : Nat)
  | _, .setMatchRoom _ _ _ => ()
  | _, .publish _ _ => ()

theorem scanRegion_sound_twoWaiting :
    SoundScan ⟨100, 10, 500, "ws://relay"⟩ .usEast twoWaiting
      (entriesRead .usEast twoWaiting)
      (scanTurns ⟨100, 10, 500, "ws://relay"⟩ .usEast twoWaiting)
      (scanCalls ⟨100, 10, 500, "ws://relay"⟩ .usEast twoWaiting) ∧
    (scanTurns ⟨100, 10, 500, "ws://relay"⟩ .usEast twoWaiting).flatMap
      Turn.paired = ["a", "b"] :=
  ⟨scanRegion_sound _ _ _ (by decide) (by decide), by decide +kernel⟩

end Matcher

namespace Matchmaking

theorem filter_orderedInsert {id member : String} (other : member ≠ id)
    (elo : Int) (members : List (Int × String)) :
    (members.orderedInsert scoreLe (elo, member)).filter
        (fun member => member.2 = id) =
      members.filter fun member => member.2 = id := by
  induction members with
  | nil => simp [other]
  | cons first rest ih =>
      rw [List.orderedInsert_cons]
      split
      next => rw [List.filter_cons_of_neg (by simpa using other)]
      next => rw [List.filter_cons, List.filter_cons, ih]

theorem place_eq {m m' : Matchmaking} {id : String} {region : Region}
    {members : List (Int × String)}
    (queues : m'.queues = Function.update m.queues region members)
    (others : members.filter (fun member => member.2 = id) =
      (m.queues region).filter fun member => member.2 = id)
    (metas : m'.metas = m.metas) : m'.place id = m.place id := by
  apply QueuePlace.ext
  · funext which
    rw [place, place, queues]
    dsimp only
    by_cases same : which = region
    · rw [same, Function.update_self, others]
    · rw [Function.update_of_ne same]
  · exact congrFun metas id

theorem exec_place {task : Nat} {env : Env} {call : QueueCall}
    {m : Matchmaking} {id : String} (harmless : ¬ call.Touches id) :
    (exec task env call m).2.place id = m.place id := by
  have no_meta {key : String} {entry : Option QueueEntry}
      (other : key ≠ id) : (m.setMeta key entry).place id = m.place id :=
    QueuePlace.ext rfl (Function.update_of_ne (Ne.symm other) _ _)
  cases call with
  | zadd region elo member =>
      refine place_eq rfl ?_ rfl
      rw [filter_orderedInsert harmless, filter_withoutMember harmless]
  | zrem region member removal =>
      have same : (m.zrem region member).place id = m.place id :=
        place_eq rfl (filter_withoutMember harmless _) rfl
      cases removal <;> exact same
  | set key entry => exact no_meta harmless
  | del key removal => cases removal <;> exact no_meta harmless
  | expire key => exact no_meta harmless
  | postRoom request tickets =>
      change (m.postRoom env.relay _).place id = _
      rw [postRoom]
      split <;> rfl
  | _ => rfl

theorem alone_place {task : Nat} {envs : Nat → Env} {n : Nat} {α : Type}
    {run : QueueCode α} {m : Matchmaking} {id : String}
    (harmless : ∀ made ∈ (run.alone (exec task) envs n m).made,
      ¬ made.1.Touches id) :
    (run.alone (exec task) envs n m).state.place id = m.place id := by
  have keeps (env : Env) (call : QueueCall) (m : Matchmaking)
      (harmless : ¬ call.Touches id) :
      (exec task env call m).2.place id = m.place id := exec_place harmless
  exact Async.alone_keeps (exec task) envs keeps harmless

/-- From when its entries have been read, a scan by itself leaves whoever it
does not pair in his place. -/
theorem alone_pairEntries_place (config : MatchmakerConfig) (region : Region)
    (entries : List QueueEntry) (matched : List String) (task n : Nat)
    (envs : Nat → Env) (m : Matchmaking) :
    ∃ oracle : Oracle,
      ((Matcher.pairEntries config region entries matched).trace oracle n).1 =
        ((Matcher.pairEntries config region entries matched).alone (exec task)
          envs n m).made ∧
      ∀ id ∉ (Matcher.turns config region oracle n entries matched).flatMap
        Turn.paired,
        ((Matcher.pairEntries config region entries matched).alone (exec task)
          envs n m).state.place id = m.place id := by
  obtain ⟨oracle, traced⟩ := Async.alone_trace (exec task) envs n
    (Matcher.pairEntries config region entries matched) m
  refine ⟨oracle, congrArg Prod.fst traced, fun id unpaired => ?_⟩
  refine alone_place fun made call => Matcher.not_touches unpaired ?_
  rw [← Matcher.trace_pairEntries, traced]
  exact call

end Matchmaking

end FuryClash.Server
