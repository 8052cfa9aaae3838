import FuryClash.Server.Matcher
import Mathlib.Data.List.Nodup

namespace FuryClash.Server

open FuryClash.Data

/-! The contract that the tasks of the matchmaking keep, call by call: a join
that has been used is gone from the queue for good. -/

namespace Matchmaking

/-- A join is in one room at the most, and in none that its `DELETE` came
before. -/
structure UsedOnce (m : Matchmaking) : Prop where
  once : ∀ ticket,
    (m.rooms.filter fun room => ticket ∈ room.tickets).length ≤ 1
  notLeft : ∀ room ∈ m.rooms, ∀ ticket ∈ room.tickets,
    (room.request.roomId, ticket) ∉ m.barred

/-- What `createMatch` deletes is the very entry that the scan has read. -/
def StillQueued (m : Matchmaking) : QueueCall → Prop
  | .del id (.matching _ ticket) =>
      (m.metas id).map (·.ticket) = some ticket
  | _ => True

instance (m : Matchmaking) (call : QueueCall) :
    Decidable (m.StillQueued call) := by
  unfold StillQueued
  split
  · infer_instance
  · infer_instance

structure Valid (m : Matchmaking) : Prop where
  metas : ∀ id entry, m.metas id = some entry →
    entry ∈ m.joined ∧ entry.playerId = id ∧
      (∀ roomId, (roomId, entry.ticket) ∉ m.taken) ∧ entry.ticket ∉ m.left
  tickets : ∀ entry ∈ m.joined, ∀ other ∈ m.joined,
    entry.ticket = other.ticket → entry = other
  taken : ∀ roomId ticket, (roomId, ticket) ∈ m.taken →
    ∃ entry ∈ m.joined, entry.ticket = ticket
  left : ∀ ticket ∈ m.left, ∃ entry ∈ m.joined, entry.ticket = ticket
  takenOnce : ∀ roomId other ticket, (roomId, ticket) ∈ m.taken →
    (other, ticket) ∈ m.taken → roomId = other
  barred : ∀ roomId ticket, (roomId, ticket) ∈ m.barred →
    roomId < m.drawn.length ∧ ticket ∈ m.left
  ids : (m.rooms.map (·.request.roomId)).Nodup
  rooms : ∀ room ∈ m.rooms, room.request.roomId < m.drawn.length ∧
    ∀ ticket ∈ room.tickets, (room.request.roomId, ticket) ∈ m.taken ∧
      (room.request.roomId, ticket) ∉ m.barred

/-- What the other tasks leave to this one: the entry that it writes, and the
rooms whose id it has drawn. -/
structure Grows (task : Nat) (m m' : Matchmaking) : Prop where
  joined : m.joined ⊆ m'.joined
  own : ∀ entry ∈ m'.joined, entry.ticket = task → entry ∈ m.joined
  taken : m.taken ⊆ m'.taken
  drawn : m.drawn <+: m'.drawn
  rooms : ∀ room ∈ m'.rooms, m.drawn[room.request.roomId]? = some task →
    room ∈ m.rooms
  barred : ∀ roomId ticket, m.drawn[roomId]? = some task →
    (roomId, ticket) ∈ m'.barred → (roomId, ticket) ∈ m.barred

variable {task : Nat} {m m' m'' : Matchmaking}

theorem Valid.usedOnce (valid : m.Valid) : m.UsedOnce where
  once ticket := by
    have sameRoom : ∀ room ∈ m.rooms, ∀ other ∈ m.rooms,
        ticket ∈ room.tickets → ticket ∈ other.tickets → room = other := by
      intro room memRoom other memOther inRoom inOther
      refine List.inj_on_of_nodup_map valid.ids memRoom memOther ?_
      exact valid.takenOnce _ _ ticket
        ((valid.rooms room memRoom).2 ticket inRoom).1
        ((valid.rooms other memOther).2 ticket inOther).1
    have nodup := (List.Nodup.of_map _ valid.ids).filter
      fun room => decide (ticket ∈ room.tickets)
    generalize found : m.rooms.filter _ = rooms at nodup
    match rooms, nodup with
    | [], _ => exact Nat.zero_le _
    | [_], _ => exact Nat.le_refl _
    | first :: second :: _, nodup =>
        have memFirst : first ∈ m.rooms.filter fun room =>
            decide (ticket ∈ room.tickets) := by
          rw [found]
          exact List.mem_cons_self
        have memSecond : second ∈ m.rooms.filter fun room =>
            decide (ticket ∈ room.tickets) := by
          rw [found]
          exact List.mem_cons_of_mem _ List.mem_cons_self
        obtain ⟨inRooms, uses⟩ := List.mem_filter.mp memFirst
        obtain ⟨inRooms', uses'⟩ := List.mem_filter.mp memSecond
        have same := sameRoom first inRooms second inRooms'
          (of_decide_eq_true uses) (of_decide_eq_true uses')
        rw [same] at nodup
        exact (List.not_nodup_cons_of_mem List.mem_cons_self nodup).elim
  notLeft room mem ticket uses := ((valid.rooms room mem).2 ticket uses).2

theorem initial_valid : initial.Valid where
  metas _ _ entered := by cases entered
  tickets _ mem := by cases mem
  taken _ _ mem := by cases mem
  left _ mem := by cases mem
  takenOnce _ _ _ mem := by cases mem
  barred _ _ mem := by cases mem
  ids := List.nodup_nil
  rooms _ mem := by cases mem

theorem Grows.refl (task : Nat) (m : Matchmaking) : Grows task m m where
  joined := List.Subset.refl _
  own _ mem _ := mem
  taken := List.Subset.refl _
  drawn := List.prefix_refl _
  rooms _ mem _ := mem
  barred _ _ _ mem := mem

theorem Grows.still_drawn (grows : Grows task m m') {roomId : RoomId}
    {holder : Nat} (drawn : m.drawn[roomId]? = some holder) :
    m'.drawn[roomId]? = some holder := by
  obtain ⟨more, appended⟩ := grows.drawn
  obtain ⟨bound, _⟩ := List.getElem?_eq_some_iff.mp drawn
  rw [← appended, List.getElem?_append_left bound]
  exact drawn

theorem Grows.trans (first : Grows task m m') (second : Grows task m' m'') :
    Grows task m m'' where
  joined := List.Subset.trans first.joined second.joined
  own entry mem isOwn := first.own entry (second.own entry mem isOwn) isOwn
  taken := List.Subset.trans first.taken second.taken
  drawn := first.drawn.trans second.drawn
  rooms room mem drawn :=
    first.rooms room (second.rooms room mem (first.still_drawn drawn)) drawn
  barred roomId ticket drawn mem := first.barred roomId ticket drawn
    (second.barred roomId ticket (first.still_drawn drawn) mem)

def contract : Contract Matchmaking QueueCall where
  valid := Valid
  grows := Grows
  good := StillQueued
  refl := Grows.refl
  trans := Grows.trans

abbrev Keeps {α : Type} (task : Nat) (post : α → Matchmaking → Prop)
    (code : QueueCode α) (m : Matchmaking) : Prop :=
  code.Safe exec contract task post m

structure Calm (m m' : Matchmaking) : Prop where
  metas : ∀ id entry, m'.metas id = some entry → m.metas id = some entry
  joined : m'.joined = m.joined
  taken : m'.taken = m.taken
  left : m'.left = m.left
  drawn : m'.drawn = m.drawn
  rooms : m'.rooms = m.rooms
  barred : m'.barred = m.barred

def isCalm : QueueCall → Bool
  | .set _ _ => false
  | .zrem _ _ (.matching _ _) => false
  | .del _ .stale => true
  | .del _ _ => false
  | .uuidv4 => false
  | .postRoom _ _ => false
  | _ => true

theorem calm_exec {call : QueueCall} (calm : isCalm call = true) (env : Env)
    (m : Matchmaking) : Calm m (exec task env call m).2 := by
  cases call with
  | set _ _ => cases calm
  | uuidv4 => cases calm
  | postRoom _ _ => cases calm
  | zrem _ _ removal =>
      cases removal with
      | matching _ _ => cases calm
      | _ => exact ⟨fun _ _ same => same, rfl, rfl, rfl, rfl, rfl, rfl⟩
  | del id removal =>
      cases removal with
      | stale =>
          exact ⟨fun _ _ => of_setMeta_none, rfl, rfl, rfl, rfl, rfl, rfl⟩
      | _ => cases calm
  | expire id =>
      exact ⟨fun _ _ => of_setMeta_none, rfl, rfl, rfl, rfl, rfl, rfl⟩
  | _ => exact ⟨fun _ _ same => same, rfl, rfl, rfl, rfl, rfl, rfl⟩

theorem Valid.calm (valid : m.Valid) (calm : Calm m m') : m'.Valid := by
  obtain ⟨metas, joined, taken, left, drawn, rooms, barred⟩ := calm
  constructor
  · intro id entry entered
    rw [joined, taken, left]
    exact valid.metas id entry (metas id entry entered)
  · rw [joined]
    exact valid.tickets
  · rw [joined, taken]
    exact valid.taken
  · rw [joined, left]
    exact valid.left
  · rw [taken]
    exact valid.takenOnce
  · rw [barred, drawn, left]
    exact valid.barred
  · rw [rooms]
    exact valid.ids
  · rw [rooms, drawn, taken, barred]
    exact valid.rooms

theorem Grows.calm (calm : Calm m m') (task : Nat) : Grows task m m' := by
  obtain ⟨_, joined, taken, _, drawn, rooms, barred⟩ := calm
  constructor
  · rw [joined]
    exact List.Subset.refl _
  · rw [joined]
    exact fun _ mem _ => mem
  · rw [taken]
    exact List.Subset.refl _
  · exact (congrArg (m.drawn <+: ·) drawn).mpr (List.prefix_refl _)
  · rw [rooms]
    exact fun _ mem _ => mem
  · rw [barred]
    exact fun _ _ _ mem => mem

variable {α : Type} {post : α → Matchmaking → Prop}

theorem keeps_calm {call : QueueCall} {next : call.Answer → QueueCode α}
    (calm : isCalm call = true)
    (rest : ∀ m', Grows task m m' → ∀ answer, Keeps task post (next answer) m') :
    Keeps task post (.await call next) m := by
  intro later growth valid _ env
  have quiet := @calm_exec task _ calm env later
  exact ⟨valid.calm quiet, fun other _ => Grows.calm quiet other,
    rest _ (growth.trans (Grows.calm quiet task)) _⟩

theorem keeps_get {id : String} {next : Option QueueEntry → QueueCode α}
    (rest : ∀ m' answer, Grows task m m' →
      (∀ entry ∈ answer, entry ∈ m'.joined ∧ entry.playerId = id) →
      Keeps task post (next answer) m') :
    Keeps task post (.await (.get id) next) m := by
  intro later growth valid _ env
  refine ⟨valid, fun other _ => Grows.refl other later,
    rest later _ growth fun entry entered => ?_⟩
  obtain ⟨joined, isId, _⟩ := valid.metas id entry entered
  exact ⟨joined, isId⟩

theorem keeps_set {id : String} {entry : QueueEntry}
    {next : Unit → QueueCode α} (isOwn : entry.ticket = task)
    (isId : entry.playerId = id)
    (unwritten : ∀ old ∈ m.joined, old.ticket ≠ task)
    (rest : ∀ m', Keeps task post (next ()) m') :
    Keeps task post (.await (.set id entry) next) m := by
  subst isOwn
  intro later growth valid _ env
  have new : ∀ old ∈ later.joined, old.ticket ≠ entry.ticket :=
    fun old mem same => unwritten old (growth.own old mem same) same
  refine ⟨?_, fun other apart => ?_, rest _⟩
  · constructor
    · intro key found entered
      by_cases same : key = id
      · subst same
        have isNew : entry = found := by
          simpa [exec, setMeta] using entered
        subst isNew
        refine ⟨List.mem_cons_self, isId, fun roomId taken => ?_,
          fun left => ?_⟩
        · obtain ⟨old, mem, same⟩ := valid.taken roomId _ taken
          exact new old mem same
        · obtain ⟨old, mem, same⟩ := valid.left _ left
          exact new old mem same
      · have entered : later.metas key = some found := by
          simpa [exec, setMeta, Function.update_of_ne same] using entered
        obtain ⟨joined, unused⟩ := valid.metas key found entered
        exact ⟨List.mem_cons_of_mem _ joined, unused⟩
    · intro first memFirst second memSecond same
      rcases List.mem_cons.mp memFirst with rfl | oldFirst
      · rcases List.mem_cons.mp memSecond with rfl | oldSecond
        · rfl
        · exact (new second oldSecond same.symm).elim
      · rcases List.mem_cons.mp memSecond with rfl | oldSecond
        · exact (new first oldFirst same).elim
        · exact valid.tickets first oldFirst second oldSecond same
    · intro roomId ticket taken
      obtain ⟨old, mem, same⟩ := valid.taken roomId ticket taken
      exact ⟨old, List.mem_cons_of_mem _ mem, same⟩
    · intro ticket left
      obtain ⟨old, mem, same⟩ := valid.left ticket left
      exact ⟨old, List.mem_cons_of_mem _ mem, same⟩
    · exact valid.takenOnce
    · exact valid.barred
    · exact valid.ids
    · exact valid.rooms
  · constructor
    · exact List.subset_cons_self _ _
    · intro old mem others
      rcases List.mem_cons.mp mem with rfl | mem
      · exact (apart others.symm).elim
      · exact mem
    · exact List.Subset.refl _
    · exact List.prefix_refl _
    · exact fun _ mem _ => mem
    · exact fun _ _ _ mem => mem

/-- A deletion takes the entry of one join out, and no other key has it. -/
theorem Valid.deleted (valid : m.Valid) {id : String} {entry : QueueEntry}
    (joined : entry ∈ m.joined) (isId : entry.playerId = id) {key : String}
    {found : QueueEntry}
    (entered : (m.setMeta id none).metas key = some found) :
    m.metas key = some found ∧ found.ticket ≠ entry.ticket := by
  have apart : key ≠ id := by
    rintro rfl
    simp [setMeta] at entered
  have entered : m.metas key = some found := by
    simpa [setMeta, Function.update_of_ne apart] using entered
  refine ⟨entered, fun same => apart ?_⟩
  obtain ⟨mem, isKey, _⟩ := valid.metas key found entered
  rw [← isKey, valid.tickets found mem entry joined same, isId]

theorem keeps_leave {id : String} {entry : QueueEntry}
    {next : Unit → QueueCode α} (joined : entry ∈ m.joined)
    (isId : entry.playerId = id) (rest : ∀ m', Keeps task post (next ()) m') :
    Keeps task post (.await (.del id (.leaving entry.ticket)) next) m := by
  intro later growth valid _ env
  have joined := growth.joined joined
  refine ⟨?_, fun other _ => ?_, rest _⟩
  · constructor
    · intro key found entered
      obtain ⟨before, apart⟩ := valid.deleted joined isId entered
      obtain ⟨mem, isKey, taken, left⟩ := valid.metas key found before
      refine ⟨mem, isKey, taken, fun leaves => ?_⟩
      rcases List.mem_cons.mp leaves with same | leaves
      · exact apart same
      · exact left leaves
    · exact valid.tickets
    · exact valid.taken
    · intro ticket leaves
      rcases List.mem_cons.mp leaves with rfl | leaves
      · exact ⟨entry, joined, rfl⟩
      · exact valid.left ticket leaves
    · exact valid.takenOnce
    · intro roomId ticket barred
      obtain ⟨bound, left⟩ := valid.barred roomId ticket barred
      exact ⟨bound, List.mem_cons_of_mem _ left⟩
    · exact valid.ids
    · exact valid.rooms
  · constructor
    · exact List.Subset.refl _
    · exact fun _ mem _ => mem
    · exact List.Subset.refl _
    · exact List.prefix_refl _
    · exact fun _ mem _ => mem
    · exact fun _ _ _ mem => mem

structure Mine (task : Nat) (roomId : RoomId) (m : Matchmaking) : Prop where
  drawn : m.drawn[roomId]? = some task
  unmade : ∀ room ∈ m.rooms, room.request.roomId ≠ roomId

def Removed (roomId : RoomId) (tickets : List Ticket) (m : Matchmaking) :
    Prop :=
  ∀ ticket ∈ tickets, (roomId, ticket) ∈ m.taken ∧
    (roomId, ticket) ∉ m.barred

theorem Removed.nil (roomId : RoomId) : Removed roomId [] m :=
  fun _ mem => by cases mem

theorem Mine.mono {roomId : RoomId} (mine : Mine task roomId m)
    (growth : Grows task m m') : Mine task roomId m' where
  drawn := growth.still_drawn mine.drawn
  unmade room mem same :=
    mine.unmade room (growth.rooms room mem (same ▸ mine.drawn)) same

theorem Removed.mono {roomId : RoomId} {tickets : List Ticket}
    (removed : Removed roomId tickets m) (mine : Mine task roomId m)
    (growth : Grows task m m') : Removed roomId tickets m' := by
  intro ticket mem
  obtain ⟨taken, notBarred⟩ := removed ticket mem
  exact ⟨growth.taken taken,
    fun barred => notBarred (growth.barred _ _ mine.drawn barred)⟩

theorem keeps_uuidv4 {next : RoomId → QueueCode α}
    (rest : ∀ m' roomId, Mine task roomId m' →
      Keeps task post (next roomId) m') :
    Keeps task post (.await .uuidv4 next) m := by
  intro later _ valid _ env
  have longer : later.drawn <+: later.drawn ++ [task] := List.prefix_append ..
  have bound {roomId : RoomId} (drawn : roomId < later.drawn.length) :
      roomId < (later.drawn ++ [task]).length :=
    Nat.lt_of_lt_of_le drawn longer.length_le
  refine ⟨?_, fun other _ => ?_, rest _ _ ⟨?_, ?_⟩⟩
  · exact ⟨valid.metas, valid.tickets, valid.taken, valid.left,
      valid.takenOnce,
      fun roomId ticket barred =>
        ⟨bound (valid.barred roomId ticket barred).1,
          (valid.barred roomId ticket barred).2⟩,
      valid.ids,
      fun room mem => ⟨bound (valid.rooms room mem).1,
        (valid.rooms room mem).2⟩⟩
  · exact ⟨List.Subset.refl _, fun _ mem _ => mem, List.Subset.refl _, longer,
      fun _ mem _ => mem, fun _ _ _ mem => mem⟩
  · exact List.getElem?_concat_length
  · exact fun room mem => Nat.ne_of_lt (valid.rooms room mem).1

theorem mem_barred_noteRemoval {region : Region} {id : String}
    {roomId other : RoomId} {ticket old : Ticket}
    (barred : (other, old) ∈
      ((m.zrem region id).noteRemoval (.matching roomId ticket)).barred) :
    (other, old) ∈ m.barred ∨
      other = roomId ∧ old = ticket ∧ ticket ∈ m.left := by
  rw [noteRemoval] at barred
  dsimp only at barred
  split at barred
  next left =>
    rcases List.mem_cons.mp barred with same | barred
    · cases same
      exact .inr ⟨rfl, rfl, left⟩
    · exact .inl barred
  next => exact .inl barred

def Removing (roomId : RoomId) (tickets : List Ticket) (ticket : Ticket)
    (m : Matchmaking) : Prop :=
  ∀ old ∈ tickets, (roomId, old) ∈ m.taken ∧
    ((roomId, old) ∈ m.barred → old = ticket)

theorem Removing.mono {roomId : RoomId} {tickets : List Ticket}
    {ticket : Ticket} (removing : Removing roomId tickets ticket m)
    (mine : Mine task roomId m) (growth : Grows task m m') :
    Removing roomId tickets ticket m' := by
  intro old mem
  obtain ⟨taken, onlyThis⟩ := removing old mem
  exact ⟨growth.taken taken,
    fun barred => onlyThis (growth.barred _ _ mine.drawn barred)⟩

theorem keeps_zrem {roomId : RoomId} {tickets : List Ticket}
    {region : Region} {id : String} {ticket : Ticket}
    {next : Unit → QueueCode α} (mine : Mine task roomId m)
    (removed : Removed roomId tickets m)
    (rest : ∀ m', Mine task roomId m' → Removing roomId tickets ticket m' →
      Keeps task post (next ()) m') :
    Keeps task post
      (.await (.zrem region id (.matching roomId ticket)) next) m := by
  intro later growth valid _ env
  have removed := removed.mono mine growth
  have mine := mine.mono growth
  obtain ⟨bound, _⟩ := List.getElem?_eq_some_iff.mp mine.drawn
  refine ⟨?_, fun other apart => ?_, rest _ ⟨mine.drawn, mine.unmade⟩ ?_⟩
  · refine ⟨valid.metas, valid.tickets, valid.taken, valid.left,
      valid.takenOnce, fun which old barred => ?_, valid.ids,
      fun room mem => ⟨(valid.rooms room mem).1, fun old uses => ?_⟩⟩
    · rcases mem_barred_noteRemoval barred with before | ⟨rfl, rfl, left⟩
      · exact valid.barred which old before
      · exact ⟨bound, left⟩
    · obtain ⟨taken, notBarred⟩ := (valid.rooms room mem).2 old uses
      refine ⟨taken, fun barred => ?_⟩
      rcases mem_barred_noteRemoval barred with before | ⟨same, _⟩
      · exact notBarred before
      · exact mine.unmade room mem same
  · refine ⟨List.Subset.refl _, fun _ mem _ => mem, List.Subset.refl _,
      List.prefix_refl _, fun _ mem _ => mem, fun which old drawn barred => ?_⟩
    rcases mem_barred_noteRemoval barred with before | ⟨rfl, _⟩
    · exact before
    · exact (apart (Option.some.inj (drawn.symm.trans mine.drawn))).elim
  · intro old mem
    obtain ⟨taken, notBarred⟩ := removed old mem
    refine ⟨taken, fun barred => ?_⟩
    rcases mem_barred_noteRemoval barred with before | ⟨_, same, _⟩
    · exact (notBarred before).elim
    · exact same

theorem keeps_del {roomId : RoomId} {tickets : List Ticket}
    {id : String} {ticket : Ticket} {next : Unit → QueueCode α}
    (mine : Mine task roomId m) (removing : Removing roomId tickets ticket m)
    (rest : ∀ m', Mine task roomId m' →
      Removed roomId (tickets ++ [ticket]) m' → Keeps task post (next ()) m') :
    Keeps task post (.await (.del id (.matching roomId ticket)) next) m := by
  intro later growth valid stillQueued env
  have removing := removing.mono mine growth
  have mine := mine.mono growth
  obtain ⟨entry, entered, rfl⟩ := Option.map_eq_some_iff.mp stillQueued
  obtain ⟨joined, isId, untaken, unleft⟩ := valid.metas id entry entered
  refine ⟨?_, fun other apart => ?_, rest _ ⟨mine.drawn, mine.unmade⟩ ?_⟩
  · constructor
    · intro key found entered
      obtain ⟨before, apart⟩ := valid.deleted joined isId entered
      obtain ⟨mem, isKey, taken, left⟩ := valid.metas key found before
      refine ⟨mem, isKey, fun which takes => ?_, left⟩
      rcases List.mem_cons.mp takes with same | takes
      · exact apart (congrArg Prod.snd same)
      · exact taken which takes
    · exact valid.tickets
    · intro which ticket taken
      rcases List.mem_cons.mp taken with same | taken
      · cases same
        exact ⟨entry, joined, rfl⟩
      · exact valid.taken which ticket taken
    · exact valid.left
    · intro which other ticket taken takenToo
      rcases List.mem_cons.mp taken with same | old
      · cases same
        rcases List.mem_cons.mp takenToo with same | oldToo
        · exact (congrArg Prod.fst same).symm
        · exact (untaken other oldToo).elim
      · rcases List.mem_cons.mp takenToo with same | oldToo
        · cases same
          exact (untaken which old).elim
        · exact valid.takenOnce which other ticket old oldToo
    · exact valid.barred
    · exact valid.ids
    · intro room mem
      obtain ⟨bound, uses⟩ := valid.rooms room mem
      exact ⟨bound, fun ticket used =>
        ⟨List.mem_cons_of_mem _ (uses ticket used).1, (uses ticket used).2⟩⟩
  · exact ⟨List.Subset.refl _, fun _ mem _ => mem, List.subset_cons_self _ _,
      List.prefix_refl _, fun _ mem _ => mem, fun _ _ _ mem => mem⟩
  · intro old mem
    rcases List.mem_append.mp mem with before | same
    · obtain ⟨taken, onlyThis⟩ := removing old before
      refine ⟨List.mem_cons_of_mem _ taken, fun barred => ?_⟩
      rw [onlyThis barred] at taken
      exact untaken roomId taken
    · cases List.mem_singleton.mp same
      exact ⟨List.mem_cons_self,
        fun barred => unleft (valid.barred _ _ barred).2⟩

theorem keeps_postRoom {request : RoomRequest} {tickets : List Ticket}
    {next : Bool → QueueCode α} (mine : Mine task request.roomId m)
    (removed : Removed request.roomId tickets m)
    (rest : ∀ m' answer, Keeps task post (next answer) m') :
    Keeps task post (.await (.postRoom request tickets) next) m := by
  intro later growth valid _ env
  have removed := removed.mono mine growth
  have mine := mine.mono growth
  obtain ⟨bound, _⟩ := List.getElem?_eq_some_iff.mp mine.drawn
  suffices made : (later.postRoom env.relay ⟨request, tickets⟩).Valid ∧
      ∀ other, other ≠ task →
        Grows other later (later.postRoom env.relay ⟨request, tickets⟩) from
    ⟨made.1, made.2, rest _ _⟩
  rw [postRoom]
  split
  next => exact ⟨valid, fun other _ => Grows.refl other later⟩
  next =>
    refine ⟨⟨valid.metas, valid.tickets, valid.taken, valid.left,
      valid.takenOnce, valid.barred, ?_, fun room mem => ?_⟩,
      fun other apart => ⟨List.Subset.refl _, fun _ mem _ => mem,
        List.Subset.refl _, List.prefix_refl _, fun room mem drawn => ?_,
        fun _ _ _ mem => mem⟩⟩
    · rw [List.map_append, List.map_singleton]
      refine List.nodup_append.mpr ⟨valid.ids, List.nodup_singleton _, ?_⟩
      intro roomId mem new isNew same
      obtain ⟨room, memRoom, rfl⟩ := List.mem_map.mp mem
      cases List.mem_singleton.mp isNew
      exact mine.unmade room memRoom same
    · rcases List.mem_append.mp mem with old | new
      · exact valid.rooms room old
      · cases List.mem_singleton.mp new
        exact ⟨bound, removed⟩
    · rcases List.mem_append.mp mem with old | new
      · exact old
      · cases List.mem_singleton.mp new
        exact (apart (Option.some.inj (drawn.symm.trans mine.drawn))).elim

end Matchmaking

end FuryClash.Server
