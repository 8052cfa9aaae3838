import FuryClash.Data.Table
import FuryClash.Server.Admission

namespace FuryClash.Server

open FuryClash.Data

variable {R : Type} [Field R] [LinearOrder R] [FloorRing R]
  {runtime : JsRuntime} {config : RelayConfig}
  {expectedScore : Int → Int → R}

namespace RoomManager

def isLive (m : RoomManager) (ref : RoomRef) : Bool :=
  match m.created[ref]? with
  | some room => decide (room.state ≠ .closed)
  | none => false

def liveRooms (m : RoomManager) : List RoomRef :=
  (List.range m.created.length).filter m.isLive

/-- The key under which the room of the reference is to be found. -/
def keyOf (m : RoomManager) (ref : RoomRef) : RoomKey :=
  match m.created[ref]? with
  | some room => roomKey ref room.cfg.roomId
  | none => .object ref

structure ExactTable (config : RelayConfig) (m : RoomManager) : Prop where
  found : ∀ ref ∈ m.liveRooms, m.rooms.lookup (m.keyOf ref) = some ref
  /-- A `CLIENT_JOIN` can name the key. -/
  named : ∀ ref ∈ m.liveRooms, ∃ id, m.keyOf ref = .value id
  live : ∀ key ref, m.rooms.lookup key = some ref →
    ref ∈ m.liveRooms ∧ key = m.keyOf ref
  size : m.rooms.keys.length = m.liveRooms.length
  capacity : m.rooms.keys.length ≤ config.maxRooms

/-- A call that succeeds names an id that is no object and that no live room
has. -/
def NewIds (config : RelayConfig) (m : RoomManager) : ManagerEvent → Prop
  | .createRoom cfg =>
      m.crashed = false → m.rooms.keys.length < config.maxRooms →
        (primitive (Json.get "roomId" cfg.spread)).isSome = true ∧
          ∀ ref ∈ m.liveRooms, m.keyOf ref ≠
            roomKey m.created.length (Json.get "roomId" cfg.spread)
  | _ => True

instance (m : RoomManager) :
    (event : ManagerEvent) → Decidable (m.NewIds config event)
  | .createRoom _ =>
      inferInstanceAs (Decidable (_ → _ → _ ∧ ∀ ref ∈ m.liveRooms, _))
  | .message _ _ _ => isTrue trivial
  | .closing _ => isTrue trivial
  | .close _ _ => isTrue trivial
  | .pingTimer _ _ => isTrue trivial
  | .forfeit _ _ _ => isTrue trivial
  | .db _ => isTrue trivial

structure Tabled (config : RelayConfig) (m : RoomManager) : Prop where
  exact : m.ExactTable config
  ids : ∀ room ∈ m.created, (primitive room.cfg.roomId).isSome = true

variable {m m' : RoomManager} {event : ManagerEvent}

theorem mem_liveRooms {ref : RoomRef} :
    ref ∈ m.liveRooms ↔ ∃ room, m.created[ref]? = some room ∧
      room.state ≠ .closed := by
  rw [liveRooms, List.mem_filter, List.mem_range, isLive]
  constructor
  · rintro ⟨_, isLive⟩
    split at isLive
    next room held => exact ⟨room, held, of_decide_eq_true isLive⟩
    next => cases isLive
  · rintro ⟨room, held, notClosed⟩
    obtain ⟨bound, _⟩ := List.getElem?_eq_some_iff.mp held
    refine ⟨bound, ?_⟩
    rw [held]
    exact decide_eq_true notClosed

theorem keyOf_of_held {ref : RoomRef} {room : RelayRoom}
    (held : m.created[ref]? = some room) :
    m.keyOf ref = roomKey ref room.cfg.roomId := by
  rw [keyOf, held]

theorem nodup_liveRooms (m : RoomManager) : m.liveRooms.Nodup :=
  List.nodup_range.filter _

theorem keyOf_of_primitive {ref : RoomRef} {room : RelayRoom}
    (held : m.created[ref]? = some room)
    (isId : (primitive room.cfg.roomId).isSome = true) :
    ∃ id, m.keyOf ref = .value id := by
  obtain ⟨id, isPrimitive⟩ := Option.isSome_iff_exists.mp isId
  refine ⟨id, ?_⟩
  rw [keyOf_of_held held, roomKey, isPrimitive]

theorem toStringThrows_of_primitive {id : JsVal}
    (isId : (primitive id).isSome = true) : id.toStringThrows = false := by
  rcases id with _ | (_ | _ | _ | _ | _ | _)
  all_goals first
    | rfl
    | cases isId

theorem ExactTable.of_entries
    (found : ∀ ref ∈ m.liveRooms, m.rooms.lookup (m.keyOf ref) = some ref)
    (named : ∀ ref ∈ m.liveRooms, ∃ id, m.keyOf ref = .value id)
    (live : ∀ key ref, m.rooms.lookup key = some ref →
      ref ∈ m.liveRooms ∧ key = m.keyOf ref)
    (capacity : m.rooms.keys.length ≤ config.maxRooms) :
    m.ExactTable config :=
  ⟨found, named, live,
    length_keys_of_values m.keyOf m.nodup_liveRooms found live, capacity⟩

theorem ExactTable.of_same (table : m.ExactTable config)
    (rooms : m'.rooms = m.rooms)
    (live : ∀ ref, ref ∈ m'.liveRooms ↔ ref ∈ m.liveRooms)
    (keys : ∀ ref, m'.keyOf ref = m.keyOf ref) : m'.ExactTable config := by
  refine .of_entries (fun ref isLive => ?_) (fun ref isLive => ?_)
    (fun key ref at_key => ?_) ?_
  · rw [rooms, keys]
    exact table.found ref ((live ref).mp isLive)
  · rw [keys]
    exact table.named ref ((live ref).mp isLive)
  · rw [rooms] at at_key
    rw [live, keys]
    exact table.live key ref at_key
  · rw [rooms]
    exact table.capacity

theorem liveRooms_of_created (created : m'.created = m.created)
    (ref : RoomRef) : ref ∈ m'.liveRooms ↔ ref ∈ m.liveRooms := by
  rw [mem_liveRooms, mem_liveRooms, created]

theorem keyOf_of_created (created : m'.created = m.created)
    (ref : RoomRef) : m'.keyOf ref = m.keyOf ref := by
  rw [keyOf, keyOf, created]

theorem keyOf_set {ref : RoomRef} {room room' : RelayRoom}
    (held : m.created[ref]? = some room)
    (created : m'.created = m.created.set ref room')
    (cfg : room'.cfg = room.cfg) (which : RoomRef) :
    m'.keyOf which = m.keyOf which := by
  by_cases same : ref = which
  · subst same
    have held' : m'.created[ref]? = some room' := by
      rw [created, getElem?_set_of_held held, if_pos rfl]
    rw [keyOf_of_held held, keyOf_of_held held', cfg]
  · rw [keyOf, keyOf, created, getElem?_set_of_held held, if_neg same]

theorem mem_liveRooms_set {ref : RoomRef} {room room' : RelayRoom}
    (held : m.created[ref]? = some room)
    (created : m'.created = m.created.set ref room') {which : RoomRef} :
    which ∈ m'.liveRooms ↔
      if ref = which then room'.state ≠ .closed else which ∈ m.liveRooms := by
  rw [mem_liveRooms, created, getElem?_set_of_held held]
  split
  next => simp
  next => exact mem_liveRooms.symm

theorem Tabled.step_ids (tabled : m.Tabled config)
    (newIds : m.NewIds config event)
    (moves : Moves runtime config expectedScore m event m') :
    ∀ room ∈ m'.created, (primitive room.cfg.roomId).isSome = true := by
  have unmoved (created : m'.created = m.created) :
      ∀ room ∈ m'.created, (primitive room.cfg.roomId).isSome = true := by
    rw [created]
    exact tabled.ids
  have setOne {ref : RoomRef} {room room' : RelayRoom}
      (held : m.created[ref]? = some room)
      (created : m'.created = m.created.set ref room')
      (cfg : room'.cfg = room.cfg) :
      ∀ room ∈ m'.created, (primitive room.cfg.roomId).isSome = true := by
    have own := tabled.ids room (List.mem_of_getElem? held)
    rw [← cfg] at own
    rw [created]
    exact forall_mem_set tabled.ids own ref
  cases moves with
  | idle same _ => exact unmoved same.created
  | create running space _ created _ _ =>
      intro room mem
      rw [created] at mem
      rcases List.mem_append.mp mem with old | new
      · exact tabled.ids room old
      · cases List.mem_singleton.mp new
        exact (newIds running space).1
  | seat _ _ _ _ held _ attached _ created _ _ _ _ =>
      exact setOne held created attached.cfg
  | relay held same _ created _ _ => exact setOne held created same.cfg
  | finish _ held _ _ created _ _ => exact setOne held created rfl
  | lose _ held _ _ created _ cfg _ _ => exact setOne held created cfg
  | persist _ created _ _ => exact unmoved created

theorem liveRooms_lt {ref : RoomRef} (isLive : ref ∈ m.liveRooms) :
    ref < m.created.length := by
  obtain ⟨room, held, _⟩ := mem_liveRooms.mp isLive
  exact (List.getElem?_eq_some_iff.mp held).1

theorem ExactTable.create (table : m.ExactTable config) {cfg : RoomConfig}
    {key : RoomKey} (isKey : key = roomKey m.created.length cfg.roomId)
    (isId : (primitive cfg.roomId).isSome = true) (space : m.rooms.keys.length < config.maxRooms)
    (newId : ∀ ref ∈ m.liveRooms, m.keyOf ref ≠ key)
    (rooms : m'.rooms = m.rooms.insert key m.created.length)
    (created : m'.created = m.created ++ [.new cfg]) :
    m'.ExactTable config := by
  have old {ref : RoomRef} (bound : ref < m.created.length) :
      m'.created[ref]? = m.created[ref]? := by
    rw [created, List.getElem?_append_left bound]
  have new : m'.created[m.created.length]? = some (.new cfg) := by
    rw [created, List.getElem?_concat_length]
  have newKey : m'.keyOf m.created.length = key := by
    rw [keyOf_of_held new, isKey]
    rfl
  have oldKey {ref : RoomRef} (bound : ref < m.created.length) :
      m'.keyOf ref = m.keyOf ref := by
    rw [keyOf, keyOf, old bound]
  have oldLive {ref : RoomRef} (bound : ref < m.created.length) :
      ref ∈ m'.liveRooms ↔ ref ∈ m.liveRooms := by
    rw [mem_liveRooms, mem_liveRooms, old bound]
  have newLive : m.created.length ∈ m'.liveRooms :=
    mem_liveRooms.mpr ⟨_, new, fun closed => by cases closed⟩
  have oldOrNew {ref : RoomRef} (isLive : ref ∈ m'.liveRooms) :
      ref ∈ m.liveRooms ∧ ref < m.created.length ∨
        ref = m.created.length := by
    have bound := liveRooms_lt isLive
    rw [created, List.length_append, List.length_singleton] at bound
    rcases Nat.lt_succ_iff_lt_or_eq.mp bound with bound | same
    · exact .inl ⟨(oldLive bound).mp isLive, bound⟩
    · exact .inr same
  refine .of_entries (fun ref isLive => ?_) (fun ref isLive => ?_)
    (fun k ref at_k => ?_) ?_
  · rcases oldOrNew isLive with ⟨wasLive, bound⟩ | rfl
    · rw [rooms, oldKey bound, AList.lookup_insert_ne (newId ref wasLive)]
      exact table.found ref wasLive
    · rw [rooms, newKey, AList.lookup_insert]
  · rcases oldOrNew isLive with ⟨wasLive, bound⟩ | rfl
    · rw [oldKey bound]
      exact table.named ref wasLive
    · exact keyOf_of_primitive new isId
  · rw [rooms] at at_k
    by_cases same : k = key
    · subst same
      rw [AList.lookup_insert] at at_k
      cases at_k
      exact ⟨newLive, newKey.symm⟩
    · rw [AList.lookup_insert_ne same] at at_k
      obtain ⟨wasLive, isKey⟩ := table.live k ref at_k
      have bound := liveRooms_lt wasLive
      rw [oldLive bound, oldKey bound]
      exact ⟨wasLive, isKey⟩
  · rw [rooms, AList.keys_insert, List.length_cons]
    have shorter := @List.length_erase_le _ _ key m.rooms.keys
    omega

theorem ExactTable.finish (table : m.ExactTable config) {ref : RoomRef}
    {room : RelayRoom} (held : m.created[ref]? = some room)
    (live : room.state ≠ .closed)
    (rooms : m'.rooms = m.rooms.erase (roomKey ref room.cfg.roomId))
    (created : m'.created = m.created.set ref
      { room with state := .closed, pingTimer := false }) :
    m'.ExactTable config := by
  have keys (which : RoomRef) : m'.keyOf which = m.keyOf which :=
    keyOf_set held created rfl which
  have lives {which : RoomRef} :
      which ∈ m'.liveRooms ↔ which ≠ ref ∧ which ∈ m.liveRooms := by
    rw [mem_liveRooms_set held created]
    by_cases same : ref = which
    · simp [same]
    · simp [same, Ne.symm same]
  have ended := table.found ref (mem_liveRooms.mpr ⟨room, held, live⟩)
  rw [← keyOf_of_held held] at rooms
  refine .of_entries (fun which isLive => ?_) (fun which isLive => ?_)
    (fun k which at_k => ?_) ?_
  · obtain ⟨other, wasLive⟩ := lives.mp isLive
    have there := table.found which wasLive
    have apart : m.keyOf which ≠ m.keyOf ref := by
      intro same
      rw [same, ended] at there
      exact other (Option.some.inj there).symm
    rw [rooms, keys, AList.lookup_erase_ne apart]
    exact there
  · rw [keys]
    exact table.named which (lives.mp isLive).2
  · rw [rooms] at at_k
    have apart : k ≠ m.keyOf ref := by
      rintro rfl
      rw [AList.lookup_erase] at at_k
      cases at_k
    rw [AList.lookup_erase_ne apart] at at_k
    obtain ⟨wasLive, isKey⟩ := table.live k which at_k
    rw [lives, keys]
    refine ⟨⟨?_, wasLive⟩, isKey⟩
    rintro rfl
    exact apart isKey
  · rw [rooms, AList.keys_erase]
    exact (List.length_erase_le ..).trans table.capacity

theorem Tabled.step (tabled : m.Tabled config)
    (newIds : m.NewIds config event)
    (moves : Moves runtime config expectedScore m event m') :
    m'.Tabled config := by
  refine ⟨?_, tabled.step_ids newIds moves⟩
  cases moves with
  | idle same _ =>
      exact tabled.exact.of_same same.rooms
        (liveRooms_of_created same.created) (keyOf_of_created same.created)
  | create running space rooms created _ _ =>
      obtain ⟨isId, newId⟩ := newIds running space
      exact tabled.exact.create rfl isId space newId rooms created
  | @seat _ _ _ _ _ ref room room' _ _ _ _ _ _ found held _ attached rooms
      created _ _ _ _ =>
      have isLive := (tabled.exact.live _ ref found).1
      refine tabled.exact.of_same rooms (fun which => ?_)
        (keyOf_set held created attached.cfg)
      rw [mem_liveRooms_set held created]
      by_cases same : ref = which
      · subst same
        obtain ⟨known, at_ref, notClosed⟩ := mem_liveRooms.mp isLive
        cases held.symm.trans at_ref
        rw [if_pos rfl, attached.state]
        refine iff_of_true ?_ isLive
        split
        next => decide
        next => exact notClosed
      · rw [if_neg same]
  | @relay _ _ _ ref room room' _ held same rooms created _ _ =>
      refine tabled.exact.of_same rooms (fun which => ?_)
        (keyOf_set held created same.cfg)
      rw [mem_liveRooms_set held created, same.state]
      by_cases here : ref = which
      · subst here
        rw [if_pos rfl, mem_liveRooms]
        constructor
        · exact fun notClosed => ⟨room, held, notClosed⟩
        · rintro ⟨known, at_ref, notClosed⟩
          cases held.symm.trans at_ref
          exact notClosed
      · rw [if_neg here]
  | finish _ held live rooms created _ _ =>
      exact tabled.exact.finish held live rooms created
  | lose _ held throws _ _ _ _ _ _ =>
      have isId := tabled.ids _ (List.mem_of_getElem? held)
      rw [toStringThrows_of_primitive isId] at throws
      cases throws
  | persist rooms created _ _ =>
      exact tabled.exact.of_same rooms (liveRooms_of_created created)
        (keyOf_of_created created)

/-- A new room that cannot be named, or that takes the place of a live one. -/
theorem not_exactTable_of_oldId (oldId : ¬ m.NewIds config event) :
    ¬ (RoomManager.step runtime config expectedScore m event).ExactTable
      config := by
  cases event with
  | createRoom cfg =>
      simp only [NewIds, Classical.not_imp] at oldId
      obtain ⟨running, space, notNew⟩ := oldId
      intro table
      have calls : RoomManager.step runtime config expectedScore m
          (.createRoom cfg) = m.createRoom config cfg := by
        simp [RoomManager.step, running, handle]
      rw [calls, createRoom, if_neg (Nat.not_le_of_lt space)] at table
      refine notNew ⟨?_, fun ref isLive same => ?_⟩
      · have new : (m.created ++ [RelayRoom.new
            (.ofJson cfg config.pingIntervalMs)])[m.created.length]? =
            some (.new (.ofJson cfg config.pingIntervalMs)) :=
          List.getElem?_concat_length
        obtain ⟨id, isKey⟩ := table.named m.created.length
          (mem_liveRooms.mpr ⟨_, new, fun closed => by cases closed⟩)
        rw [keyOf_of_held new, roomKey] at isKey
        split at isKey
        next id isPrimitive =>
          exact Option.isSome_iff_exists.mpr ⟨id, isPrimitive⟩
        next => cases isKey
      · have bound := liveRooms_lt isLive
        obtain ⟨room, held, live⟩ := mem_liveRooms.mp isLive
        have still : (m.created ++ [RelayRoom.new
            (.ofJson cfg config.pingIntervalMs)])[ref]? = some room := by
          rw [List.getElem?_append_left bound, held]
        have found := table.found ref (mem_liveRooms.mpr ⟨room, still, live⟩)
        rw [keyOf_of_held still, ← keyOf_of_held held, same] at found
        -- the entry of the live room is the new room's
        have taken := found.symm.trans (AList.lookup_insert m.rooms)
        cases Option.some.inj taken
        exact absurd bound (Nat.lt_irrefl _)
  | _ => exact (oldId trivial).elim

theorem initial_tabled (players : String → Option Player) :
    (initial players).Tabled config where
  exact := .of_entries (fun ref isLive => by cases isLive)
    (fun ref isLive => by cases isLive) (fun key ref at_key => by cases at_key)
    (Nat.zero_le _)
  ids room mem := by cases mem

/-- The table is exact in every state of a run if and only if every call that
creates a room names an id that is not in use, and no object. -/
theorem exactTable_iff_newIds (players : String → Option Player)
    (events : List ManagerEvent) :
    (RoomManager.step runtime config expectedScore).Always
        (ExactTable config) (.initial players) events ↔
      (RoomManager.step runtime config expectedScore).Along
        (NewIds config) (.initial players) events :=
  Machine.always_iff_along (Tabled config)
    (fun _ _ tabled newIds => tabled.step newIds (step_moves _ _))
    (fun _ tabled => tabled.exact) (fun _ _ _ => not_exactTable_of_oldId)
    (initial_tabled players)

end RoomManager

/-- Of two rooms with one id the table has only the second. -/
theorem not_exactTable_same_id :
    ¬ (RoomManager.step joinRuntime relayConfig evenScore).Always
      (RoomManager.ExactTable relayConfig) (.initial noPlayers)
      [.createRoom (roomJson "room" "a" "b"),
        .createRoom (roomJson "room" "c" "d")] := by
  intro always
  have sizes := always.last.size
  revert sizes
  decide +kernel

end FuryClash.Server
