import FuryClash.Data.Traces
import FuryClash.Server.Matcher

namespace FuryClash.Server

open FuryClash.Data

/-! What `createMatch` leaves of the places that its two players have in the
queue, when nobody else uses it. -/

@[ext] structure QueuePlace where
  members : Region → List (Int × String)
  entry : Option QueueEntry

namespace Matchmaking

def place (id : String) (m : Matchmaking) : QueuePlace where
  members region := (m.queues region).filter fun member => member.2 = id
  entry := m.metas id

/-- Neither the entry's regional set nor the meta keys know the player. -/
structure Absent (player : QueueEntry) (m : Matchmaking) : Prop where
  member : (m.place player.playerId).members player.region = []
  entry : (m.place player.playerId).entry = none

/-- `MatchQueue.remove` for a room. -/
def leave (roomId : RoomId) (player : QueueEntry) (m : Matchmaking) :
    Matchmaking :=
  let removal : Removal := .matching roomId player.ticket
  let m := (m.zrem player.region player.playerId).noteRemoval removal
  (m.setMeta player.playerId none).noteDeletion removal

variable {m : Matchmaking} {player other : QueueEntry} {roomId : RoomId}

theorem filter_withoutMember {id gone : String} (other : gone ≠ id)
    (members : List (Int × String)) :
    (withoutMember gone members).filter (fun member => member.2 = id) =
      members.filter fun member => member.2 = id := by
  rw [withoutMember, List.filter_filter]
  apply List.filter_congr
  intro member _
  by_cases his : member.2 = id
  · simp [his, Ne.symm other]
  · simp [his]

theorem leave_members (id : String) (region : Region) :
    ((m.leave roomId player).place id).members region =
      if id = player.playerId ∧ region = player.region then []
      else (m.place id).members region := by
  change (Function.update m.queues player.region
    (withoutMember player.playerId (m.queues player.region)) region).filter
      (fun member => member.2 = id) = _
  by_cases there : region = player.region
  · rw [there, Function.update_self]
    by_cases same : id = player.playerId
    · rw [if_pos ⟨same, rfl⟩, withoutMember, List.filter_filter,
        List.filter_eq_nil_iff]
      intro member _
      simp [same]
    · rw [if_neg fun both => same both.1,
        filter_withoutMember (Ne.symm same)]
      rfl
  · rw [Function.update_of_ne there, if_neg fun both => there both.2]
    rfl

theorem leave_entry (id : String) :
    ((m.leave roomId player).place id).entry =
      if id = player.playerId then none else (m.place id).entry :=
  Function.update_apply ..

theorem Absent.leave_self : (m.leave roomId player).Absent player where
  member := by rw [leave_members, if_pos ⟨rfl, rfl⟩]
  entry := by rw [leave_entry, if_pos rfl]

theorem Absent.leave (absent : m.Absent player) :
    (m.leave roomId other).Absent player where
  member := by
    rw [leave_members]
    split
    next => rfl
    next => exact absent.member
  entry := by
    rw [leave_entry]
    split
    next => rfl
    next => exact absent.entry

theorem Absent.leave_place (absent : m.Absent player) (id : String) :
    (m.leave roomId player).place id = m.place id := by
  apply QueuePlace.ext
  · funext region
    rw [leave_members]
    split
    next his =>
      rw [his.1, his.2]
      exact absent.member.symm
    next => rfl
  · rw [leave_entry]
    split
    next his =>
      rw [his]
      exact absent.entry.symm
    next => rfl

theorem Absent.of_place {m' : Matchmaking}
    (same : m'.place player.playerId = m.place player.playerId)
    (absent : m'.Absent player) : m.Absent player :=
  ⟨same ▸ absent.member, same ▸ absent.entry⟩

end Matchmaking

namespace Matcher

variable (config : MatchmakerConfig) (region : Region) (task : Nat)
  (envs : Nat → Env) (p1 p2 : QueueEntry) (m : Matchmaking)

def created : Finished Matchmaking QueueCall QueueCall.Answer Unit :=
  (createMatch config p1 p2 region).alone (Matchmaking.exec task) envs 0 m

/-- `POST /rooms` is the sixth call of `createMatch`. -/
def relayAnswer : RelayAnswer := (envs 5).relay

def KeepsPlaces : Prop :=
  (created config region task envs p1 p2 m).state.rooms = m.rooms →
    ∀ player ∈ [p1, p2],
      (created config region task envs p1 p2 m).state.place player.playerId =
        m.place player.playerId

/-- The queue when `POST /rooms` leaves: both players are out of it. -/
def emptied : Matchmaking :=
  let drawn : Matchmaking := { m with drawn := m.drawn ++ [task] }
  (drawn.leave m.drawn.length p1).leave m.drawn.length p2

def announce (roomId : RoomId) : QueueCode Unit := do
  let relay := relayEndpointForRegion region config.relayEndpoint
  let result : MatchResult := ⟨roomId, p1, p2, relay⟩
  Redis.setMatchRoom roomId p1.playerId p2.playerId
  Redis.publish p1.playerId result
  Redis.publish p2.playerId result

def requestedRoom : MatchedRoom where
  request :=
    { roomId := m.drawn.length, p1Id := p1.playerId, p2Id := p2.playerId
      p1Fighter := p1.fighterId, p2Fighter := p2.fighterId }
  tickets := [p1.ticket, p2.ticket]

theorem created_state :
    (created config region task envs p1 p2 m).state =
      ((if decide (relayAnswer envs = .ok) then
          announce config region p1 p2 m.drawn.length
        else pure ()).alone (Matchmaking.exec task) envs 6
          ((emptied task p1 p2 m).postRoom (relayAnswer envs)
            (requestedRoom p1 p2 m))).state := rfl

variable {envs}

theorem created_refused (refused : relayAnswer envs = .refused) :
    (created config region task envs p1 p2 m).state =
      emptied task p1 p2 m := by
  rw [created_state, refused]
  rfl

theorem created_rooms (made : relayAnswer envs ≠ .refused) :
    (created config region task envs p1 p2 m).state.rooms =
      m.rooms ++ [requestedRoom p1 p2 m] := by
  rw [created_state]
  cases answer : relayAnswer envs with
  | ok => rfl
  | lost => rfl
  | refused => exact absurd answer made

/-- No place is lost if the relay makes the room, or no player had one. -/
theorem keepsPlaces_iff :
    KeepsPlaces config region task envs p1 p2 m ↔
      relayAnswer envs ≠ .refused ∨ ∀ player ∈ [p1, p2], m.Absent player := by
  by_cases refused : relayAnswer envs = .refused
  · rw [KeepsPlaces, created_refused config region task p1 p2 m refused,
      or_iff_right (not_not_intro refused)]
    constructor
    · intro keeps player which
      refine Matchmaking.Absent.of_place (keeps rfl player which) ?_
      rcases List.mem_pair.mp which with rfl | rfl
      · exact Matchmaking.Absent.leave_self.leave
      · exact Matchmaking.Absent.leave_self
    · intro absent _ player _
      have first : m.Absent p1 := absent p1 List.mem_cons_self
      have second : m.Absent p2 :=
        absent p2 (List.mem_cons_of_mem _ List.mem_cons_self)
      have drawn (player : QueueEntry) (absent : m.Absent player) :
          ({ m with drawn := m.drawn ++ [task] } : Matchmaking).Absent
            player := ⟨absent.member, absent.entry⟩
      rw [emptied, ((drawn p2 second).leave).leave_place,
        (drawn p1 first).leave_place]
      rfl
  · refine iff_of_true ?_ (.inl refused)
    intro same
    rw [created_rooms config region task p1 p2 m refused] at same
    exact absurd same (by simp)

def queuedPlayer (id : String) : QueueEntry :=
  ⟨id, id, 1000, 0, .usEast, 0, 0⟩

def bothQueued : Matchmaking :=
  let join (id : String) (m : Matchmaking) : Matchmaking :=
    (m.zadd .usEast 1000 id).setMeta id (some (queuedPlayer id))
  join "b" (join "a" .initial)

theorem not_keepsPlaces_bothQueued :
    ¬ KeepsPlaces ⟨100, 10, 500, "ws://relay"⟩ .usEast 0
      (fun _ => ⟨0, 0, none, .refused⟩) (queuedPlayer "a") (queuedPlayer "b")
      bothQueued := by
  intro keeps
  have same := keeps rfl (queuedPlayer "a") List.mem_cons_self
  exact absurd (congrArg QueuePlace.entry same) (by decide)

end Matcher

end FuryClash.Server
