import FuryClash.Client.ServerJson
import FuryClash.Server.EndTold

namespace FuryClash.System

open FuryClash.Client
open FuryClash.Data
open FuryClash.Server (EndFields EndReason ManagerEvent MatchEndPayload Player
  RelayConfig RoomManager)

/-! The end of a match: what the two players are shown of it, and what is on
record. -/

def reasonText : EndReason → String
  | .ko => "ko"
  | .timeout => "timeout"
  | .disconnect => "disconnect"
  | .forfeit => "forfeit"

def winnerNumber (payload : MatchEndPayload) : Int :=
  match payload.winnerSlot with
  | none => -1
  | some slot => slot.number

def endFields (payload : MatchEndPayload) : EndFields where
  winnerSlot := winnerNumber payload
  reason := asciiUnits (reasonText payload.reason)
  p1RoundsWon := payload.p1RoundsWon
  p2RoundsWon := payload.p2RoundsWon
  durationFrames := payload.durationFrames

def Shows (payload : MatchEndPayload) (net : Net) : Prop :=
  net.ws.endInfo =
      ⟨winnerNumber payload, payload.p1RoundsWon, payload.p2RoundsWon⟩ ∧
    net.ws.state = .ended

theorem dispatchMessage_end {payload : MatchEndPayload}
    (rounds : RoomManager.TwoRounds payload) (os : Os) (net : Net)
    (behind : List UInt8) :
    Shows payload (net.dispatchMessage os
      (terminated (Server.encodeMatchEnd (endFields payload)) behind)) := by
  have winner : (winnerNumber payload).natAbs < 2 ^ 31 := by
    rw [winnerNumber]
    split
    next => decide
    next slot _ =>
      cases slot with
      | p1 => decide
      | p2 => decide
  have fits : EndFits (endFields payload) := by
    obtain ⟨first, second⟩ := rounds
    refine ⟨winner, ?_, ?_⟩
    · change ((payload.p1RoundsWon : Int)).natAbs < 2 ^ 31
      omega
    · change ((payload.p2RoundsWon : Int)).natAbs < 2 ^ 31
      omega
  have read := endReadsBack fits behind
  have first : (terminated (Server.encodeMatchEnd (endFields payload))
      behind).memory 0 = msgMatchEnd := rfl
  have some_there : ¬ (terminated (Server.encodeMatchEnd
      (endFields payload)) behind).plen < 1 := by
    rw [terminated, Server.encodeMatchEnd, Server.encodeJson,
      List.length_append]
    exact Nat.not_lt.mpr (Nat.le_add_right 1 _)
  rw [Shows, Net.dispatchMessage]
  dsimp only
  rw [if_neg some_there, first, if_neg (by decide), if_neg (by decide),
    if_neg (by decide), if_pos rfl, read.winnerSlot.result,
    read.p1RoundsWon.result, read.p2RoundsWon.result]
  exact ⟨rfl, rfl⟩

/-- What has been told is on record for the room, and nothing else. -/
structure OnRecord (m : RoomManager) (ref : Server.RoomRef)
    (payload : MatchEndPayload) (record : Server.RoomEnd) : Prop where
  mem : record ∈ m.db.records
  room : record.room = ref
  same : record.ending.payload = payload
  only : ∀ other ∈ m.db.records, other.room = ref →
    other.ending = record.ending
  winner : ∀ row ∈ record.matchRow, row.winnerId =
    payload.winnerSlot.map (Server.RoomEnd.playerId row)
  reason : ∀ row ∈ record.matchRow, row.endReason = payload.reason

/-- Of the end of a room there is one account. -/
structure EndAgrees (m : RoomManager) : Prop where
  recorded : ∀ ws payload, (ws, .finish payload) ∈ m.sent →
    ∃ ref key record, (m.sockets ws).attached = some (ref, key) ∧
      OnRecord m ref payload record
  agree : ∀ ws other payload payload' ref key key',
    (ws, .finish payload) ∈ m.sent → (other, .finish payload') ∈ m.sent →
      (m.sockets ws).attached = some (ref, key) →
        (m.sockets other).attached = some (ref, key') → payload = payload'
  shown : ∀ ws payload, (ws, .finish payload) ∈ m.sent →
    ∀ os net behind, Shows payload (Net.dispatchMessage os
      (terminated (Server.encodeMatchEnd (endFields payload)) behind) net)

theorem endAgrees_of_reporting {players : String → Option Player}
    {m : RoomManager} (reporting : m.Reporting players)
    (alive : m.crashed = false) : EndAgrees m := by
  obtain ⟨_, once, rounds, told⟩ := reporting.recorded alive
  refine ⟨fun ws payload mem => ?_,
    fun ws other payload payload' ref key key' mem mem' link link' => ?_,
    fun ws payload mem os net behind => ?_⟩
  · obtain ⟨ref, key, ending, link, label, same⟩ := told ws payload mem
    obtain ⟨record, there, isLabel⟩ := List.mem_map.mp label
    cases isLabel
    have filed := reporting.kept.filed record there
    subst same
    refine ⟨record.room, key, record, link, there, rfl, rfl,
      fun other mem isRoom => ?_, filed.winner, filed.reason⟩
    have other_label : (record.room, other.ending) ∈ m.labels :=
      List.mem_map.mpr ⟨other, mem, by rw [isRoom]⟩
    exact once _ _ _ other_label label
  · obtain ⟨_, _, ending, link₁, label, same⟩ := told ws payload mem
    obtain ⟨_, _, ending', link₂, label', same'⟩ := told other payload' mem'
    cases link.symm.trans link₁
    cases link'.symm.trans link₂
    rw [← same, ← same', once _ _ _ label label']
  · obtain ⟨_, _, ending, _, label, same⟩ := told ws payload mem
    exact dispatchMessage_end (same ▸ rounds _ _ label) os net behind

/-- While the relay runs, whoever has been told of the end of a match has been
told what is on record: the other player of the room is told the same, the row
has the same winner and reason, and the client shows the same. -/
theorem always_endAgrees {R : Type} [Field R] [LinearOrder R] [FloorRing R]
    (runtime : JsRuntime) {config : RelayConfig}
    (database : config.skipDb = false) (expectedScore : Int → Int → R)
    (players : String → Option Player) (events : List ManagerEvent) :
    (RoomManager.step runtime config expectedScore).Always
      (fun m => m.crashed = false → EndAgrees m) (.initial players) events :=
  Machine.always_of_invariant (RoomManager.Reporting players)
    (fun _ event reporting => reporting.step database event)
    (fun _ reporting alive => endAgrees_of_reporting reporting alive)
    (RoomManager.reporting_initial players) events

/-- Both players of a match that one of them leaves. -/
theorem always_endAgrees_playedMatch :
    (RoomManager.step Server.joinRuntime Server.relayConfig
      Server.evenScore).Always (fun m => m.crashed = false → EndAgrees m)
      (.initial Server.twoPlayers) Server.playedMatch :=
  always_endAgrees Server.joinRuntime rfl Server.evenScore Server.twoPlayers
    Server.playedMatch

end FuryClash.System
