import FuryClash.Server.Moves
import FuryClash.Server.Ratings

namespace FuryClash.Server

open FuryClash.Data

variable {R : Type} [Field R] [LinearOrder R] [FloorRing R]
  {runtime : JsRuntime} {config : RelayConfig}
  {expectedScore : Int → Int → R}

namespace RoomManager

variable (runtime)

def Names (m : RoomManager) (ws : SocketRef) (playerId : JsVal) : Prop :=
  ∃ msg, m.JoinOf runtime ws msg ∧
    (Json.get "playerId" msg).strictEq playerId = true

structure RightPlayers (m : RoomManager) : Prop where
  named : ∀ room ∈ m.created, ∀ slot, ∀ info ∈ room.slots slot,
    m.Names runtime info.ws (room.cfg.playerId slot)
  /-- One that names the other player holds the slot only if the ids agree. -/
  apart : ∀ room ∈ m.created, ∀ slot, ∀ info ∈ room.slots slot,
    (∀ msg, m.JoinOf runtime info.ws msg → (Json.get "playerId" msg).strictEq
      (room.cfg.playerId slot.other) = true) →
    (room.cfg.playerId slot).strictEq (room.cfg.playerId slot.other) = true

/-- The slot of a first message is the number 0 if its key is `"0"`. -/
def slotIsExact (data : List UInt8) : Bool :=
  match decodeClientMsg runtime data with
  | .ok (some msg) =>
      match slotKey (Json.get "slot" msg) with
      | .ok (some key) => key.index = .p2 || key.exact
      | _ => true
  | _ => true

def ExactSlots (m : RoomManager) : ManagerEvent → Prop
  | .message ws data _ =>
      (m.sockets ws).firstMessage = none → slotIsExact runtime data = true
  | _ => True

instance (m : RoomManager) :
    (event : ManagerEvent) → Decidable (m.ExactSlots runtime event)
  | .message _ _ _ => inferInstanceAs (Decidable (_ → _))
  | .createRoom _ => isTrue trivial
  | .closing _ => isTrue trivial
  | .close _ _ => isTrue trivial
  | .pingTimer _ _ => isTrue trivial
  | .forfeit _ _ _ => isTrue trivial
  | .db _ => isTrue trivial

variable {runtime} {m m' : RoomManager}

/-- A slot that is found under the first key and is the number 0 asks for the
first player's id, and one found under the second key for the second's. -/
theorem expectedPlayerId_of_slotKey {cfg : RoomConfig} {slot : JsVal}
    {key : SlotKey} (keyed : slotKey slot = .ok (some key))
    (exact_p1 : key.index = .p2 ∨ key.exact = true) :
    cfg.expectedPlayerId slot = cfg.playerId key.index := by
  cases slot with
  | none => cases keyed
  | some value =>
      rw [slotKey] at keyed
      split at keyed
      next => cases keyed
      next =>
        split at keyed
        next =>
          cases keyed
          rcases exact_p1 with isP2 | isZero
          · cases isP2
          · exact if_pos isZero
        next notFirst =>
          split at keyed
          next =>
            cases keyed
            refine if_neg fun isZero => notFirst ?_
            cases Option.some.inj ((JsVal.strictEq_nat_iff ..).mp isZero)
            rfl
          next => cases keyed

theorem Names.mono {ws : SocketRef} {playerId : JsVal}
    (names : m.Names runtime ws playerId)
    (first : ∀ data, (m.sockets ws).firstMessage = some data →
      (m'.sockets ws).firstMessage = some data) :
    m'.Names runtime ws playerId := by
  obtain ⟨msg, ⟨data, known, decoded⟩, same⟩ := names
  exact ⟨msg, ⟨data, first data known, decoded⟩, same⟩

theorem apart_of_named {ws : SocketRef} {own other : JsVal}
    (names : m.Names runtime ws own)
    (claims : ∀ msg, m.JoinOf runtime ws msg →
      (Json.get "playerId" msg).strictEq other = true) :
    own.strictEq other = true := by
  obtain ⟨msg, join, same⟩ := names
  have asked := claims msg join
  rw [JsVal.eq_of_strictEq same] at asked
  exact asked

def Named (runtime : JsRuntime) (m : RoomManager) : Prop :=
  ∀ room ∈ m.created, ∀ slot, ∀ info ∈ room.slots slot,
    m.Names runtime info.ws (room.cfg.playerId slot)

theorem Named.set {room room' : RelayRoom} {ref : RoomRef}
    (named : m.Named runtime) (held : m.created[ref]? = some room)
    (created : m'.created = m.created.set ref room')
    (first : ∀ ws data, (m.sockets ws).firstMessage = some data →
      (m'.sockets ws).firstMessage = some data)
    (cfg : room'.cfg = room.cfg)
    (seats : ∀ slot, ∀ info' ∈ room'.slots slot,
      (∃ info ∈ room.slots slot, info.ws = info'.ws) ∨
        m'.Names runtime info'.ws (room.cfg.playerId slot)) :
    m'.Named runtime := by
  have others (other : RelayRoom) (mem : other ∈ m.created) (slot : Slot)
      (info : SlotInfo) (seated : info ∈ other.slots slot) :
      m'.Names runtime info.ws (other.cfg.playerId slot) :=
    (named other mem slot info seated).mono (first info.ws)
  rw [Named, created]
  refine forall_mem_set others (fun slot info seated => ?_) ref
  rw [cfg]
  rcases seats slot info seated with ⟨old, at_slot, ws⟩ | names
  · rw [← ws]
    exact others room (List.mem_of_getElem? held) slot old at_slot
  · exact names

theorem Named.step (named : m.Named runtime) {event : ManagerEvent}
    (exact_slots : m.ExactSlots runtime event)
    (moves : Moves runtime config expectedScore m event m') :
    m'.Named runtime := by
  have first (ws : SocketRef) (data : List UInt8)
      (known : (m.sockets ws).firstMessage = some data) :=
    moves.first known
  have unmoved (created : m'.created = m.created) : m'.Named runtime := by
    intro room mem slot info seated
    rw [created] at mem
    exact (named room mem slot info seated).mono (first _)
  cases moves with
  | idle same _ => exact unmoved same.created
  | create _ _ _ created _ _ =>
      intro room mem slot info seated
      rw [created] at mem
      rcases List.mem_append.mp mem with old | new
      · exact (named room old slot info seated).mono (first _)
      · cases List.mem_singleton.mp new
        cases seated
  | @seat ws data now msg _ ref room room' key _ _ unused decoded join _ held
      expected attached _ created _ message _ _ =>
      refine named.set held created first attached.cfg ?_
      intro slot info seated
      rw [attached.slots] at seated
      by_cases same : slot = key.index
      · subst same
        rw [RelayRoom.setSlot_self] at seated
        cases seated
        refine .inr ⟨msg, ⟨data, message, decoded, join⟩, ?_⟩
        have isExact := exact_slots unused
        simp only [slotIsExact, decoded, attached.keyed, Bool.or_eq_true,
          decide_eq_true_eq] at isExact
        rw [← expectedPlayerId_of_slotKey attached.keyed isExact]
        exact expected
      · rw [RelayRoom.setSlot_of_ne same] at seated
        exact .inl ⟨info, seated, rfl⟩
  | relay held same _ created _ _ =>
      refine named.set held created first same.cfg fun slot info seated => ?_
      have sockets := same.sockets slot
      rw [Option.mem_def.mp seated, Option.map_some] at sockets
      exact .inl (Option.map_eq_some_iff.mp sockets.symm)
  | finish _ held _ _ created _ _ =>
      exact named.set held created first rfl
        fun slot info seated => .inl ⟨info, seated, rfl⟩
  | lose _ held _ _ created slots cfg _ _ =>
      refine named.set held created first cfg fun slot info seated => ?_
      rw [slots] at seated
      exact .inl ⟨info, seated, rfl⟩
  | persist _ created _ _ => exact unmoved created

theorem Named.rightPlayers (named : m.Named runtime) :
    m.RightPlayers runtime where
  named := named
  apart room mem slot info seated :=
    apart_of_named (named room mem slot info seated)

/-- As long as no first message names the key `"0"` by another value than the
number 0, only the right players get the slots. -/
theorem rightPlayers_of_exactSlots (players : String → Option Player)
    (events : List ManagerEvent)
    (exact_slots : (step runtime config expectedScore).Along
      (ExactSlots runtime) (.initial players) events) :
    (step runtime config expectedScore).Always (RightPlayers runtime)
      (.initial players) events := by
  refine Machine.Along.always (Named runtime)
    (fun m event named good => ?_) (fun _ named => named.rightPlayers) ?_
    exact_slots
  · exact named.step good (step_moves m event)
  · intro room mem
    cases mem

end RoomManager

def noPlayers : String → Option Player := fun _ => none

def relayConfig : RelayConfig := ⟨500, 5000, false⟩

def roomJson (roomId p1Id p2Id : String) : Json :=
  .object [("roomId", .string roomId), ("p1Id", .string p1Id),
    ("p2Id", .string p2Id), ("p1Fighter", .nat 0), ("p2Fighter", .nat 1)]

def joinText (playerId slot : String) : String :=
  "\x7b\"roomId\":\"room\",\"playerId\":\"" ++ playerId ++
    "\",\"slot\":" ++ slot ++ "\x7d"

def joinJson (playerId : String) (slot : Json) : Json :=
  .object [("roomId", .string "room"), ("playerId", .string playerId),
    ("slot", slot)]

def joinRuntime : JsRuntime := .ofTexts
  [(joinText "a" "0", joinJson "a" (.nat 0)),
    (joinText "b" "1", joinJson "b" (.nat 1)),
    (joinText "b" "\"0\"", joinJson "b" (.string "0"))]

def joinBytes (playerId slot : String) : List UInt8 :=
  0x01 :: asciiBytes (joinText playerId slot)

theorem rightPlayers_of_exactSlots_two_joins :
    (RoomManager.step joinRuntime relayConfig evenScore).Always
      (RoomManager.RightPlayers joinRuntime) (.initial noPlayers)
      [.createRoom (roomJson "room" "a" "b"), .message 0 (joinBytes "a" "0") 1,
        .message 1 (joinBytes "b" "1") 2] :=
  RoomManager.rightPlayers_of_exactSlots noPlayers _ (by decide +kernel)

/-- The second player gets the first slot by calling it `"0"`. -/
theorem not_rightPlayers_text_slot :
    ¬ (RoomManager.step joinRuntime relayConfig evenScore).Always
      (RoomManager.RightPlayers joinRuntime) (.initial noPlayers)
      [.createRoom (roomJson "room" "a" "b"),
        .message 0 (joinBytes "b" "\"0\"") 1] := by
  intro always
  have right := always.last
  generalize reached : Machine.run _ _ _ = m at right
  have holder : (m.created[0]?.bind fun room => (room.slots .p1).map
      fun info => (info.ws, room.cfg.p1Id.strictEq (some (.string "a")))) =
      some (0, true) := by
    rw [← reached]
    decide +kernel
  have first : (m.sockets 0).firstMessage = some (joinBytes "b" "\"0\"") := by
    rw [← reached]
    decide +kernel
  obtain ⟨room, held, holder⟩ := Option.bind_eq_some_iff.mp holder
  obtain ⟨info, seated, holder⟩ := Option.map_eq_some_iff.mp holder
  obtain ⟨ws, p1Id⟩ := Prod.mk.inj holder
  obtain ⟨msg, ⟨data, sent, decoded, _⟩, names⟩ :=
    right.named room (List.mem_of_getElem? held) .p1 info seated
  rw [ws, first] at sent
  cases sent
  have joined : decodeClientMsg joinRuntime (joinBytes "b" "\"0\"") =
      .ok (some (joinMsg (joinJson "b" (.string "0")))) := by rfl
  cases joined.symm.trans decoded
  have cfg := JsVal.eq_of_strictEq p1Id
  rw [RoomConfig.playerId, cfg] at names
  cases names

end FuryClash.Server
