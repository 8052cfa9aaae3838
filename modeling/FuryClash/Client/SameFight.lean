import FuryClash.Client.InRoom

namespace FuryClash.Client

open FuryClash.Data

variable {S : Type} {simulation : Simulation S}

/-! The two lobbies of a room start the same fight. -/

namespace LobbyPair

def SocketsOf (room : Server.RelayRoom) : Prop :=
  ∀ slot, ∀ info ∈ room.slots slot, info.ws = socket slot

structure Sound (pair : LobbyPair S) : Prop where
  seats : ∀ slot, (pair.seat slot).Sound slot (pair.seat slot.other).sent
  sockets : SocketsOf pair.room

variable {pair : LobbyPair S} {slot : Slot}

theorem start_sound (simulation : Simulation S) (cfg : Server.RoomConfig)
    (startUps : Slot → StartUp) : (start simulation cfg startUps).Sound where
  seats slot := by
    refine ⟨Session.start_visit (startUps slot), fun _ => ⟨rfl, rfl⟩,
      fun joined => ?_, .inl rfl, fun pick mem => ?_, fun bytes mem => ?_,
      fun log mem => ?_, fun joined => ?_⟩
    · cases joined
    · cases mem
    · cases mem
    · cases mem
    · cases joined
  sockets slot info mem := by cases mem

theorem Sound.setSeat {seat : LobbySeat S} (sound : pair.Sound)
    (replaced : seat.Sound slot (pair.seat slot.other).sent)
    (grown : (pair.seat slot).sent ⊆ seat.sent) :
    (pair.setSeat slot seat).Sound where
  seats which := by
    by_cases same : which = slot
    · subst same
      rw [setSeat_self, setSeat_of_ne (Slot.other_ne which)]
      exact replaced
    · cases Slot.eq_other_of_ne same
      rw [Slot.other_other, setSeat_self, setSeat_of_ne (Slot.other_ne slot)]
      have kept := sound.seats slot.other
      rw [Slot.other_other] at kept
      exact kept.grow grown
  sockets := sound.sockets

theorem Sound.push {room : Server.RelayRoom} {sends : Server.Sends}
    (sound : pair.Sound) (sockets : SocketsOf room)
    (picked : ∀ slot bytes, .loadout bytes ∈ sendsTo slot sends →
      ∃ pick ∈ (pair.seat slot.other).sent,
        bytes = [0x20, .ofNat (pick % 256).toNat]) :
    (pair.push room sends).Sound where
  seats slot := by
    have kept := sound.seats slot
    refine ⟨kept.visit, kept.away, kept.inRoom, kept.picks, kept.up,
      fun bytes mem => ?_, kept.called, kept.ready⟩
    rcases List.mem_append.mp mem with before | now
    · exact kept.down bytes before
    · exact picked slot bytes now
  sockets := sockets

theorem mem_of_mem_sendsTo {sends : Server.Sends} {msg : Server.ServerMsg}
    (mem : msg ∈ sendsTo slot sends) : (socket slot, msg) ∈ sends := by
  obtain ⟨⟨ws, sent⟩, held, same⟩ := List.mem_filterMap.mp mem
  dsimp only at same
  split at same
  next aimed =>
    cases same
    exact aimed ▸ held
  next => cases same

theorem Sound.push_quiet {room : Server.RelayRoom} {sends : Server.Sends}
    (sound : pair.Sound) (sockets : SocketsOf room)
    (quiet : Server.RelayRoom.NoLoadout sends) :
    (pair.push room sends).Sound :=
  sound.push sockets fun _ bytes mem =>
    absurd rfl (quiet _ (mem_of_mem_sendsTo mem) bytes)

theorem socket_injective {first second : Slot}
    (same : socket first = socket second) : first = second := by
  cases first <;> cases second <;> first | rfl | cases same

theorem socketsOf_of_same {room room' : Server.RelayRoom}
    (sockets : SocketsOf room) (same : Server.RelayRoom.SameSeats room room') :
    SocketsOf room' := by
  intro slot info mem
  have seated := same.sockets slot
  rw [Option.mem_def.mp mem, Option.map_some] at seated
  obtain ⟨info', held, ws⟩ := Option.map_eq_some_iff.mp seated.symm
  exact ws.symm.trans (sockets slot info' held)

theorem slotKey_slotVal (slot : Slot) :
    Server.slotKey (slotVal slot) = .ok (some ⟨slot, true⟩) := by
  cases slot <;> rfl

variable {runtime : JsRuntime} {isOpen : Server.SocketRef → Bool}

theorem Sound.attach (sound : pair.Sound) (playerId fighterId : JsVal)
    (now : Nat) : (pair.attach slot playerId fighterId now).Sound := by
  rw [LobbyPair.attach]
  split
  next => exact sound
  next =>
    split
    next => exact ⟨sound.seats, sound.sockets⟩
    next => exact sound
    next key room sends attached =>
      have spec := Server.RelayRoom.attach_spec attached
      refine sound.push_quiet ?_ (Server.RelayRoom.attach_noLoadout attached)
      have key_eq : key.index = slot := by
        have keyed := spec.keyed
        rw [slotKey_slotVal] at keyed
        cases keyed
        rfl
      intro which info mem
      rw [spec.slots, key_eq] at mem
      by_cases same : which = slot
      · subst same
        rw [Server.RelayRoom.setSlot_self] at mem
        cases mem
        rfl
      · rw [Server.RelayRoom.setSlot_of_ne same] at mem
        exact sound.sockets which info mem

/-- The message is taken and the room's answer pushed. -/
theorem Sound.take {msg : ClientMsg} {rest : List ClientMsg}
    (sound : pair.Sound) (waiting : (pair.seat slot).up = msg :: rest) :
    (pair.setSeat slot { pair.seat slot with up := rest }).Sound := by
  have kept := sound.seats slot
  refine sound.setSeat ?_ (List.Subset.refl _)
  exact ⟨kept.visit, kept.away, kept.inRoom, kept.picks,
    fun pick mem => kept.up pick (waiting ▸ List.mem_cons_of_mem _ mem),
    kept.down, kept.called, kept.ready⟩

theorem Sound.relay (sound : pair.Sound) :
    (pair.relay runtime slot isOpen).Sound := by
  rw [LobbyPair.relay]
  split
  next => exact sound
  next msg rest waiting =>
    split
    next => exact sound
    next =>
      have taken := sound.take waiting
      dsimp only
      split
      next => exact ⟨taken.seats, taken.sockets⟩
      next room sends handled =>
        have sockets := socketsOf_of_same sound.sockets
          (Server.RelayRoom.handleMessage_sameSeats handled)
        cases msg with
        | input frame bits =>
            exact taken.push_quiet sockets
              (Server.RelayRoom.handleMessage_input_noLoadout handled)
        | loadout pick =>
            have held : pick ∈ (pair.seat slot).sent :=
              (sound.seats slot).up pick (waiting ▸ List.mem_cons_self)
            rcases Server.RelayRoom.handleMessage_loadout handled with
              rfl | ⟨opponent, seated, rfl⟩
            · exact taken.push_quiet sockets Server.RelayRoom.noLoadout_nil
            · refine taken.push sockets fun which bytes mem => ?_
              have sent := List.mem_singleton.mp (mem_of_mem_sendsTo mem)
              have ws := sound.sockets slot.other opponent seated
              rw [Prod.mk.injEq, ws] at sent
              cases socket_injective sent.1
              cases sent.2
              refine ⟨pick, ?_, rfl⟩
              rw [Slot.other_other, setSeat_self]
              exact held

theorem Sound.close (sound : pair.Sound) : (pair.close slot isOpen).Sound := by
  rw [LobbyPair.close]
  split
  next => exact sound
  next =>
    refine sound.push_quiet ?_ (Server.RelayRoom.handleClose_noLoadout _)
    rw [SocketsOf, Server.RelayRoom.handleClose_slots]
    exact sound.sockets

theorem Sound.ping (sound : pair.Sound) (now : Nat) :
    (pair.ping isOpen now).Sound := by
  rw [LobbyPair.ping]
  split
  next => exact sound
  next =>
    exact sound.push_quiet sound.sockets
      (Server.RelayRoom.sendPing_noLoadout now)

theorem Sound.client (sound : pair.Sound) {event : SessionEvent}
    (taken : Bool)
    (own : ¬ ((pair.seat slot).place = .joined ∧ event.isMessage = true)) :
    (pair.setSeat slot
      ((pair.seat slot).act simulation taken event)).Sound := by
  refine sound.setSeat ?_ (LobbySeat.sent_subset_act taken)
  by_cases joined : (pair.seat slot).place = .joined
  · refine (sound.seats slot).act_joined taken joined fun msg same => ?_
    exact own ⟨joined, same ▸ rfl⟩
  · exact (sound.seats slot).act_away taken joined

theorem Sound.step (sound : pair.Sound)
    (texts : Slot → Server.RoomConfig → NetMatchInfo) (runtime : JsRuntime)
    (event : LobbyEvent) :
    (LobbyPair.step simulation texts runtime pair event).Sound := by
  cases event with
  | client slot event taken =>
      rw [LobbyPair.step]
      split
      next => exact sound
      next own => exact sound.client taken own
  | join slot event =>
      rw [LobbyPair.step]
      split
      next enters =>
        refine sound.setSeat ((sound.seats slot).join enters.1 enters.2) ?_
        exact LobbySeat.sent_subset_act true
      next => exact sound
  | deliver slot =>
      refine sound.setSeat ?_ ?_
      · exact (sound.seats slot).deliver texts (sound.seats slot.other).picks
      · rw [LobbySeat.deliver_sent]
        exact List.Subset.refl _
  | attach slot playerId fighterId now =>
      exact sound.attach playerId fighterId now
  | relay slot isOpen => exact sound.relay
  | close slot isOpen => exact sound.close
  | ping isOpen now => exact sound.ping now

/-- What the two players are to rely on; `LS_READY` is where `simulation_init`
has been called. -/
structure SameFight (pair : LobbyPair S) : Prop where
  started : ∀ slot, (pair.seat slot).place = .joined →
    (pair.seat slot).session.lobby.sub = .ready → (pair.seat slot).called ≠ []
  same : ∀ first ∈ (pair.seat .p1).called, ∀ second ∈ (pair.seat .p2).called,
    first.p1Fighter = second.p1Fighter ∧
      first.p2Fighter = second.p2Fighter ∧
      first.p1Loadout = second.p1Loadout ∧
      first.p2Loadout = second.p2Loadout
  once : ∀ slot, (pair.seat slot).visit ≤ 1
  sentOnce : ∀ slot, (pair.seat slot).sent.length ≤ 1
  kept : ∀ slot, (pair.seat slot).place = .joined →
    ∀ pick ∈ (pair.seat slot).sent,
      (pair.seat slot).session.lobby.myLoadout = pick

theorem Sound.sameFight (sound : pair.Sound) : pair.SameFight where
  started slot joined ready := (sound.seats slot).ready joined ready
  same first firstCalled second secondCalled := by
    obtain ⟨own, mine, other, theirs, p1, p2, p1Loadout, p2Loadout⟩ :=
      (sound.seats .p1).called first firstCalled
    obtain ⟨own', mine', other', theirs', p1', p2', p1Loadout', p2Loadout'⟩ :=
      (sound.seats .p2).called second secondCalled
    have mySame := (sound.seats .p1).picks.unique mine theirs'
    have theirSame := (sound.seats .p2).picks.unique theirs mine'
    refine ⟨p1.trans p1'.symm, p2.trans p2'.symm, ?_, ?_⟩
    · rw [p1Loadout, p1Loadout']
      exact mySame
    · rw [p2Loadout, p2Loadout']
      exact theirSame
  once slot := (sound.seats slot).visit.once
  sentOnce slot := by
    rcases (sound.seats slot).picks with none | one | two
    · rw [none]
      decide
    · rw [one]
      decide
    · rw [two]
      decide
  kept slot joined pick held := by
    rcases ((sound.seats slot).inRoom joined).sent with none | one
    · rw [none.2.2] at held
      cases held
    · rw [one.2] at held
      exact (List.mem_singleton.mp held).symm

/-- No event changes a pick that was sent, but `lobby_init` ends the visit. -/
def PicksStand (simulation : Simulation S)
    (texts : Slot → Server.RoomConfig → NetMatchInfo) (runtime : JsRuntime)
    (pair : LobbyPair S) (event : LobbyEvent) : Prop :=
  ∀ slot, Session.KeepsPick (pair.seat slot).session
    ((step simulation texts runtime pair event).seat slot).session

theorem keepsPick_setSeat {seat : LobbySeat S}
    (keeps : Session.KeepsPick (pair.seat slot).session seat.session)
    (which : Slot) :
    Session.KeepsPick (pair.seat which).session
      ((pair.setSeat slot seat).seat which).session := by
  by_cases same : which = slot
  · subst same
    rw [setSeat_self]
    exact keeps
  · rw [setSeat_of_ne same]
    exact .of_lobby rfl

theorem attach_session (playerId fighterId : JsVal) (now : Nat)
    (which : Slot) :
    ((pair.attach slot playerId fighterId now).seat which).session =
      (pair.seat which).session := by
  rw [attach]
  split
  next => rfl
  next => split <;> rfl

theorem relay_session (which : Slot) :
    ((pair.relay runtime slot isOpen).seat which).session =
      (pair.seat which).session := by
  have taken (rest : List ClientMsg) :
      ((pair.setSeat slot { pair.seat slot with up := rest }).seat
        which).session = (pair.seat which).session := by
    by_cases same : which = slot
    · subst same
      rw [setSeat_self]
    · rw [setSeat_of_ne same]
  rw [relay]
  split
  next => rfl
  next msg rest waiting =>
    split
    next => rfl
    next =>
      dsimp only
      split
      next => exact taken rest
      next => exact taken rest

theorem close_session (which : Slot) :
    ((pair.close slot isOpen).seat which).session =
      (pair.seat which).session := by
  rw [close]
  split <;> rfl

theorem ping_session (now : Nat) (which : Slot) :
    ((pair.ping isOpen now).seat which).session =
      (pair.seat which).session := by
  rw [ping]
  split <;> rfl

theorem Sound.picksStand (sound : pair.Sound)
    (texts : Slot → Server.RoomConfig → NetMatchInfo) (runtime : JsRuntime)
    (event : LobbyEvent) : PicksStand simulation texts runtime pair event := by
  intro which
  have acts (slot : Slot) (taken : Bool) (event : SessionEvent) :
      Session.KeepsPick (pair.seat slot).session
        ((pair.seat slot).act simulation taken event).session := by
    rw [LobbySeat.act_session]
    exact LobbySeat.keepsPick_step (sound.seats slot).visit
  cases event with
  | client slot event taken =>
      rw [LobbyPair.step]
      split
      next => exact .of_lobby rfl
      next => exact keepsPick_setSeat (acts slot taken event) which
  | join slot event =>
      rw [LobbyPair.step]
      split
      next =>
        refine keepsPick_setSeat ?_ which
        exact acts slot true event
      next => exact .of_lobby rfl
  | deliver slot =>
      refine keepsPick_setSeat ?_ which
      exact .of_lobby (LobbySeat.deliver_lobby texts)
  | attach slot playerId fighterId now =>
      exact .of_lobby (congrArg Session.lobby (attach_session ..))
  | relay slot isOpen =>
      exact .of_lobby (congrArg Session.lobby (relay_session which))
  | close slot isOpen =>
      exact .of_lobby (congrArg Session.lobby (close_session which))
  | ping isOpen now =>
      exact .of_lobby (congrArg Session.lobby (ping_session now which))

theorem lobbies_sameFight (simulation : Simulation S)
    (texts : Slot → Server.RoomConfig → NetMatchInfo) (runtime : JsRuntime)
    (cfg : Server.RoomConfig) (startUps : Slot → StartUp)
    (events : List LobbyEvent) :
    (step simulation texts runtime).Always SameFight
        (start simulation cfg startUps) events ∧
      (step simulation texts runtime).Along
        (PicksStand simulation texts runtime)
        (start simulation cfg startUps) events := by
  have initial := start_sound simulation cfg startUps
  constructor
  · exact Machine.always_of_invariant Sound
      (fun _ event sound => sound.step texts runtime event)
      (fun _ sound => sound.sameFight) initial events
  · exact Machine.along_of_invariant Sound
      (fun _ event sound => sound.step texts runtime event)
      (fun _ event sound => sound.picksStand texts runtime event)
      initial events

def toJoin : Slot → List SessionEvent
  | .p1 => [.tick 0, .touch .next ⟨true, true, true⟩,
      .touch .createRoom ⟨true, true, true⟩]
  | .p2 => [.tick 0, .touch .next ⟨true, true, true⟩,
      .touch .joinRoom ⟨true, true, true⟩]

def fireAgainstFrost : List LobbyEvent :=
  (toJoin .p1).map (.client .p1 · true) ++
    (toJoin .p2).map (.client .p2 · true) ++
    [.join .p1 (.creating true ⟨true, true, true⟩),
      .join .p2 (.key .enter ⟨true, true, true⟩),
      .client .p1 (.receive .upgrade) true,
      .client .p2 (.receive .upgrade) true,
      .attach .p1 none none 0, .attach .p2 none none 0,
      .deliver .p1, .deliver .p1, .client .p1 .lobbyReady true,
      .client .p1 (.touch .fire ⟨true, true, true⟩) true,
      .relay .p1 fun _ => true, .deliver .p2, .deliver .p2, .deliver .p2,
      .client .p2 .lobbyReady true,
      .client .p2 (.key .r ⟨true, true, true⟩) true,
      .client .p2 .lobbyFight true,
      .relay .p2 fun _ => true, .deliver .p1, .client .p1 .lobbyFight true]

example : ∀ slot, (((step .unit (fun slot _ => ⟨slot.number, 0, 1⟩)
    Server.emptyRuntime).run
      (start .unit Server.pairConfig fun _ => .desktop)
      fireAgainstFrost).seat slot).called.map
        (fun log => (log.p1Loadout, log.p2Loadout)) = [(1, 2)] := by
  intro slot
  cases slot <;> decide +kernel

end LobbyPair

end FuryClash.Client
