import FuryClash.Client.LobbyPair

namespace FuryClash.Client

open FuryClash.Data

variable {S : Type} {simulation : Simulation S}

/-- The match with the picks of the two players. -/
def Fits (slot : Slot) (mine theirs : List Int) (log : MatchLog) : Prop :=
  ∃ own ∈ mine, ∃ other ∈ theirs, log.p1Fighter = 0 ∧ log.p2Fighter = 1 ∧
    log.p1Loadout = (match slot with | .p1 => own | .p2 => other) ∧
    log.p2Loadout = (match slot with | .p1 => other | .p2 => own)

theorem Fits.grow {slot : Slot} {mine mine' theirs theirs' : List Int}
    {log : MatchLog} (fits : Fits slot mine theirs log)
    (ours : mine ⊆ mine') (others : theirs ⊆ theirs') :
    Fits slot mine' theirs' log := by
  obtain ⟨own, sent, other, told, same⟩ := fits
  exact ⟨own, ours sent, other, others told, same⟩

def Picks (sent : List Int) : Prop :=
  sent = [] ∨ sent = [1] ∨ sent = [2]

theorem Picks.unique {picks : List Int} (valid : Picks picks)
    {first second : Int} (one : first ∈ picks) (two : second ∈ picks) :
    first = second := by
  rcases valid with rfl | rfl | rfl
  · cases one
  · exact (List.mem_singleton.mp one).trans (List.mem_singleton.mp two).symm
  · exact (List.mem_singleton.mp one).trans (List.mem_singleton.mp two).symm

theorem Picks.toNat {picks : List Int} (valid : Picks picks) {pick : Int}
    (mem : pick ∈ picks) :
    ((UInt8.ofNat (pick % 256).toNat).toNat : Int) = pick := by
  rcases valid with rfl | rfl | rfl
  · cases mem
  · cases List.mem_singleton.mp mem
    rfl
  · cases List.mem_singleton.mp mem
    rfl

/-- A client whose connection is the one to the room, on which it has sent
`sent` and the opponent `theirs`. -/
structure InRoom (slot : Slot) (sent theirs : List Int) (s : Session S) :
    Prop where
  notMenu : s.lobby.sub.isMenu = false
  isP1 : s.lobby.isP1 = decide (slot = .p1)
  network : s.lobby.localMode = false
  sent : (s.lobby.loadoutSent = false ∧ s.lobby.myLoadout = 0 ∧ sent = []) ∨
    (s.lobby.loadoutSent = true ∧ sent = [s.lobby.myLoadout])
  heard : s.net.opponentLoadout = -1 ∨ s.net.opponentLoadout ∈ theirs

namespace InRoom

variable {slot : Slot} {sent theirs : List Int} {s s' : Session S}
  {calls : LobbyCalls}

theorem of_sub {sub : LobbySubState} (inRoom : InRoom slot sent theirs s)
    (notMenu : sub.isMenu = false)
    (lobby : s'.lobby = { s.lobby with sub := sub })
    (line : Session.SameLine s s') : InRoom slot sent theirs s' where
  notMenu := by
    rw [lobby]
    exact notMenu
  isP1 := by
    rw [lobby]
    exact inRoom.isP1
  network := by
    rw [lobby]
    exact inRoom.network
  sent := by
    rw [lobby]
    exact inRoom.sent
  heard := by
    rw [line.opponentLoadout]
    exact inRoom.heard

theorem of_pick {pick : Int} (inRoom : InRoom slot [] theirs s)
    (choosing : s.lobby.sub = .loadout)
    (lobby : s'.lobby = (s.pickLoadout pick).lobby)
    (line : Session.SameLine s s') : InRoom slot [pick] theirs s' where
  notMenu := by
    rw [lobby]
    exact choosing ▸ rfl
  isP1 := by
    rw [lobby]
    exact inRoom.isP1
  network := by
    rw [lobby]
    exact inRoom.network
  sent := by
    refine .inr ⟨?_, ?_⟩
    · rw [lobby, Session.pickLoadout, inRoom.network]
      rfl
    · rw [lobby]
      rfl
  heard := by
    rw [line.opponentLoadout]
    exact inRoom.heard

theorem sent_of_unsent (inRoom : InRoom slot sent theirs s)
    (unsent : s.lobby.loadoutSent = false) : sent = [] := by
  rcases inRoom.sent with none | one
  · exact none.2.2
  · rw [unsent] at one
    cases one.1

inductive RoomStep (s s' : Session S) : LobbyCalls → Prop where
  | moves (sub : LobbySubState) (notMenu : sub.isMenu = false)
      (kept : sub = .ready → s.lobby.sub = .ready)
      (lobby : s'.lobby = { s.lobby with sub := sub })
      (line : Session.SameLine s s') : RoomStep s s' .silent
  | picks (pick : Int) (choosing : s.lobby.sub = .loadout)
      (unsent : s.lobby.loadoutSent = false)
      (lobby : s'.lobby = (s.pickLoadout pick).lobby)
      (line : Session.SameLine s s') :
      RoomStep s s' ⟨s.sendPick pick, none, false⟩
  | fights (log : MatchLog)
      (lobby : s'.lobby = { s.lobby with sub := .ready })
      (line : Session.SameLine s s') : RoomStep s s' ⟨none, some log, false⟩

theorem roomStep (inRoom : InRoom slot sent theirs s)
    (step : Session.LobbyStep s s' calls)
    (connected : s'.net.connected = true) : RoomStep s s' calls := by
  have notMenu := inRoom.notMenu
  cases step with
  | stays lobby line =>
      refine .moves s.lobby.sub notMenu id ?_ line
      rw [lobby]
  | drops lobby dropped => rw [dropped] at connected; cases connected
  | walks sub before after lobby => rw [before] at notMenu; cases notMenu
  | leaves waited lobby dropped => rw [dropped] at connected; cases connected
  | opens isP1 before lobby unknown => rw [before] at notMenu; cases notMenu
  | playsLocal before lobby => rw [before] at notMenu; cases notMenu
  | meets waited lobby line =>
      refine .moves .loadout rfl ?_ lobby line
      intro ready
      cases ready
  | picks pick valid choosing unsent lobby line =>
      exact .picks pick choosing unsent lobby line
  | fights log found lobby line => exact .fights log lobby line
  | restarts lobby dropped => rw [dropped] at connected; cases connected

theorem step (inRoom : InRoom slot sent theirs s)
    (step : Session.LobbyStep s s' calls)
    (connected : s'.net.connected = true) :
    InRoom slot (sent ++ calls.sendLoadout.toList) theirs s' := by
  have silent : sent ++ Option.toList none = sent := List.append_nil sent
  cases inRoom.roomStep step connected with
  | moves sub notMenu kept lobby line =>
      exact silent.symm ▸ inRoom.of_sub notMenu lobby line
  | picks pick choosing unsent lobby line =>
      cases inRoom.sent_of_unsent unsent
      rw [Session.sendPick, inRoom.network]
      exact inRoom.of_pick choosing lobby line
  | fights log lobby line =>
      exact silent.symm ▸ inRoom.of_sub rfl lobby line

theorem hear {msg : ServerMessage} (inRoom : InRoom slot sent theirs s)
    (hears : Session.Hears msg s s')
    (told : ∀ byte, msg = .loadout byte → (byte.toNat : Int) ∈ theirs) :
    InRoom slot sent theirs s' where
  notMenu := by
    rw [hears.lobby]
    exact inRoom.notMenu
  isP1 := by
    rw [hears.lobby]
    exact inRoom.isP1
  network := by
    rw [hears.lobby]
    exact inRoom.network
  sent := by
    rw [hears.lobby]
    exact inRoom.sent
  heard := by
    rcases hears.opponentLoadout with same | ⟨byte, isLoadout, same⟩
    · rw [same]
      exact inRoom.heard
    · rw [same]
      exact .inr (told byte isLoadout)

theorem sends (inRoom : InRoom slot sent theirs s)
    (step : Session.LobbyStep s s' calls) :
    calls.sendLoadout = none ∨ (sent = [] ∧
      (calls.sendLoadout = some 1 ∨ calls.sendLoadout = some 2)) := by
  cases step with
  | picks pick valid choosing unsent lobby line =>
      refine .inr ⟨inRoom.sent_of_unsent unsent, ?_⟩
      rw [Session.sendPick, inRoom.network]
      exact valid.imp (congrArg some) (congrArg some)
  | _ => exact .inl rfl

theorem fits {log : MatchLog} (inRoom : InRoom slot sent theirs s)
    (found : s.lobbyMatch = some log) : Fits slot sent theirs log := by
  obtain ⟨picked, heard, p1Fighter, p2Fighter, p1Loadout, p2Loadout⟩ :=
    Session.lobbyMatch_network inRoom.network found
  have mine : sent = [s.lobby.myLoadout] := by
    rcases inRoom.sent with none | one
    · exact absurd none.2.1 picked
    · exact one.2
  have other : s.net.opponentLoadout ∈ theirs := by
    rcases inRoom.heard with unknown | told
    · omega
    · exact told
  rw [inRoom.isP1] at p1Loadout p2Loadout
  refine ⟨_, mine ▸ List.mem_singleton_self _, _, other, p1Fighter, p2Fighter,
    ?_, ?_⟩
  · rw [p1Loadout]
    cases slot <;> rfl
  · rw [p2Loadout]
    cases slot <;> rfl

/-- `LS_READY` is entered by the call of `simulation_init`. -/
theorem ready_step (inRoom : InRoom slot sent theirs s)
    (step : Session.LobbyStep s s' calls)
    (connected : s'.net.connected = true)
    (ready : s'.lobby.sub = .ready) :
    s.lobby.sub = .ready ∨ calls.simulationInit.toList ≠ [] := by
  cases inRoom.roomStep step connected with
  | moves sub notMenu kept lobby line =>
      rw [lobby] at ready
      exact .inl (kept ready)
  | picks pick choosing unsent lobby line =>
      rw [lobby] at ready
      exact .inl ready
  | fights log lobby line => exact .inr (List.cons_ne_nil _ _)

theorem calls_fit (inRoom : InRoom slot sent theirs s)
    (step : Session.LobbyStep s s' calls) :
    ∀ log ∈ calls.simulationInit, Fits slot sent theirs log := by
  intro log called
  cases step with
  | fights log' found lobby line =>
      cases called
      exact inRoom.fits found
  | _ => cases called

end InRoom

namespace LobbySeat

structure Sound (slot : Slot) (theirs : List Int) (seat : LobbySeat S) :
    Prop where
  visit : seat.session.Visit seat.visit
  away : seat.place = .away → seat.sent = [] ∧ seat.called = []
  inRoom : seat.place = .joined → InRoom slot seat.sent theirs seat.session
  picks : Picks seat.sent
  up : ∀ pick, .loadout pick ∈ seat.up → pick ∈ seat.sent
  down : ∀ bytes, .loadout bytes ∈ seat.down → ∃ pick ∈ theirs,
    bytes = [0x20, .ofNat (pick % 256).toNat]
  called : ∀ log ∈ seat.called, Fits slot seat.sent theirs log
  ready : seat.place = .joined → seat.session.lobby.sub = .ready →
    seat.called ≠ []

variable {slot : Slot} {theirs theirs' : List Int} {seat : LobbySeat S}
  {event : SessionEvent}

theorem Sound.grow (sound : seat.Sound slot theirs)
    (grow : theirs ⊆ theirs') : seat.Sound slot theirs' where
  visit := sound.visit
  away := sound.away
  inRoom joined := by
    obtain ⟨notMenu, isP1, network, sent, heard⟩ := sound.inRoom joined
    exact ⟨notMenu, isP1, network, sent, heard.imp_right fun mem => grow mem⟩
  picks := sound.picks
  up := sound.up
  down bytes mem := by
    obtain ⟨pick, held, same⟩ := sound.down bytes mem
    exact ⟨pick, grow held, same⟩
  called log mem :=
    (sound.called log mem).grow (List.Subset.refl _) grow
  ready := sound.ready

theorem visit_step (visit : seat.session.Visit seat.visit) :
    (Session.step simulation seat.session event).Visit
      ((seat.session.lobbyCalls event).count seat.visit) := by
  by_cases message : ∃ msg, event = .receive (.message msg)
  · obtain ⟨msg, rfl⟩ := message
    exact visit.of_lobby (Session.receive_hears msg).lobby
  · exact visit.step (Session.step_lobbyStep fun msg same =>
      message ⟨msg, same⟩)

theorem loadout_mem_clientMsgs {s : Session S} {pick : Int}
    (mem : .loadout pick ∈ s.clientMsgs event) :
    (s.lobbyCalls event).sendLoadout = some pick := by
  unfold Session.clientMsgs at mem
  split at mem
  next =>
    split at mem
    next => cases List.mem_singleton.mp mem
    next => cases mem
  next =>
    obtain ⟨sent, held, same⟩ := List.mem_map.mp mem
    cases same
    exact Option.mem_toList.mp held

theorem act_away (taken : Bool) (apart : seat.place ≠ .joined) :
    seat.act simulation taken event =
      { seat with
        session := Session.step simulation seat.session event
        visit := (seat.session.lobbyCalls event).count seat.visit } := by
  rw [act]
  split
  next joined => exact absurd joined apart
  next => rfl

theorem Sound.act_away (sound : seat.Sound slot theirs) (taken : Bool)
    (apart : seat.place ≠ .joined) :
    (seat.act simulation taken event).Sound slot theirs := by
  rw [LobbySeat.act_away taken apart]
  exact ⟨visit_step sound.visit, sound.away,
    fun joined => absurd joined apart, sound.picks, sound.up, sound.down,
    sound.called, fun joined => absurd joined apart⟩

theorem act_joined (taken : Bool) (joined : seat.place = .joined) :
    seat.act simulation taken event =
      let session := Session.step simulation seat.session event
      let calls := seat.session.lobbyCalls event
      { seat with
        session := session
        place := connection session
        up := if taken ∧ seat.session.net.upgraded then
            seat.up ++ seat.session.clientMsgs event
          else seat.up
        sent := seat.sent ++ calls.sendLoadout.toList
        called := seat.called ++ calls.simulationInit.toList
        visit := calls.count seat.visit } := by
  rw [act, joined]

theorem connected_of_joined {s : Session S}
    (joined : connection s = .joined) : s.net.connected = true := by
  rw [connection] at joined
  split at joined
  next connected => exact connected
  next => cases joined

theorem connection_ne_away (s : Session S) : connection s ≠ .away := by
  rw [connection]
  split <;> decide

theorem Sound.act_joined (sound : seat.Sound slot theirs) (taken : Bool)
    (joined : seat.place = .joined)
    (own : ∀ msg, event ≠ .receive (.message msg)) :
    (seat.act simulation taken event).Sound slot theirs := by
  have step : Session.LobbyStep seat.session
      (Session.step simulation seat.session event)
      (seat.session.lobbyCalls event) := Session.step_lobbyStep own
  have inRoom := sound.inRoom joined
  rw [LobbySeat.act_joined taken joined]
  refine ⟨visit_step sound.visit, fun away => ?_, fun still => ?_, ?_,
    fun pick mem => ?_, sound.down, fun log mem => ?_, fun still ready => ?_⟩
  · exact absurd away (connection_ne_away _)
  · exact inRoom.step step (connected_of_joined still)
  · dsimp only
    rcases inRoom.sends step with silent | ⟨unsent, one | two⟩
    · rw [silent]
      exact (List.append_nil seat.sent).symm ▸ sound.picks
    · rw [unsent, one]
      exact .inr (.inl rfl)
    · rw [unsent, two]
      exact .inr (.inr rfl)
  · have old : ∀ mem : .loadout pick ∈ seat.up, pick ∈ seat.sent ++
        (seat.session.lobbyCalls event).sendLoadout.toList := fun mem =>
      List.mem_append_left _ (sound.up pick mem)
    dsimp only at mem
    split at mem
    next =>
      rcases List.mem_append.mp mem with before | now
      · exact old before
      · have sends := loadout_mem_clientMsgs now
        exact List.mem_append_right _ (Option.mem_toList.mpr sends)
    next => exact old mem
  · have grown : seat.sent ⊆ seat.sent ++
        (seat.session.lobbyCalls event).sendLoadout.toList :=
      List.subset_append_left _ _
    have fits : Fits slot seat.sent theirs log := by
      rcases List.mem_append.mp mem with before | now
      · exact sound.called log before
      · exact inRoom.calls_fit step log (Option.mem_toList.mp now)
    exact fits.grow grown (List.Subset.refl _)
  · rcases inRoom.ready_step step (connected_of_joined still) ready with
      before | now
    · exact List.append_ne_nil_of_left_ne_nil (sound.ready joined before) _
    · exact List.append_ne_nil_of_right_ne_nil _ now

theorem sent_subset_act (taken : Bool) :
    seat.sent ⊆ (seat.act simulation taken event).sent := by
  by_cases joined : seat.place = .joined
  · rw [LobbySeat.act_joined taken joined]
    exact List.subset_append_left _ _
  · rw [LobbySeat.act_away taken joined]
    exact List.Subset.refl _

theorem act_session (taken : Bool) :
    (seat.act simulation taken event).session =
      Session.step simulation seat.session event := by
  rw [act]
  split <;> rfl

theorem keepsPick_step {calls : Nat} (visit : seat.session.Visit calls) :
    Session.KeepsPick seat.session
      (Session.step simulation seat.session event) := by
  by_cases message : ∃ msg, event = .receive (.message msg)
  · obtain ⟨msg, rfl⟩ := message
    exact .of_lobby (Session.receive_hears msg).lobby
  · exact visit.keepsPick (Session.step_lobbyStep fun msg same =>
      message ⟨msg, same⟩)

theorem entersRoom_spec (simulation : Simulation S) {s : Session S}
    (enters : s.entersRoom slot event) :
    s.lobby.sub.isMenu = true ∧
      (Session.step simulation s event).lobby = { s.lobby with
        isP1 := decide (slot = .p1)
        sub := if slot = .p1 then .showCode else .waiting } ∧
      (Session.step simulation s event).net.opponentLoadout = -1 := by
  have unknown (env : UserEnv) :
      (s.openConnection env).net.opponentLoadout = -1 :=
    Session.configure_connect_opponentLoadout env
  have joins (env : UserEnv) (filled : env.filled = true) :
      s.lobbyJoinRoom env = { s.openConnection env with
        lobby := { s.lobby with isP1 := false, sub := .waiting } } := by
    rw [Session.lobbyJoinRoom, if_pos filled]
  unfold Session.entersRoom at enters
  split at enters
  next created env =>
    obtain ⟨created, current, sub⟩ := of_decide_eq_true enters
    rw [Session.step, if_pos ⟨current, sub⟩, Session.lobbyCreateRoom,
      if_pos created, sub]
    exact ⟨rfl, rfl, unknown env⟩
  next env =>
    obtain ⟨filled, current, sub⟩ := of_decide_eq_true enters
    have touched : s.lobbyHandleTouch .join env = s.lobbyJoinRoom env := by
      rw [Session.lobbyHandleTouch]
      exact sub
    rw [Session.step, if_pos current, touched, joins env filled, sub]
    exact ⟨rfl, rfl, unknown env⟩
  next env =>
    obtain ⟨filled, current, sub⟩ := of_decide_eq_true enters
    have pressed : s.handleKey .enter env = s.lobbyJoinRoom env := by
      simp only [Session.handleKey, current, Session.lobbyHandleKey, sub]
    rw [Session.step, pressed, joins env filled, sub]
    exact ⟨rfl, rfl, unknown env⟩
  next => cases enters

theorem Sound.join (sound : seat.Sound slot theirs)
    (away : seat.place = .away)
    (enters : seat.session.entersRoom slot event) :
    ({ seat.act simulation true event with
        place := connection (seat.act simulation true event).session
        } : LobbySeat S).Sound slot theirs := by
  have apart : seat.place ≠ .joined := by
    rw [away]
    decide
  have acted : (seat.act simulation true event).Sound slot theirs :=
    sound.act_away true apart
  obtain ⟨menu, lobby, unknown⟩ := entersRoom_spec simulation enters
  obtain ⟨unsent, _⟩ := sound.away away
  obtain ⟨_, unpicked, notSent, network⟩ := sound.visit.menu menu
  rw [LobbySeat.act_away true apart] at acted ⊢
  refine ⟨acted.visit, fun isAway => ?_, fun _ => ?_, acted.picks, acted.up,
    acted.down, acted.called, fun _ ready => ?_⟩
  · exact absurd isAway (connection_ne_away _)
  · refine ⟨?_, ?_, ?_, .inl ⟨?_, ?_, unsent⟩, .inl unknown⟩
    · rw [lobby]
      cases slot <;> rfl
    · rw [lobby]
    · rw [lobby]
      exact network
    · rw [lobby]
      exact notSent
    · rw [lobby]
      exact unpicked
  · rw [lobby] at ready
    cases slot <;> cases ready

theorem received_loadout {texts : Slot → Server.RoomConfig → NetMatchInfo}
    {msg : Server.ServerMsg} {byte : UInt8}
    (same : received texts msg = .loadout byte) :
    ∃ first rest, msg = .loadout (first :: byte :: rest) := by
  unfold received at same
  split at same
  case h_4 first second rest =>
    cases same
    exact ⟨first, rest, rfl⟩
  all_goals cases same

theorem deliver_sent (texts : Slot → Server.RoomConfig → NetMatchInfo) :
    (seat.deliver simulation texts).sent = seat.sent := by
  rw [LobbySeat.deliver]
  split
  next =>
    split
    next => rfl
    next => rfl
  next => rfl

theorem deliver_lobby (texts : Slot → Server.RoomConfig → NetMatchInfo) :
    (seat.deliver simulation texts).session.lobby = seat.session.lobby := by
  rw [LobbySeat.deliver]
  split
  next =>
    split
    next => exact (Session.receive_hears _).lobby
    next => rfl
  next => rfl

theorem Sound.deliver (sound : seat.Sound slot theirs)
    (texts : Slot → Server.RoomConfig → NetMatchInfo)
    (valid : Picks theirs) :
    (seat.deliver simulation texts).Sound slot theirs := by
  rw [LobbySeat.deliver]
  split
  next msg rest joined waiting =>
    split
    next upgraded =>
      have hears : Session.Hears (received texts msg) seat.session
          (Session.step simulation seat.session
            (.receive (.message (received texts msg)))) :=
        Session.receive_hears _
      have front : msg ∈ seat.down := waiting ▸ List.mem_cons_self
      refine ⟨sound.visit.of_lobby hears.lobby, sound.away, fun _ => ?_,
        sound.picks, sound.up, fun bytes mem => ?_, sound.called, ?_⟩
      · exact (sound.inRoom joined).hear hears fun byte told => by
          obtain ⟨first, rest, rfl⟩ := received_loadout told
          obtain ⟨pick, held, same⟩ := sound.down _ front
          cases same
          rw [valid.toNat held]
          exact held
      · exact sound.down bytes (waiting ▸ List.mem_cons_of_mem _ mem)
      · intro still ready
        exact sound.ready still (hears.lobby ▸ ready)
    next => exact sound
  next => exact sound

end LobbySeat

end FuryClash.Client
