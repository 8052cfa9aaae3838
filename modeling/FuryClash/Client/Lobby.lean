import FuryClash.Client.Session

namespace FuryClash.Client

open FuryClash.Data

variable {S : Type} {simulation : Simulation S}

/-- The calls of `net_client_send_loadout`, of `simulation_init` for a match of
the lobby, and of `lobby_init`. -/
structure LobbyCalls where
  sendLoadout : Option Int
  simulationInit : Option MatchLog
  lobbyInit : Bool

namespace LobbyCalls

def silent : LobbyCalls := ⟨none, none, false⟩

def count (calls : LobbyCalls) (before : Nat) : Nat :=
  if calls.lobbyInit then 0 else before + calls.simulationInit.toList.length

end LobbyCalls

/-- No room has been created or joined yet. -/
def LobbySubState.isMenu : LobbySubState → Bool
  | .setup | .role | .creating | .enterCode => true
  | .showCode | .waiting | .loadout | .ready => false

namespace Session

def sendPick (loadout : Int) (s : Session S) : Option Int :=
  if s.lobby.localMode then none else some loadout

def touchLoadout (button : LobbyButton) (s : Session S) : Option Int :=
  match s.lobby.sub, button with
  | .loadout, .fire => if s.lobby.loadoutSent then none else s.sendPick 1
  | .loadout, .frost => if s.lobby.loadoutSent then none else s.sendPick 2
  | _, _ => none

def keyLoadout (key : Key) (s : Session S) : Option Int :=
  match s.lobby.sub, key with
  | .loadout, .f =>
      if s.lobby.loadoutSent = false ∧ s.lobby.myLoadout = 0 then s.sendPick 1
      else none
  | .loadout, .r =>
      if s.lobby.loadoutSent = false ∧ s.lobby.myLoadout = 0 then s.sendPick 2
      else none
  | _, _ => none

def keyCalls (key : Key) (s : Session S) : LobbyCalls :=
  match s.game.current, key with
  | .lobby, _ => ⟨s.keyLoadout key, none, false⟩
  | .results, .enter => ⟨none, none, true⟩
  | .results, .space => ⟨none, none, true⟩
  | _, _ => .silent

def lobbyCalls (s : Session S) : SessionEvent → LobbyCalls
  | .touch button _ =>
      if s.game.current = .lobby then ⟨s.touchLoadout button, none, false⟩
      else .silent
  | .key key _ => s.keyCalls key
  | .lobbyFight => ⟨none, s.lobbyMatch, false⟩
  | _ => .silent

structure SameLine (s s' : Session S) : Prop where
  connected : s'.net.connected = s.net.connected
  opponentLoadout : s'.net.opponentLoadout = s.net.opponentLoadout

inductive LobbyStep (s s' : Session S) : LobbyCalls → Prop where
  | stays (lobby : s'.lobby = s.lobby) (line : SameLine s s') :
      LobbyStep s s' .silent
  | drops (lobby : s'.lobby = s.lobby)
      (dropped : s'.net.connected = false) : LobbyStep s s' .silent
  | walks (sub : LobbySubState) (before : s.lobby.sub.isMenu = true)
      (after : sub.isMenu = true)
      (lobby : s'.lobby = { s.lobby with sub := sub }) :
      LobbyStep s s' .silent
  | leaves (waited : s.lobby.sub = .showCode ∨ s.lobby.sub = .waiting)
      (lobby : s'.lobby = { s.lobby with sub := .role })
      (dropped : s'.net.connected = false) : LobbyStep s s' .silent
  | opens (isP1 : Bool) (before : s.lobby.sub.isMenu = true)
      (lobby : s'.lobby = { s.lobby with
        isP1 := isP1
        sub := if isP1 then .showCode else .waiting })
      (unknown : s'.net.opponentLoadout = -1) : LobbyStep s s' .silent
  | playsLocal (before : s.lobby.sub.isMenu = true)
      (lobby : s'.lobby = { s.lobby with
        localMode := true
        sub := .loadout }) : LobbyStep s s' .silent
  | meets (waited : s.lobby.sub = .showCode ∨ s.lobby.sub = .waiting)
      (lobby : s'.lobby = { s.lobby with sub := .loadout })
      (line : SameLine s s') : LobbyStep s s' .silent
  | picks (loadout : Int) (valid : loadout = 1 ∨ loadout = 2)
      (choosing : s.lobby.sub = .loadout)
      (unsent : s.lobby.loadoutSent = false)
      (lobby : s'.lobby = (s.pickLoadout loadout).lobby)
      (line : SameLine s s') :
      LobbyStep s s' ⟨s.sendPick loadout, none, false⟩
  | fights (log : MatchLog) (found : s.lobbyMatch = some log)
      (lobby : s'.lobby = { s.lobby with sub := .ready })
      (line : SameLine s s') : LobbyStep s s' ⟨none, some log, false⟩
  | restarts (lobby : s'.lobby = Client.lobbyInit)
      (dropped : s'.net.connected = false) :
      LobbyStep s s' ⟨none, none, true⟩

variable {s s' : Session S}

theorem LobbyStep.still (s : Session S) : LobbyStep s s .silent :=
  .stays rfl ⟨rfl, rfl⟩

theorem ackStart_connected (net : NetClient) :
    net.ackStart.connected = net.connected := by
  rw [NetClient.ackStart]
  split <;> rfl

theorem ackStart_opponentLoadout (net : NetClient) :
    net.ackStart.opponentLoadout = net.opponentLoadout := by
  rw [NetClient.ackStart]
  split <;> rfl

theorem setSub_walks {sub : LobbySubState} (before : s.lobby.sub.isMenu = true)
    (after : sub.isMenu = true) : LobbyStep s (s.setSub sub) .silent :=
  .walks sub before after rfl

theorem configure_connect_opponentLoadout (env : UserEnv) :
    ((NetClient.configure env.validUrl).connect env.opens).opponentLoadout =
      -1 := by
  rw [NetClient.connect]
  split
  next => rfl
  next =>
    split
    next => rfl
    next => rfl

theorem lobbyJoinRoom_lobbyStep (env : UserEnv)
    (sub : s.lobby.sub = .enterCode) :
    LobbyStep s (s.lobbyJoinRoom env) .silent := by
  rw [lobbyJoinRoom]
  split
  next =>
    refine .opens false (by rw [sub]; rfl) rfl ?_
    exact configure_connect_opponentLoadout env
  next => exact .still s

theorem lobbyCreateRoom_lobbyStep (created : Bool) (env : UserEnv)
    (sub : s.lobby.sub = .creating) :
    LobbyStep s (s.lobbyCreateRoom created env) .silent := by
  have before : s.lobby.sub.isMenu = true := by
    rw [sub]
    rfl
  rw [lobbyCreateRoom]
  split
  next => exact .opens true before rfl (configure_connect_opponentLoadout env)
  next => exact setSub_walks before rfl

theorem pickLoadout_lobbyStep {loadout : Int}
    (valid : loadout = 1 ∨ loadout = 2) (choosing : s.lobby.sub = .loadout)
    (unsent : s.lobby.loadoutSent = false) :
    LobbyStep s (s.pickLoadout loadout) ⟨s.sendPick loadout, none, false⟩ :=
  .picks loadout valid choosing unsent rfl ⟨rfl, rfl⟩

theorem touchLoadout_menu {button : LobbyButton}
    (before : s.lobby.sub.isMenu = true) : s.touchLoadout button = none := by
  unfold touchLoadout
  split
  next choosing => rw [choosing] at before; cases before
  next choosing => rw [choosing] at before; cases before
  next => rfl

theorem lobbyHandleTouch_lobbyStep (button : LobbyButton) (env : UserEnv) :
    LobbyStep s (s.lobbyHandleTouch button env)
      ⟨s.touchLoadout button, none, false⟩ := by
  have menu {sub : LobbySubState} (isSub : s.lobby.sub = sub)
      (before : sub.isMenu = true) : s.lobby.sub.isMenu = true :=
    isSub ▸ before
  unfold lobbyHandleTouch
  split
  case h_1 sub =>
    rw [touchLoadout_menu (menu sub rfl)]
    split
    next => exact setSub_walks (menu sub rfl) rfl
    next => exact .still s
  case h_2 sub =>
    rw [touchLoadout_menu (menu sub rfl)]
    exact setSub_walks (menu sub rfl) rfl
  case h_3 sub =>
    rw [touchLoadout_menu (menu sub rfl)]
    exact setSub_walks (menu sub rfl) rfl
  case h_4 sub =>
    rw [touchLoadout_menu (menu sub rfl)]
    exact .playsLocal (menu sub rfl) rfl
  case h_5 sub =>
    rw [touchLoadout_menu (menu sub rfl)]
    exact lobbyJoinRoom_lobbyStep env sub
  case h_6 sub =>
    rw [touchLoadout_menu (menu sub rfl)]
    exact setSub_walks (menu sub rfl) rfl
  case h_7 sub =>
    simp only [touchLoadout, sub]
    split
    next => exact .still s
    next unsent =>
      exact pickLoadout_lobbyStep (.inl rfl) sub (eq_false_of_ne_true unsent)
  case h_8 sub =>
    simp only [touchLoadout, sub]
    split
    next => exact .still s
    next unsent =>
      exact pickLoadout_lobbyStep (.inr rfl) sub (eq_false_of_ne_true unsent)
  case h_9 notFire notFrost =>
    rw [touchLoadout]
    · exact .still s
    · exact notFire
    · exact notFrost

theorem keyLoadout_unready {key : Key} (other : s.lobby.sub ≠ .loadout) :
    s.keyLoadout key = none := by
  unfold keyLoadout
  split
  next choosing => exact absurd choosing other
  next choosing => exact absurd choosing other
  next => rfl

theorem lobbyHandleKey_lobbyStep (key : Key) (env : UserEnv) :
    LobbyStep s (s.lobbyHandleKey key env)
      ⟨s.keyLoadout key, none, false⟩ := by
  have menu {sub : LobbySubState} (isSub : s.lobby.sub = sub)
      (before : sub.isMenu = true) : s.lobby.sub.isMenu = true :=
    isSub ▸ before
  have quiet {sub : LobbySubState} (key : Key) (isSub : s.lobby.sub = sub)
      (other : sub ≠ .loadout) : s.keyLoadout key = none :=
    keyLoadout_unready (isSub ▸ other)
  unfold lobbyHandleKey
  split
  case h_1 sub =>
    rw [quiet _ sub (by decide)]
    split
    next => exact setSub_walks (menu sub rfl) rfl
    next => exact .still s
  case h_2 sub =>
    rw [quiet _ sub (by decide)]
    exact lobbyJoinRoom_lobbyStep env sub
  case h_3 sub =>
    rw [quiet _ sub (by decide)]
    exact setSub_walks (menu sub rfl) rfl
  case h_4 sub =>
    rw [quiet _ sub (by decide)]
    exact setSub_walks (menu sub rfl) rfl
  case h_5 sub =>
    rw [quiet _ sub (by decide)]
    exact .leaves (.inl sub) rfl rfl
  case h_6 sub =>
    rw [quiet _ sub (by decide)]
    exact .leaves (.inr sub) rfl rfl
  case h_7 sub =>
    rw [quiet _ sub (by decide)]
    exact setSub_walks (menu sub rfl) rfl
  case h_8 sub =>
    rw [quiet _ sub (by decide)]
    exact setSub_walks (menu sub rfl) rfl
  case h_9 sub =>
    rw [quiet _ sub (by decide)]
    exact .playsLocal (menu sub rfl) rfl
  case h_10 sub =>
    simp only [keyLoadout, sub]
    split
    next free => exact pickLoadout_lobbyStep (.inl rfl) sub free.1
    next => exact .still s
  case h_11 sub =>
    simp only [keyLoadout, sub]
    split
    next free => exact pickLoadout_lobbyStep (.inr rfl) sub free.1
    next => exact .still s
  case h_12 notF notR =>
    rw [keyLoadout]
    · exact .still s
    · exact notF
    · exact notR

theorem handleKey_lobbyStep (key : Key) (env : UserEnv) :
    LobbyStep s (s.handleKey key env) (s.keyCalls key) := by
  unfold handleKey
  split
  case h_1 current =>
    simp only [keyCalls, current]
    exact lobbyHandleKey_lobbyStep _ env
  case h_2 current =>
    simp only [keyCalls, current]
    exact .stays rfl ⟨rfl, rfl⟩
  case h_3 current =>
    simp only [keyCalls, current]
    exact .stays rfl ⟨rfl, rfl⟩
  case h_4 current =>
    simp only [keyCalls, current]
    exact .drops rfl rfl
  case h_5 current =>
    simp only [keyCalls, current]
    exact .restarts rfl rfl
  case h_6 current =>
    simp only [keyCalls, current]
    exact .restarts rfl rfl
  case h_7 notLobby _ _ _ notEnter notSpace =>
    rw [keyCalls.eq_4]
    · exact .still s
    · exact notLobby
    · exact notEnter
    · exact notSpace

theorem lobbyReady_lobbyStep : LobbyStep s s.lobbyReady .silent := by
  rw [lobbyReady]
  split
  next both =>
    refine .meets both.2.1 rfl ⟨?_, ?_⟩
    · exact ackStart_connected s.net
    · exact ackStart_opponentLoadout s.net
  next => exact .still s

theorem lobbyFight_lobbyStep :
    LobbyStep s (s.lobbyFight simulation) ⟨none, s.lobbyMatch, false⟩ := by
  rw [lobbyFight]
  split
  next log found =>
    rw [found]
    exact .fights log found rfl ⟨rfl, rfl⟩
  next missing =>
    rw [missing]
    exact .still s

theorem matchSearch_lobbyStep :
    LobbyStep s (s.matchSearch simulation) .silent := by
  rw [matchSearch]
  split
  next =>
    refine .stays rfl ⟨?_, ?_⟩
    · exact ackStart_connected s.net
    · exact ackStart_opponentLoadout s.net
  next => exact .still s

theorem tick_lobbyStep (localInput : UInt16) :
    LobbyStep s (s.tick simulation localInput) .silent := by
  rw [tick]
  dsimp only
  split
  next => exact .stays rfl ⟨rfl, rfl⟩
  next => exact .stays rfl ⟨rfl, rfl⟩

theorem fightOver_lobbyStep : LobbyStep s s.fightOver .silent := by
  rw [fightOver]
  split
  next => exact .stays rfl ⟨rfl, rfl⟩
  next => exact .still s

theorem receive_lobbyStep {received : Received}
    (own : ∀ msg, received ≠ .message msg) :
    LobbyStep s (s.receive received) .silent := by
  unfold receive
  split
  next =>
    cases received with
    | upgrade =>
        dsimp only
        split
        next => exact .still s
        next => exact .stays rfl ⟨rfl, rfl⟩
    | message msg => exact absurd rfl (own msg)
    | failure => exact .stays rfl ⟨rfl, rfl⟩
  next => exact .still s

theorem step_lobbyStep {event : SessionEvent}
    (own : ∀ msg, event ≠ .receive (.message msg)) :
    LobbyStep s (step simulation s event) (s.lobbyCalls event) := by
  cases event with
  | touch button env =>
      rw [step, lobbyCalls]
      split
      next => exact lobbyHandleTouch_lobbyStep button env
      next => exact .still s
  | key key env => exact handleKey_lobbyStep key env
  | receive received =>
      exact receive_lobbyStep fun msg same => own msg (same ▸ rfl)
  | creating created env =>
      rw [step]
      split
      next creating => exact lobbyCreateRoom_lobbyStep created env creating.2
      next => exact .still s
  | lobbyReady => exact lobbyReady_lobbyStep
  | lobbyFight => exact lobbyFight_lobbyStep
  | matchSearch => exact matchSearch_lobbyStep
  | fightOver => exact fightOver_lobbyStep
  | tick localInput => exact tick_lobbyStep localInput

/-- What a message of the server leaves, and what only a pick changes. -/
structure Hears (msg : ServerMessage) (s s' : Session S) : Prop where
  lobby : s'.lobby = s.lobby
  connected : s'.net.connected = s.net.connected
  opponentLoadout : s'.net.opponentLoadout = s.net.opponentLoadout ∨
    ∃ byte, msg = .loadout byte ∧
      s'.net.opponentLoadout = (byte.toNat : Int)

theorem confirms_lobby_net (entries : List (Nat × UInt16)) (s : Session S) :
    (entries.foldl (fun s entry => s.confirm entry) s).lobby = s.lobby ∧
      (entries.foldl (fun s entry => s.confirm entry) s).net = s.net := by
  induction entries generalizing s with
  | nil => exact ⟨rfl, rfl⟩
  | cons entry rest ih => exact ih (s.confirm entry)

theorem dispatchMessage_hears (msg : ServerMessage) :
    Hears msg s (s.dispatchMessage msg) := by
  cases msg with
  | inputBatch entries =>
      obtain ⟨lobby, net⟩ := confirms_lobby_net entries s
      exact ⟨lobby, congrArg NetClient.connected net,
        .inl (congrArg NetClient.opponentLoadout net)⟩
  | loadout byte => exact ⟨rfl, rfl, .inr ⟨byte, rfl, rfl⟩⟩
  | _ => exact ⟨rfl, rfl, .inl rfl⟩

theorem receive_hears (msg : ServerMessage) :
    Hears msg s (s.receive (.message msg)) := by
  rw [receive]
  split
  next =>
    split
    next => exact dispatchMessage_hears msg
    next => exact ⟨rfl, rfl, .inl rfl⟩
  next => exact ⟨rfl, rfl, .inl rfl⟩

theorem lobbyMatch_choosing {log : MatchLog}
    (found : s.lobbyMatch = some log) : s.lobby.sub = .loadout := by
  rw [lobbyMatch] at found
  exact (Option.ite_none_right_eq_some.mp found).1.2.1

/-- The match of a lobby with an opponent. -/
structure NetworkMatch (s : Session S) (log : MatchLog) : Prop where
  picked : s.lobby.myLoadout ≠ 0
  heard : 0 ≤ s.net.opponentLoadout
  p1Fighter : log.p1Fighter = 0
  p2Fighter : log.p2Fighter = 1
  p1Loadout : log.p1Loadout =
    if s.lobby.isP1 then s.lobby.myLoadout else s.net.opponentLoadout
  p2Loadout : log.p2Loadout =
    if s.lobby.isP1 then s.net.opponentLoadout else s.lobby.myLoadout

theorem lobbyMatch_network {log : MatchLog}
    (network : s.lobby.localMode = false) (found : s.lobbyMatch = some log) :
    NetworkMatch s log := by
  rw [lobbyMatch] at found
  obtain ⟨both, same⟩ := Option.ite_none_right_eq_some.mp found
  cases same
  rw [network] at both
  refine ⟨both.2.2.1, both.2.2.2, rfl, rfl, ?_, ?_⟩
  · simp [network]
  · simp [network]

/-- `calls` counts those of `simulation_init` in the visit. -/
structure Visit (s : Session S) (calls : Nat) : Prop where
  fresh : s.lobby.sub ≠ .loadout → s.lobby.sub ≠ .ready →
    s.lobby.myLoadout = 0 ∧ s.lobby.loadoutSent = false ∧
      s.lobby.localMode = false
  uncalled : s.lobby.sub ≠ .ready → calls = 0
  once : calls ≤ 1

theorem start_visit (startUp : StartUp) :
    Visit (start simulation startUp) 0 where
  fresh _ _ := by cases startUp <;> exact ⟨rfl, rfl, rfl⟩
  uncalled _ := rfl
  once := Nat.zero_le 1

theorem Visit.of_lobby {calls : Nat} (visit : Visit s calls)
    (lobby : s'.lobby = s.lobby) : Visit s' calls where
  fresh := by
    rw [lobby]
    exact visit.fresh
  uncalled := by
    rw [lobby]
    exact visit.uncalled
  once := visit.once

theorem Visit.menu {calls : Nat} (visit : Visit s calls)
    (menu : s.lobby.sub.isMenu = true) :
    calls = 0 ∧ s.lobby.myLoadout = 0 ∧ s.lobby.loadoutSent = false ∧
      s.lobby.localMode = false := by
  have notLoadout : s.lobby.sub ≠ .loadout := by
    intro sub
    rw [sub] at menu
    cases menu
  have notReady : s.lobby.sub ≠ .ready := by
    intro sub
    rw [sub] at menu
    cases menu
  exact ⟨visit.uncalled notReady, visit.fresh notLoadout notReady⟩

theorem Visit.waited {calls : Nat} (visit : Visit s calls)
    (waited : s.lobby.sub = .showCode ∨ s.lobby.sub = .waiting) :
    calls = 0 ∧ s.lobby.myLoadout = 0 ∧ s.lobby.loadoutSent = false ∧
      s.lobby.localMode = false := by
  have notLoadout : s.lobby.sub ≠ .loadout := by
    rcases waited with sub | sub <;> rw [sub] <;> decide
  have notReady : s.lobby.sub ≠ .ready := by
    rcases waited with sub | sub <;> rw [sub] <;> decide
  exact ⟨visit.uncalled notReady, visit.fresh notLoadout notReady⟩

/-- Before a pick is open nothing is picked, sent or started. -/
theorem Visit.of_fresh {sub : LobbySubState} {isP1 : Bool}
    (fresh : s.lobby.myLoadout = 0 ∧ s.lobby.loadoutSent = false ∧
      s.lobby.localMode = false)
    (lobby : s'.lobby = { s.lobby with isP1 := isP1, sub := sub }) :
    Visit s' 0 where
  fresh _ _ := by
    rw [lobby]
    exact fresh
  uncalled _ := rfl
  once := Nat.zero_le 1

theorem Visit.of_loadout (choosing : s'.lobby.sub = .loadout) :
    Visit s' 0 where
  fresh notLoadout _ := absurd choosing notLoadout
  uncalled _ := rfl
  once := Nat.zero_le 1

theorem Visit.step {calls : LobbyCalls} {before : Nat}
    (visit : Visit s before) (step : LobbyStep s s' calls) :
    Visit s' (calls.count before) := by
  cases step with
  | stays lobby line => exact visit.of_lobby lobby
  | drops lobby dropped => exact visit.of_lobby lobby
  | walks sub isMenu after lobby =>
      obtain ⟨rfl, fresh⟩ := visit.menu isMenu
      exact .of_fresh fresh lobby
  | leaves waited lobby dropped =>
      obtain ⟨rfl, fresh⟩ := visit.waited waited
      exact .of_fresh fresh lobby
  | opens isP1 isMenu lobby unknown =>
      obtain ⟨rfl, fresh⟩ := visit.menu isMenu
      exact .of_fresh fresh lobby
  | playsLocal isMenu lobby =>
      obtain ⟨rfl, _⟩ := visit.menu isMenu
      exact .of_loadout (congrArg Lobby.sub lobby)
  | meets waited lobby line =>
      obtain ⟨rfl, _⟩ := visit.waited waited
      exact .of_loadout (congrArg Lobby.sub lobby)
  | picks loadout valid choosing unsent lobby line =>
      have none : before = 0 := visit.uncalled (by rw [choosing]; decide)
      subst none
      exact .of_loadout ((congrArg Lobby.sub lobby).trans choosing)
  | fights log found lobby line =>
      have choosing := lobbyMatch_choosing found
      have none : before = 0 := visit.uncalled (by rw [choosing]; decide)
      subst none
      have ready : s'.lobby.sub = .ready := congrArg Lobby.sub lobby
      exact ⟨fun _ notReady => absurd ready notReady,
        fun notReady => absurd ready notReady, Nat.le_refl 1⟩
  | restarts lobby dropped =>
      refine ⟨fun _ _ => ?_, fun _ => rfl, Nat.zero_le 1⟩
      rw [lobby]
      exact ⟨rfl, rfl, rfl⟩

/-- A pick that was sent stands to the end of the visit. -/
def KeepsPick (s s' : Session S) : Prop :=
  s.lobby.loadoutSent = true →
    (s'.lobby.loadoutSent = true ∧ s'.lobby.myLoadout = s.lobby.myLoadout) ∨
      s'.lobby = Client.lobbyInit

theorem KeepsPick.of_lobby (lobby : s'.lobby = s.lobby) : KeepsPick s s' := by
  intro sent
  rw [lobby]
  exact .inl ⟨sent, rfl⟩

theorem Visit.keepsPick {calls : LobbyCalls} {before : Nat}
    (visit : Visit s before) (step : LobbyStep s s' calls) :
    KeepsPick s s' := by
  intro sent
  have unsent {rest : Prop}
      (fresh : before = 0 ∧ s.lobby.myLoadout = 0 ∧
        s.lobby.loadoutSent = false ∧ s.lobby.localMode = false) : rest := by
    rw [fresh.2.2.1] at sent
    cases sent
  cases step with
  | stays lobby line => exact KeepsPick.of_lobby lobby sent
  | drops lobby dropped => exact KeepsPick.of_lobby lobby sent
  | walks sub isMenu after lobby => exact unsent (visit.menu isMenu)
  | leaves waited lobby dropped => exact unsent (visit.waited waited)
  | opens isP1 isMenu lobby unknown => exact unsent (visit.menu isMenu)
  | playsLocal isMenu lobby => exact unsent (visit.menu isMenu)
  | meets waited lobby line => exact unsent (visit.waited waited)
  | picks loadout valid choosing notSent lobby line =>
      rw [notSent] at sent
      cases sent
  | fights log found lobby line =>
      rw [lobby]
      exact .inl ⟨sent, rfl⟩
  | restarts lobby dropped => exact .inr lobby

end Session

end FuryClash.Client
