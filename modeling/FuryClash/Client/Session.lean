import FuryClash.Client.FightLoop
import FuryClash.Slot

namespace FuryClash.Client

open FuryClash.Data

/-! One client process of `main.c`, from its start through all its matches: the
screens, the lobby, the network client as far as the matches depend on it, and
the rollback engine. The texts of the lobby are left to the user: an event that
needs one says whether the field is filled. -/

inductive GameState where
  | title
  | lobby
  | matchSearch
  | fight
  | results
  deriving DecidableEq

/-- `GS_COUNT`, no transition, is `none`. -/
structure StateMachine where
  current : GameState
  pending : Option GameState

def StateMachine.request (next : GameState) (machine : StateMachine) :
    StateMachine :=
  { machine with pending := some next }

def StateMachine.tick (machine : StateMachine) : StateMachine :=
  match machine.pending with
  | some next => ⟨next, none⟩
  | none => machine

inductive LobbySubState where
  | setup
  | role
  | creating
  | showCode
  | enterCode
  | waiting
  | loadout
  | ready
  deriving DecidableEq

structure Lobby where
  sub : LobbySubState
  isP1 : Bool
  myLoadout : Int
  loadoutSent : Bool
  localMode : Bool

def lobbyInit : Lobby := ⟨.setup, false, 0, false, false⟩

inductive NetState where
  | idle
  | connecting
  | waiting
  | ready
  | fighting
  | ended
  | error
  deriving DecidableEq

structure NetMatchInfo where
  yourSlot : Int
  p1Fighter : Int
  p2Fighter : Int

/-- `connected` is a socket that is open (`fd >= 0`), `upgraded` is
`HS_OPEN`. -/
structure NetClient where
  connected : Bool
  upgraded : Bool
  networkMode : Bool
  state : NetState
  matchInfo : NetMatchInfo
  opponentLoadout : Int

def NetClient.zero : NetClient where
  connected := false
  upgraded := false
  networkMode := false
  state := .idle
  matchInfo := ⟨0, 0, 0⟩
  opponentLoadout := 0

/-- `net_client_configure`, and whether the url can be parsed. -/
def NetClient.configure (validUrl : Bool) : NetClient :=
  { NetClient.zero with
    networkMode := true
    opponentLoadout := -1
    state := if validUrl then .idle else .error }

/-- `net_client_connect(NULL)`, and whether the socket can be opened. -/
def NetClient.connect (opens : Bool) (net : NetClient) : NetClient :=
  if net.state = .error ∨ net.connected then net
  else if opens then { net with connected := true, state := .connecting }
  else { net with state := .error }

def NetClient.disconnect (net : NetClient) : NetClient :=
  { net with connected := false, upgraded := false, state := .idle }

def NetClient.ackStart (net : NetClient) : NetClient :=
  if net.state = .ready then { net with state := .fighting } else net

inductive ServerMessage where
  | waiting
  | start (info : NetMatchInfo)
  | inputBatch (entries : List (Nat × UInt16))
  | matchEnd
  | error
  | loadout (byte : UInt8)
  /-- Pings and notices. -/
  | other

inductive Received where
  | upgrade
  | message (msg : ServerMessage)
  /-- A socket that fails, in `recv` or in a send. -/
  | failure

/-- What a match depends on: how it was started, and what happened in it. The
side is `none` in local play, else the slot that the server gave. -/
inductive MatchEvent where
  | remote (frame : Nat) (input : UInt16)
  | tick (frame : Nat) (localInput : UInt16)
  deriving DecidableEq

structure MatchLog where
  p1Fighter : Int
  p2Fighter : Int
  p1Loadout : Int
  p2Loadout : Int
  side : Option Int
  events : List MatchEvent
  deriving DecidableEq

/-- `early` is what the opponent has sent on the connection so far; `matchLog`,
`states` and `inputs` record the current match, its `g_sim` after
`simulation_init` and after each tick, and the inputs of each tick. -/
structure Session (S : Type) where
  engine : Engine S
  currentFrame : Nat
  localSlot : Int
  game : StateMachine
  lobby : Lobby
  net : NetClient
  early : List (Nat × UInt16)
  matchLog : Option MatchLog
  states : List S
  inputs : List (UInt16 × UInt16)

inductive LobbyButton where
  | next
  | createRoom
  | joinRoom
  | localPlay
  | join
  | back
  | fire
  | frost

inductive Key where
  | enter
  | space
  | escape
  | one
  | two
  | three
  | f
  | r

/-- Whether the active field is filled, its url can be parsed, and a socket can
be opened. -/
structure UserEnv where
  filled : Bool
  validUrl : Bool
  opens : Bool

/-- The blocks of the main loop are events of their own: every order of them is
considered, that of the loop among them. -/
inductive SessionEvent where
  | touch (button : LobbyButton) (env : UserEnv)
  | key (key : Key) (env : UserEnv)
  | receive (received : Received)
  /-- The answer to the `POST` in `LS_CREATING`. -/
  | creating (created : Bool) (env : UserEnv)
  | lobbyReady
  | lobbyFight
  | matchSearch
  | fightOver
  | tick (localInput : UInt16)

inductive StartUp where
  | desktop
  | ios
  | cli (slot : Slot) (env : UserEnv)

namespace MatchLog

def initial {S : Type} (simulation : Simulation S) (log : MatchLog) : S :=
  simulation.init log.p1Fighter log.p2Fighter log.p1Loadout log.p2Loadout

def addEvent (event : MatchEvent) (log : MatchLog) : MatchLog :=
  { log with events := log.events ++ [event] }

def frames (log : MatchLog) : List Nat :=
  log.events.filterMap fun
    | .remote _ _ => none
    | .tick frame _ => some frame

end MatchLog

namespace Session

variable {S : Type} (simulation : Simulation S)

def start : StartUp → Session S
  | .desktop =>
      { engine := .fresh simulation simulation.zero
        currentFrame := 0, localSlot := 0, game := ⟨.title, some .lobby⟩
        lobby := lobbyInit, net := .zero
        early := [], matchLog := none, states := [], inputs := [] }
  | .ios =>
      { engine := .fresh simulation simulation.zero
        currentFrame := 0, localSlot := 0, game := ⟨.title, some .lobby⟩
        lobby := { lobbyInit with sub := .role }, net := .zero
        early := [], matchLog := none, states := [], inputs := [] }
  | .cli slot env =>
      { engine := .fresh simulation simulation.zero
        currentFrame := 0, localSlot := slot.number
        game := ⟨.title, some .matchSearch⟩
        lobby := lobbyInit
        net := (NetClient.configure env.validUrl).connect env.opens
        early := [], matchLog := none, states := [], inputs := [] }

variable {simulation}

def setSub (sub : LobbySubState) (s : Session S) : Session S :=
  { s with lobby := { s.lobby with sub := sub } }

def requestState (next : GameState) (s : Session S) : Session S :=
  { s with game := s.game.request next }

def disconnect (s : Session S) : Session S :=
  { s with net := s.net.disconnect }

def openConnection (env : UserEnv) (s : Session S) : Session S :=
  { s with
    net := (NetClient.configure env.validUrl).connect env.opens
    early := [] }

def lobbyCreateRoom (created : Bool) (env : UserEnv) (s : Session S) :
    Session S :=
  if created then
    { s.openConnection env with
      lobby := { s.lobby with isP1 := true, sub := .showCode } }
  else s.setSub .role

def lobbyJoinRoom (env : UserEnv) (s : Session S) : Session S :=
  if env.filled then
    { s.openConnection env with
      lobby := { s.lobby with isP1 := false, sub := .waiting } }
  else s

def pickLoadout (loadout : Int) (s : Session S) : Session S :=
  { s with
    lobby := { s.lobby with
      myLoadout := loadout
      loadoutSent := !s.lobby.localMode || s.lobby.loadoutSent } }

def playLocal (s : Session S) : Session S :=
  { s with lobby := { s.lobby with localMode := true, sub := .loadout } }

def lobbyHandleTouch (button : LobbyButton) (env : UserEnv) (s : Session S) :
    Session S :=
  match s.lobby.sub, button with
  | .setup, .next => if env.filled then s.setSub .role else s
  | .role, .createRoom => s.setSub .creating
  | .role, .joinRoom => s.setSub .enterCode
  | .role, .localPlay => s.playLocal
  | .enterCode, .join => s.lobbyJoinRoom env
  | .enterCode, .back => s.setSub .role
  | .loadout, .fire => if s.lobby.loadoutSent then s else s.pickLoadout 1
  | .loadout, .frost => if s.lobby.loadoutSent then s else s.pickLoadout 2
  | _, _ => s

def lobbyHandleKey (key : Key) (env : UserEnv) (s : Session S) : Session S :=
  match s.lobby.sub, key with
  | .setup, .enter => if env.filled then s.setSub .role else s
  | .enterCode, .enter => s.lobbyJoinRoom env
  | .enterCode, .escape => s.setSub .role
  | .role, .escape => s.setSub .setup
  | .showCode, .escape => s.disconnect.setSub .role
  | .waiting, .escape => s.disconnect.setSub .role
  | .role, .one => s.setSub .creating
  | .role, .two => s.setSub .enterCode
  | .role, .three => s.playLocal
  | .loadout, .f =>
      if s.lobby.loadoutSent = false ∧ s.lobby.myLoadout = 0 then
        s.pickLoadout 1
      else s
  | .loadout, .r =>
      if s.lobby.loadoutSent = false ∧ s.lobby.myLoadout = 0 then
        s.pickLoadout 2
      else s
  | _, _ => s

def handleKey (key : Key) (env : UserEnv) (s : Session S) : Session S :=
  match s.game.current, key with
  | .lobby, _ => s.lobbyHandleKey key env
  | .title, .enter => s.requestState .lobby
  | .title, .space => s.requestState .lobby
  | .matchSearch, .escape => s.disconnect.requestState .title
  | .results, .enter =>
      { s.disconnect with lobby := lobbyInit }.requestState .lobby
  | .results, .space =>
      { s.disconnect with lobby := lobbyInit }.requestState .lobby
  | _, _ => s

def confirm (entry : Nat × UInt16) (s : Session S) : Session S :=
  { s with
    engine := s.engine.rollbackConfirmRemote entry.1 entry.2
    early := s.early ++ [entry]
    matchLog := s.matchLog.map (·.addEvent (.remote entry.1 entry.2)) }

def dispatchMessage (msg : ServerMessage) (s : Session S) : Session S :=
  match msg with
  | .waiting => { s with net := { s.net with state := .waiting } }
  | .start info =>
      { s with net := { s.net with matchInfo := info, state := .ready } }
  | .inputBatch entries => entries.foldl (fun s entry => s.confirm entry) s
  | .matchEnd => { s with net := { s.net with state := .ended } }
  | .error => { s with net := { s.net with state := .error } }
  | .loadout byte =>
      { s with net := { s.net with opponentLoadout := byte.toNat } }
  | .other => s

/-- `net_client_receive`, one frame of the socket at a time. -/
def receive (received : Received) (s : Session S) : Session S :=
  if s.net.connected then
    match received with
    | .upgrade =>
        if s.net.upgraded then s
        else { s with net := { s.net with upgraded := true, state := .waiting } }
    | .message msg => if s.net.upgraded then s.dispatchMessage msg else s
    | .failure => { s with net := { s.net with state := .error } }
  else s

/-- Both players are connected: to the loadout selection. -/
def lobbyReady (s : Session S) : Session S :=
  if s.game.current = .lobby ∧
      (s.lobby.sub = .showCode ∨ s.lobby.sub = .waiting) ∧
      s.net.state = .ready then
    { s.setSub .loadout with
      localSlot := s.net.matchInfo.yourSlot
      net := s.net.ackStart }
  else s

variable (simulation)

/-- `simulation_init` and the request of `GS_FIGHT`. -/
def beginMatch (log : MatchLog) (s : Session S) : Session S :=
  { s.requestState .fight with
    engine := { s.engine with sim := log.initial simulation }
    matchLog := some log
    states := [log.initial simulation]
    inputs := [] }

variable {simulation}

def lobbyMatch (s : Session S) : Option MatchLog :=
  let oppLoadout := if s.lobby.localMode then 0 else s.net.opponentLoadout
  if s.game.current = .lobby ∧ s.lobby.sub = .loadout ∧
      s.lobby.myLoadout ≠ 0 ∧ 0 ≤ oppLoadout then
    some {
      p1Fighter := 0
      p2Fighter := 1
      p1Loadout := if s.lobby.localMode ∨ s.lobby.isP1 then s.lobby.myLoadout
        else oppLoadout
      p2Loadout := if s.lobby.localMode then 0
        else if s.lobby.isP1 then oppLoadout else s.lobby.myLoadout
      side := if s.lobby.localMode then none else some s.localSlot
      events := if s.lobby.localMode then []
        else s.early.map fun entry => .remote entry.1 entry.2 }
  else none

def searchMatch (s : Session S) : Option MatchLog :=
  if s.game.current = .matchSearch ∧ s.net.state = .ready then
    some {
      p1Fighter := s.net.matchInfo.p1Fighter
      p2Fighter := s.net.matchInfo.p2Fighter
      p1Loadout := 0
      p2Loadout := 0
      side := some s.net.matchInfo.yourSlot
      events := s.early.map fun entry => .remote entry.1 entry.2 }
  else none

def fightOver (s : Session S) : Session S :=
  if s.game.current = .fight ∧ s.net.networkMode ∧
      (s.net.state = .ended ∨ s.net.state = .error) then
    s.requestState .results
  else s

variable (simulation)

def lobbyFight (s : Session S) : Session S :=
  match s.lobbyMatch with
  | some log => (s.setSub .ready).beginMatch simulation log
  | none => s

def matchSearch (s : Session S) : Session S :=
  match s.searchMatch with
  | some log =>
      { s.beginMatch simulation log with
        localSlot := s.net.matchInfo.yourSlot
        net := s.net.ackStart }
  | none => s

/-- The body of the fixed-step loop, after `gameloop_should_tick`. -/
def tick (localInput : UInt16) (s : Session S) : Session S :=
  let frame := s.currentFrame + 1
  let ticked := { s with currentFrame := frame, game := s.game.tick }
  if ticked.game.current = .fight then
    let remote := s.engine.rollbackGetRemote frame
    let engine := fightTick simulation s.localSlot frame localInput s.engine
    { ticked with
      engine := engine
      matchLog := s.matchLog.map (·.addEvent (.tick frame localInput))
      states := s.states ++ [engine.sim]
      inputs := s.inputs ++ [placeInputs s.localSlot localInput remote] }
  else ticked

def step : Machine (Session S) SessionEvent
  | s, .touch button env =>
      if s.game.current = .lobby then s.lobbyHandleTouch button env else s
  | s, .key key env => s.handleKey key env
  | s, .receive received => s.receive received
  | s, .creating created env =>
      if s.game.current = .lobby ∧ s.lobby.sub = .creating then
        s.lobbyCreateRoom created env
      else s
  | s, .lobbyReady => s.lobbyReady
  | s, .lobbyFight => s.lobbyFight simulation
  | s, .matchSearch => s.matchSearch simulation
  | s, .fightOver => s.fightOver
  | s, .tick localInput => s.tick simulation localInput

end Session

end FuryClash.Client
