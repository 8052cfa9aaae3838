import FuryClash.Client.Solo

namespace FuryClash.Client

open FuryClash.Data

variable {S : Type}

namespace Session

/-- The rollback engine is, as far as inputs go, that of a process that has
just run `rollback_init` and received the early inputs of the match; in local
play the local slot is the first. -/
def CleanStart (s : Session S) (log : MatchLog) : Prop :=
  s.engine.forget = (log.play .unit).engine ∧
    (log.side = none → s.localSlot = 0)

instance (s : Session S) (log : MatchLog) : Decidable (s.CleanStart log) :=
  inferInstanceAs (Decidable (_ ∧ _))

def Saved (s : Session S) (diverge : Nat) : Prop :=
  ∃ log ∈ s.matchLog, ∃ frame ∈ log.frames,
    frame % fcRollbackFrames = diverge % fcRollbackFrames

instance (s : Session S) (diverge : Nat) : Decidable (s.Saved diverge) :=
  inferInstanceAs (Decidable (∃ log ∈ s.matchLog, _))

def Clean (s : Session S) : SessionEvent → Prop
  | .lobbyFight => ∀ log ∈ s.lobbyMatch, s.CleanStart log
  | .matchSearch => ∀ log ∈ s.searchMatch, s.CleanStart log
  | .tick _ => s.game.tick.current = .fight →
      ∀ diverge ∈ s.engine.divergeFrame, s.Saved diverge
  | _ => True

instance (s : Session S) :
    (event : SessionEvent) → Decidable (s.Clean event)
  | .lobbyFight => inferInstanceAs (Decidable (∀ log ∈ s.lobbyMatch, _))
  | .matchSearch => inferInstanceAs (Decidable (∀ log ∈ s.searchMatch, _))
  | .tick _ => inferInstanceAs (Decidable (_ → ∀ diverge ∈ _, _))
  | .touch _ _ => isTrue trivial
  | .key _ _ => isTrue trivial
  | .receive _ => isTrue trivial
  | .creating _ _ => isTrue trivial
  | .lobbyReady => isTrue trivial
  | .fightOver => isTrue trivial

structure Follows (simulation : Simulation S) (s : Session S)
    (log : MatchLog) : Prop where
  agree : Engine.Agree log.frames s.engine (log.play simulation).engine
  states : s.states = (log.play simulation).states
  inputs : s.inputs = (log.play simulation).inputs

structure Tracked (simulation : Simulation S) (s : Session S) : Prop where
  follows : ∀ log ∈ s.matchLog, s.Follows simulation log
  armed : s.game.current = .fight ∨ s.game.pending = some .fight →
    ∃ log ∈ s.matchLog, s.localSlot = log.localSlot
  waits : s.game.current = .lobby → s.game.pending = some .fight →
    s.lobby.sub = .ready

structure SameMatch (s s' : Session S) : Prop where
  engine : s'.engine = s.engine
  matchLog : s'.matchLog = s.matchLog
  states : s'.states = s.states
  inputs : s'.inputs = s.inputs

variable {simulation : Simulation S} {s s' : Session S}

theorem Tracked.same_follows (tracked : s.Tracked simulation)
    (same : SameMatch s s') :
    ∀ log ∈ s'.matchLog, s'.Follows simulation log := by
  intro log current
  rw [same.matchLog] at current
  obtain ⟨agree, states, inputs⟩ := tracked.follows log current
  refine ⟨?_, ?_, ?_⟩
  · rw [same.engine]
    exact agree
  · rw [same.states]
    exact states
  · rw [same.inputs]
    exact inputs

structure LobbyOnly (s s' : Session S) : Prop extends SameMatch s s' where
  slot : s'.localSlot = s.localSlot
  game : s'.game = s.game
  stays : s.lobby.sub = .ready → s'.lobby.sub = .ready

theorem LobbyOnly.refl (s : Session S) : LobbyOnly s s :=
  ⟨⟨rfl, rfl, rfl, rfl⟩, rfl, rfl, id⟩

theorem LobbyOnly.of_sub {sub : LobbySubState} (isSub : s.lobby.sub = sub)
    (notReady : sub ≠ .ready) (same : SameMatch s s')
    (slot : s'.localSlot = s.localSlot) (game : s'.game = s.game) :
    LobbyOnly s s' :=
  ⟨same, slot, game, fun isReady => (notReady (isSub.symm.trans isReady)).elim⟩

theorem Tracked.of_lobbyOnly (tracked : s.Tracked simulation)
    (only : LobbyOnly s s') : s'.Tracked simulation where
  follows := tracked.same_follows only.toSameMatch
  armed := by
    rw [only.game, only.matchLog, only.slot]
    exact tracked.armed
  waits := by
    rw [only.game]
    exact fun current pending => only.stays (tracked.waits current pending)

theorem Tracked.of_request (tracked : s.Tracked simulation)
    (same : SameMatch s s') (slot : s'.localSlot = s.localSlot)
    {next : GameState} (other : next ≠ .fight)
    (game : s'.game = s.game.request next) : s'.Tracked simulation where
  follows := tracked.same_follows same
  armed := by
    rw [game, same.matchLog, slot]
    rintro (current | pending)
    · exact tracked.armed (.inl current)
    · exact (other (Option.some.inj pending)).elim
  waits := by
    rw [game]
    exact fun _ pending => (other (Option.some.inj pending)).elim

theorem lobbyJoinRoom_lobbyOnly (env : UserEnv)
    (sub : s.lobby.sub = .enterCode) : LobbyOnly s (s.lobbyJoinRoom env) := by
  rw [lobbyJoinRoom]
  split
  next => exact .of_sub sub (by decide) ⟨rfl, rfl, rfl, rfl⟩ rfl rfl
  next => exact .refl s

theorem lobbyHandleTouch_lobbyOnly (button : LobbyButton) (env : UserEnv) :
    LobbyOnly s (s.lobbyHandleTouch button env) := by
  unfold lobbyHandleTouch
  split
  case h_1 sub =>
    split
    next => exact .of_sub sub (by decide) ⟨rfl, rfl, rfl, rfl⟩ rfl rfl
    next => exact .refl s
  case h_2 sub => exact .of_sub sub (by decide) ⟨rfl, rfl, rfl, rfl⟩ rfl rfl
  case h_3 sub => exact .of_sub sub (by decide) ⟨rfl, rfl, rfl, rfl⟩ rfl rfl
  case h_4 sub => exact .of_sub sub (by decide) ⟨rfl, rfl, rfl, rfl⟩ rfl rfl
  case h_5 sub => exact lobbyJoinRoom_lobbyOnly env sub
  case h_6 sub => exact .of_sub sub (by decide) ⟨rfl, rfl, rfl, rfl⟩ rfl rfl
  case h_7 sub =>
    split
    next => exact .refl s
    next => exact .of_sub sub (by decide) ⟨rfl, rfl, rfl, rfl⟩ rfl rfl
  case h_8 sub =>
    split
    next => exact .refl s
    next => exact .of_sub sub (by decide) ⟨rfl, rfl, rfl, rfl⟩ rfl rfl
  case h_9 => exact .refl s

theorem lobbyHandleKey_lobbyOnly (key : Key) (env : UserEnv) :
    LobbyOnly s (s.lobbyHandleKey key env) := by
  unfold lobbyHandleKey
  split
  case h_1 sub =>
    split
    next => exact .of_sub sub (by decide) ⟨rfl, rfl, rfl, rfl⟩ rfl rfl
    next => exact .refl s
  case h_2 sub => exact lobbyJoinRoom_lobbyOnly env sub
  case h_10 sub =>
    split
    next => exact .of_sub sub (by decide) ⟨rfl, rfl, rfl, rfl⟩ rfl rfl
    next => exact .refl s
  case h_11 sub =>
    split
    next => exact .of_sub sub (by decide) ⟨rfl, rfl, rfl, rfl⟩ rfl rfl
    next => exact .refl s
  case h_12 => exact .refl s
  all_goals
    rename_i sub
    exact .of_sub sub (by decide) ⟨rfl, rfl, rfl, rfl⟩ rfl rfl

theorem Tracked.key (tracked : s.Tracked simulation) (key : Key)
    (env : UserEnv) : (s.handleKey key env).Tracked simulation := by
  unfold handleKey
  split
  case h_1 => exact tracked.of_lobbyOnly (lobbyHandleKey_lobbyOnly _ env)
  case h_2 => exact tracked.of_request ⟨rfl, rfl, rfl, rfl⟩ rfl (by decide) rfl
  case h_3 => exact tracked.of_request ⟨rfl, rfl, rfl, rfl⟩ rfl (by decide) rfl
  case h_4 => exact tracked.of_request ⟨rfl, rfl, rfl, rfl⟩ rfl (by decide) rfl
  case h_5 => exact tracked.of_request ⟨rfl, rfl, rfl, rfl⟩ rfl (by decide) rfl
  case h_6 => exact tracked.of_request ⟨rfl, rfl, rfl, rfl⟩ rfl (by decide) rfl
  case h_7 => exact tracked

theorem lobbyCreateRoom_lobbyOnly (created : Bool) (env : UserEnv)
    (sub : s.lobby.sub = .creating) :
    LobbyOnly s (s.lobbyCreateRoom created env) := by
  rw [lobbyCreateRoom]
  split
  next => exact .of_sub sub (by decide) ⟨rfl, rfl, rfl, rfl⟩ rfl rfl
  next => exact .of_sub sub (by decide) ⟨rfl, rfl, rfl, rfl⟩ rfl rfl

/-- The local slot changes before the match of the lobby, not in it. -/
theorem Tracked.lobbyReady (tracked : s.Tracked simulation) :
    s.lobbyReady.Tracked simulation := by
  rw [Session.lobbyReady]
  split
  next fires =>
    obtain ⟨current, sub, _⟩ := fires
    have notFight : s.game.pending ≠ some .fight := by
      intro pending
      have isReady := tracked.waits current pending
      rw [isReady] at sub
      rcases sub with sub | sub
      · cases sub
      · cases sub
    refine ⟨tracked.same_follows ⟨rfl, rfl, rfl, rfl⟩, ?_, ?_⟩
    · rintro (fighting | pending)
      · cases current.symm.trans fighting
      · exact (notFight pending).elim
    · exact fun _ pending => (notFight pending).elim
  next => exact tracked

theorem Tracked.confirm (tracked : s.Tracked simulation)
    (entry : Nat × UInt16) : (s.confirm entry).Tracked simulation := by
  refine ⟨fun log current => ?_, fun fights => ?_, tracked.waits⟩
  · obtain ⟨before, held, rfl⟩ := Option.map_eq_some_iff.mp current
    obtain ⟨agree, states, inputs⟩ := tracked.follows before held
    constructor
    · rw [MatchLog.play_addEvent, MatchLog.frames_addRemote]
      exact agree.confirm entry.1 entry.2
    · rw [MatchLog.play_addEvent]
      exact states
    · rw [MatchLog.play_addEvent]
      exact inputs
  · obtain ⟨log, held, slot⟩ := tracked.armed fights
    exact ⟨_, Option.map_eq_some_iff.mpr ⟨log, held, rfl⟩, slot⟩

theorem Tracked.confirms (tracked : s.Tracked simulation)
    (entries : List (Nat × UInt16)) :
    (entries.foldl (fun s entry => s.confirm entry) s).Tracked simulation := by
  induction entries generalizing s with
  | nil => exact tracked
  | cons entry rest ih => exact ih (tracked.confirm entry)

theorem Tracked.receive (tracked : s.Tracked simulation)
    (received : Received) : (s.receive received).Tracked simulation := by
  have netOnly (net : NetClient) : { s with net := net }.Tracked simulation :=
    tracked.of_lobbyOnly ⟨⟨rfl, rfl, rfl, rfl⟩, rfl, rfl, id⟩
  unfold Session.receive
  split
  next =>
    cases received with
    | upgrade =>
        dsimp only
        split
        next => exact tracked
        next => exact netOnly _
    | failure => exact netOnly _
    | message msg =>
        dsimp only
        split
        next =>
          cases msg with
          | inputBatch entries => exact tracked.confirms entries
          | other => exact tracked
          | _ => exact netOnly _
        next => exact tracked
  next => exact tracked

theorem Tracked.fightOver (tracked : s.Tracked simulation) :
    s.fightOver.Tracked simulation := by
  rw [Session.fightOver]
  split
  next => exact tracked.of_request ⟨rfl, rfl, rfl, rfl⟩ rfl (by decide) rfl
  next => exact tracked

theorem follows_begin {log : MatchLog} {early : List (Nat × UInt16)}
    (remotes : log.events = early.map fun entry => .remote entry.1 entry.2)
    (inputs : s.engine.forget = (log.play .unit).engine)
    (engine : s'.engine = { s.engine with sim := log.initial simulation })
    (states : s'.states = [log.initial simulation]) (played : s'.inputs = []) :
    s'.Follows simulation log := by
  obtain ⟨sim, initial, none, frames⟩ :=
    MatchLog.play_of_remotes simulation log early remotes
  refine ⟨⟨?_, ?_, ?_⟩, ?_, ?_⟩
  · rw [engine, sim]
  · rw [engine, MatchLog.play_forget]
    exact inputs
  · rw [frames]
    exact fun _ mem => by cases mem
  · rw [states, initial]
  · rw [played, none]

theorem lobbyMatch_starts {log : MatchLog}
    (starts : s.lobbyMatch = some log) :
    (∃ early : List (Nat × UInt16),
      log.events = early.map fun entry => .remote entry.1 entry.2) ∧
      ((log.side = none → s.localSlot = 0) → s.localSlot = log.localSlot) := by
  rw [lobbyMatch, Option.ite_none_right_eq_some] at starts
  obtain ⟨_, starts⟩ := starts
  cases starts
  rw [MatchLog.localSlot]
  dsimp only
  split
  next => exact ⟨⟨[], rfl⟩, fun isP1 => isP1 rfl⟩
  next => exact ⟨⟨s.early, rfl⟩, fun _ => rfl⟩

theorem searchMatch_starts {log : MatchLog}
    (starts : s.searchMatch = some log) :
    (∃ early : List (Nat × UInt16),
      log.events = early.map fun entry => .remote entry.1 entry.2) ∧
      s.net.matchInfo.yourSlot = log.localSlot ∧
      s.game.current = .matchSearch := by
  rw [searchMatch, Option.ite_none_right_eq_some] at starts
  obtain ⟨searching, starts⟩ := starts
  cases starts
  exact ⟨⟨s.early, rfl⟩, rfl, searching.1⟩

theorem Tracked.lobbyFight (tracked : s.Tracked simulation)
    (clean : ∀ log ∈ s.lobbyMatch, s.CleanStart log) :
    (s.lobbyFight simulation).Tracked simulation := by
  unfold Session.lobbyFight
  split
  next log starts =>
    obtain ⟨inputs, slot⟩ := clean log starts
    obtain ⟨⟨early, remotes⟩, sameSlot⟩ := lobbyMatch_starts starts
    refine ⟨fun current held => ?_, fun _ => ⟨log, rfl, sameSlot slot⟩,
      fun _ _ => rfl⟩
    cases held
    exact follows_begin remotes inputs rfl rfl rfl
  next => exact tracked

theorem Tracked.matchSearch (tracked : s.Tracked simulation)
    (clean : ∀ log ∈ s.searchMatch, s.CleanStart log) :
    (s.matchSearch simulation).Tracked simulation := by
  unfold Session.matchSearch
  split
  next log starts =>
    obtain ⟨inputs, _⟩ := clean log starts
    obtain ⟨⟨early, remotes⟩, slot, searching⟩ := searchMatch_starts starts
    refine ⟨fun current held => ?_, fun _ => ⟨log, rfl, slot⟩,
      fun inLobby _ => ?_⟩
    · cases held
      exact follows_begin remotes inputs rfl rfl rfl
    · cases searching.symm.trans inLobby
  next => exact tracked

theorem Tracked.tick (tracked : s.Tracked simulation) (localInput : UInt16)
    (clean : s.game.tick.current = .fight →
      ∀ diverge ∈ s.engine.divergeFrame, s.Saved diverge) :
    (s.tick simulation localInput).Tracked simulation := by
  have none : s.game.tick.pending = none := by
    unfold StateMachine.tick
    split
    next => rfl
    next none => exact none
  have armed (fights : s.game.tick.current = .fight) :
      ∃ log ∈ s.matchLog, s.localSlot = log.localSlot := by
    refine tracked.armed ?_
    unfold StateMachine.tick at fights
    split at fights
    next next pending =>
      cases fights
      exact .inr pending
    next => exact .inl fights
  unfold Session.tick
  dsimp only
  split
  next fights =>
    obtain ⟨log, held, slot⟩ := armed fights
    obtain ⟨agree, states, inputs⟩ := tracked.follows log held
    have saved : ∀ diverge ∈ s.engine.divergeFrame, ∃ frame ∈ log.frames,
        frame % fcRollbackFrames = diverge % fcRollbackFrames := by
      intro diverge pending
      obtain ⟨current, isCurrent, found⟩ := clean fights diverge pending
      cases held.symm.trans isCurrent
      exact found
    have ticked := agree.fightTick simulation s.localSlot (s.currentFrame + 1)
      localInput saved
    refine ⟨fun current isCurrent => ?_, fun _ => ?_, fun _ pending => ?_⟩
    · rw [Option.mem_def] at held
      rw [held] at isCurrent
      cases isCurrent
      rw [slot] at ticked
      constructor
      · rw [MatchLog.play_addEvent, MatchLog.frames_addTick, slot]
        exact ticked
      · rw [MatchLog.play_addEvent, slot, states, ticked.sim]
        rfl
      · rw [MatchLog.play_addEvent, slot, inputs, agree.getRemote]
        rfl
    · exact ⟨_, Option.map_eq_some_iff.mpr ⟨log, held, rfl⟩, slot⟩
    · cases none.symm.trans pending
  next notFight =>
    refine ⟨tracked.same_follows ⟨rfl, rfl, rfl, rfl⟩, ?_, fun _ pending => ?_⟩
    · rintro (fights | pending)
      · exact (notFight fights).elim
      · cases none.symm.trans pending
    · cases none.symm.trans pending

theorem Tracked.step (tracked : s.Tracked simulation) (event : SessionEvent)
    (clean : s.Clean event) : (s.step simulation event).Tracked simulation := by
  cases event with
  | touch button env =>
      rw [Session.step]
      split
      next => exact tracked.of_lobbyOnly (lobbyHandleTouch_lobbyOnly button env)
      next => exact tracked
  | key key env => exact tracked.key key env
  | receive received => exact tracked.receive received
  | creating created env =>
      rw [Session.step]
      split
      next fires =>
        exact tracked.of_lobbyOnly
          (lobbyCreateRoom_lobbyOnly created env fires.2)
      next => exact tracked
  | lobbyReady => exact tracked.lobbyReady
  | lobbyFight => exact tracked.lobbyFight clean
  | matchSearch => exact tracked.matchSearch clean
  | fightOver => exact tracked.fightOver
  | tick localInput => exact tracked.tick localInput clean

theorem start_tracked (startUp : StartUp) :
    (start simulation startUp).Tracked simulation := by
  have noMatch : (start simulation startUp).matchLog = none := by
    cases startUp <;> rfl
  have onTitle : (start simulation startUp).game.current = .title := by
    cases startUp <;> rfl
  have notFight : (start simulation startUp).game.pending ≠ some .fight := by
    cases startUp <;> simp [start]
  refine ⟨fun log held => ?_, ?_, fun _ pending => (notFight pending).elim⟩
  · cases noMatch.symm.trans held
  · rintro (fights | pending)
    · cases onTitle.symm.trans fights
    · exact (notFight pending).elim

structure Quiet (engine : Engine S) : Prop where
  divergeFrame : engine.divergeFrame = none
  remotes : ∀ frame, (engine.buf.get frame).remoteInput = 0

theorem Quiet.getRemote {engine : Engine S} (quiet : Quiet engine)
    (frame : Nat) : engine.rollbackGetRemote frame = 0 := by
  unfold Engine.rollbackGetRemote
  dsimp only
  split
  next => exact quiet.remotes frame
  next =>
    split
    next => rfl
    next => exact quiet.remotes _

theorem Quiet.fightTick {engine : Engine S} (quiet : Quiet engine)
    (localSlot : Int) (frame : Nat) (localInput : UInt16) :
    Quiet (fightTick simulation localSlot frame localInput engine) := by
  rw [fightTick_of_steady (congrArg Option.isSome quiet.divergeFrame)]
  refine ⟨quiet.divergeFrame, fun which => ?_⟩
  rw [Engine.rollbackSave, Ring.get_set]
  split
  next => exact quiet.remotes frame
  next => exact quiet.remotes which

def ticksOf (locals : List (Nat × UInt16)) : List MatchEvent :=
  locals.map fun entry => .tick entry.1 entry.2

theorem play_of_ticks {log : MatchLog} {locals : List (Nat × UInt16)}
    (ticks : log.events = ticksOf locals) (isLocal : log.side = none) :
    (log.play simulation).inputs = locals.map fun entry => (entry.2, 0) := by
  have played (locals : List (Nat × UInt16)) (solo : Solo S)
      (quiet : Quiet solo.engine) :
      ((Solo.step simulation 0).run solo (ticksOf locals)).inputs =
        solo.inputs ++ locals.map fun entry => (entry.2, 0) := by
    induction locals generalizing solo with
    | nil => exact (List.append_nil _).symm
    | cons entry rest ih =>
        rw [ticksOf, List.map_cons, Machine.run_cons]
        refine (ih _ (quiet.fightTick 0 entry.1 entry.2)).trans ?_
        rw [Solo.step, quiet.getRemote, List.map_cons, List.append_assoc]
        rfl
  have slot : log.localSlot = 0 := by rw [MatchLog.localSlot, isLocal]; rfl
  rw [MatchLog.play, slot, ticks]
  exact played locals (.start simulation log) ⟨rfl, fun _ => rfl⟩

/-- If the current matches of the two have the same data, they go through the
same states. -/
def Isolated (s s' : Session S) : Prop :=
  ∀ log ∈ s.matchLog, log ∈ s'.matchLog → s.states = s'.states

def PlaysLocally (s : Session S) : Prop :=
  ∀ log ∈ s.matchLog, log.side = none → ∀ locals, log.events = ticksOf locals →
    s.inputs = locals.map fun entry => (entry.2, 0)

/-- Matches that start clean, and rewind only to what they have saved, depend
on their own data alone. -/
theorem isolated_of_clean (simulation : Simulation S)
    (startUp other : StartUp) (events others : List SessionEvent)
    (clean : (step simulation).Along Clean (start simulation startUp) events)
    (cleanToo : (step simulation).Along Clean (start simulation other)
      others) :
    Isolated ((step simulation).run (start simulation startUp) events)
        ((step simulation).run (start simulation other) others) ∧
      PlaysLocally
        ((step simulation).run (start simulation startUp) events) := by
  have tracked := clean.invariant (Tracked simulation)
    (fun s event tracked clean => tracked.step event clean)
    (start_tracked startUp)
  have trackedToo := cleanToo.invariant (Tracked simulation)
    (fun s event tracked clean => tracked.step event clean)
    (start_tracked other)
  constructor
  · intro log held heldToo
    rw [(tracked.follows log held).states,
      (trackedToo.follows log heldToo).states]
  · intro log held isLocal locals ticks
    rw [(tracked.follows log held).inputs, play_of_ticks ticks isLocal]

end Session

def lastInputs : Simulation (UInt16 × UInt16) where
  zero := (0, 0)
  init _ _ _ _ := (0, 0)
  tick p1Input p2Input _ := (p1Input, p2Input)

def userEnv : UserEnv := ⟨true, true, true⟩

def networkMatch (slot : Int) : List SessionEvent :=
  [.tick 0, .key .enter userEnv, .key .two userEnv, .key .enter userEnv,
    .receive .upgrade, .receive (.message (.start ⟨slot, 0, 0⟩)), .lobbyReady,
    .key .f userEnv, .receive (.message (.loadout 2)), .lobbyFight, .tick 0,
    .receive (.message .matchEnd), .fightOver, .tick 0, .key .enter userEnv,
    .tick 0]

def localMatch : List SessionEvent :=
  [.key .enter userEnv, .key .three userEnv, .key .f userEnv, .lobbyFight,
    .tick 5]

def inLobby : List SessionEvent := List.replicate 4 (.tick 0)

theorem isolated_of_clean_local_match :
    Session.Isolated
        ((Session.step lastInputs).run (.start lastInputs .desktop)
          (networkMatch 0 ++ localMatch))
        ((Session.step lastInputs).run (.start lastInputs .desktop)
          (inLobby ++ localMatch)) ∧
      Session.PlaysLocally
        ((Session.step lastInputs).run (.start lastInputs .desktop)
          (networkMatch 0 ++ localMatch)) :=
  Session.isolated_of_clean lastInputs .desktop .desktop _ _
    (by decide +kernel) (by decide +kernel)

/-- After a network match in the second slot the local input drives the second
fighter. -/
theorem not_isolated_slot_kept :
    ¬ Session.Isolated
      ((Session.step lastInputs).run (.start lastInputs .desktop)
        (networkMatch 1 ++ localMatch))
      ((Session.step lastInputs).run (.start lastInputs .desktop)
        (inLobby ++ localMatch)) := by
  intro isolated
  have states := isolated ⟨0, 1, 1, 0, none, [.tick 5 5]⟩ (by decide +kernel)
    (by decide +kernel)
  revert states
  decide +kernel

end FuryClash.Client
