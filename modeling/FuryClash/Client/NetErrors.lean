import FuryClash.Client.Dispatch

namespace FuryClash.Client

open FuryClash.Data

/-! `NET_ERROR` over whole runs of the network client: what the state is set
to, and what is dispatched, while an error stands. -/

namespace NetEffect

/-- Whether an error stands behind the effect. -/
def errorAfter (error : Bool) : NetEffect → Bool
  | .state assigned => error || decide (assigned = .error)
  | .reset => false
  | _ => error

def isLive : NetEffect → Bool
  | .state assigned => decide (assigned ≠ .error)
  | .dispatched payload => decide (payload ≠ [])
  | _ => false

def ErrorHolds : (error : Bool) → List NetEffect → Prop
  | _, [] => True
  | error, effect :: rest =>
      (error = true → effect.isLive = false) ∧
        ErrorHolds (effect.errorAfter error) rest

instance decidableErrorHolds :
    (error : Bool) → (effects : List NetEffect) →
      Decidable (ErrorHolds error effects)
  | _, [] => isTrue trivial
  | error, effect :: rest =>
      haveI := decidableErrorHolds (effect.errorAfter error) rest
      inferInstanceAs (Decidable (_ ∧ ErrorHolds _ rest))

def errorStands (error : Bool) (effects : List NetEffect) : Bool :=
  effects.foldl errorAfter error

theorem errorHolds_append {error : Bool} {first second : List NetEffect} :
    ErrorHolds error (first ++ second) ↔
      ErrorHolds error first ∧ ErrorHolds (errorStands error first) second := by
  induction first generalizing error with
  | nil => exact (true_and _).symm.to_iff
  | cons effect rest ih =>
      rw [List.cons_append, ErrorHolds, ErrorHolds, ih, and_assoc]
      rfl

theorem errorStands_append {error : Bool} {first second : List NetEffect} :
    errorStands error (first ++ second) =
      errorStands (errorStands error first) second :=
  List.foldl_append

end NetEffect

namespace Net

/-- Once the state is `NET_ERROR` it stays so, and no application message is
dispatched, until the client is configured anew or disconnected. -/
structure ErrorIsFinal (net : Net) : Prop where
  holds : NetEffect.ErrorHolds false net.trace
  state : NetEffect.errorStands false net.trace = true → net.ws.state = .error

/-- The bytes complete the response of the server, and it is a 101. -/
def Upgrades (net : Net) (data : List UInt8) : Prop :=
  net.ws.hs = .httpSent ∧
    ∃ hdrEnd, headerEnd (net.ws.rbuf.append data).bytes = some hdrEnd ∧
      got101 ((net.ws.rbuf.append data).bytes.take hdrEnd) = true

def JoinFails (os : Os) (net : Net) : Prop :=
  os.allocates (net.calls + 1) = true ∧
    (joinPayload net.ws).length ≤ wsSendBuf ∧
    os.refusal (net.call.frameOf os (joinPayload net.ws)).length 0
      (net.calls + 1) = some .failed

/-- The condition on what `net_client_receive` gets. -/
structure KeepsError (os : Os) (net : Net) (event : NetEvent) : Prop where
  upgrade : event = .receive → ∀ data, net.Receives os data →
    net.Upgrades data → net.ws.state ≠ .error ∧ ¬ net.JoinFails os
  message : event = .receive → ∀ data, net.Receives os data →
    net.ws.state = .error → net.ws.hs = .opened → ¬ net.MessageFirst data

def isError (net : Net) : Bool := decide (net.ws.state = .error)

def Keeps (net net' : Net) : Prop :=
  ∃ effects, net'.trace = net.trace ++ effects ∧
    NetEffect.ErrorHolds net.isError effects ∧
    NetEffect.errorStands net.isError effects = net'.isError

namespace Keeps

variable {os : Os} {net net' net'' : Net}

theorem of_trace (trace : net'.trace = net.trace)
    (state : net'.ws.state = net.ws.state) : Keeps net net' := by
  refine ⟨[], trace.trans (List.append_nil _).symm, trivial, ?_⟩
  rw [isError, isError, state]
  rfl

theorem refl (net : Net) : Keeps net net := of_trace rfl rfl

theorem trans (first : Keeps net net') (second : Keeps net' net'') :
    Keeps net net'' := by
  obtain ⟨before, at_before, holdsBefore, standsBefore⟩ := first
  obtain ⟨after, at_after, holdsAfter, standsAfter⟩ := second
  rw [← standsBefore] at holdsAfter standsAfter
  refine ⟨before ++ after, ?_, ?_, ?_⟩
  · rw [at_after, at_before, List.append_assoc]
  · exact NetEffect.errorHolds_append.mpr ⟨holdsBefore, holdsAfter⟩
  · exact NetEffect.errorStands_append.trans standsAfter

theorem appended {effect : NetEffect}
    (trace : net'.trace = net.trace ++ [effect])
    (dead : net.isError = true → effect.isLive = false)
    (stands : effect.errorAfter net.isError = net'.isError) :
    Keeps net net' :=
  ⟨[effect], trace, ⟨dead, trivial⟩, stands⟩

theorem setState_error : Keeps net (net.setState .error) :=
  appended rfl (fun _ => rfl) (Bool.or_true _)

theorem setState {state : NetState} (alive : net.ws.state ≠ .error) :
    Keeps net (net.setState state) := by
  have none_stands : net.isError = false := decide_eq_false alive
  refine appended rfl ?_ ?_
  · rw [none_stands]
    exact nofun
  · rw [none_stands]
    exact Bool.false_or _

theorem wrote (calls : Nat) (chunks : List (List UInt8)) :
    Keeps net (net.wrote calls chunks) := by
  refine ⟨chunks.map .sent, rfl, ?_⟩
  suffices holds : ∀ error : Bool,
      NetEffect.ErrorHolds error (chunks.map .sent) ∧
        NetEffect.errorStands error (chunks.map .sent) = error from
    holds net.isError
  intro error
  induction chunks with
  | nil => exact ⟨trivial, rfl⟩
  | cons chunk rest ih => exact ⟨⟨fun _ => rfl, ih.1⟩, ih.2⟩

theorem send (bytes : List UInt8) : Keeps net (net.send os bytes).2 := by
  rw [Net.send]
  split
  next => exact appended rfl (fun _ => rfl) rfl
  next => exact of_trace rfl rfl
  next => exact of_trace rfl rfl

theorem wsSend (payload : List UInt8) :
    Keeps net (net.wsSend os payload) := by
  have framed {net' : Net} {frame : List UInt8} {accepted : Nat} (same : Keeps net net') :
      Keeps net (net'.effect (.frame frame accepted)) :=
    same.trans (appended rfl (fun _ => rfl) rfl)
  rw [Net.wsSend]
  split
  next => exact refl net
  split
  next => exact refl net
  next =>
    have loop := sendLoop_wrote os net
      (wsEncodeFrame (os.ticks net.calls) payload).length (Nat.le_refl _)
    dsimp only
    generalize net.sendLoop os _ _ = result at loop
    refine framed ?_
    cases loop with
    | whole calls chunks => exact wrote calls chunks
    | again calls chunks => exact wrote calls chunks
    | failed calls chunks => exact (wrote calls chunks).trans setState_error

theorem sendHttpUpgrade : Keeps net (net.sendHttpUpgrade os) := by
  have sent : Keeps net (net.send os (httpUpgradeRequest net.ws)).2 :=
    send _
  rw [Net.sendHttpUpgrade]
  split
  next accepted => rwa [accepted] at sent
  next after refused =>
    rw [refused] at sent
    exact sent.trans setState_error

theorem sendClientJoin : Keeps net (net.sendClientJoin os) := by
  rw [Net.sendClientJoin]
  split
  next => exact wsSend _
  next => exact refl net

theorem confirmEntries (payload : Payload) (count p : Nat) :
    Keeps net (net.confirmEntries payload count p) := by
  induction count generalizing net p with
  | zero => exact refl net
  | succ count ih =>
      have confirmed : Keeps net (net.effect (.confirmRemote
          (payload.entry p).1 (payload.entry p).2)) :=
        appended rfl (fun _ => rfl) rfl
      exact confirmed.trans (ih (p + 6))

theorem dispatchMessage (payload : Payload)
    (quiet : net.ws.state = .error → payload.plen = 0) :
    Keeps net (net.dispatchMessage os payload) := by
  have begun : Keeps net (net.effect (.dispatched payload.bytes)) := by
    refine appended rfl ?_ rfl
    intro error
    have none_there := quiet (of_decide_eq_true error)
    simp [NetEffect.isLive, Payload.bytes, none_there]
  refine begun.trans ?_
  have alive (some_there : payload.plen ≠ 0) :
      (net.effect (.dispatched payload.bytes)).ws.state ≠ .error :=
    fun error => some_there (quiet error)
  have assigned {net net' : Net} (state : NetState)
      (trace : net'.trace = net.trace) (same : net'.ws.state = net.ws.state)
      (alive : net.ws.state ≠ .error) : Keeps net (net'.setState state) :=
    (of_trace trace same).trans (setState (same.trans_ne alive))
  have way := dispatchMessage_cases os payload net
  generalize net.dispatchMessage os payload = after at way ⊢
  cases way with
  | ignored => exact refl _
  | waiting some_there => exact setState (alive some_there)
  | start some_there => exact assigned _ rfl rfl (alive some_there)
  | batch count => exact confirmEntries payload count 4
  | pong bytes => exact wsSend bytes
  | ended some_there => exact assigned _ rfl rfl (alive some_there)
  | error => exact setState_error
  | loadout pick => exact of_trace rfl rfl

theorem handleFrame (opcode : UInt8) (payload : Payload)
    (quiet : net.ws.state = .error → opcode = 0x01 ∨ opcode = 0x02 →
      payload.plen = 0) :
    Keeps net (net.handleFrame os opcode payload) := by
  have handed : Keeps net (net.effect (.handed opcode payload.bytes)) :=
    appended rfl (fun _ => rfl) rfl
  refine handed.trans ?_
  rw [Net.handleFrame]
  split
  next message =>
    apply dispatchMessage
    intro error
    exact quiet error message
  split
  next => exact setState_error
  split
  next => exact send _
  next => exact refl _

/-- Behind an error the loop stops, so only the first frame matters. -/
theorem frameLoop (turns : Nat)
    (quiet : net.ws.state = .error →
      ∀ opcode offset plen consumed rbuf,
        wsParseFrame net.ws.rbuf =
          (.frame opcode offset plen consumed, rbuf) →
        opcode = 0x01 ∨ opcode = 0x02 → plen = 0) :
    Keeps net (net.frameLoop os turns) := by
  induction turns generalizing net with
  | zero => exact refl net
  | succ turns ih =>
      have parsing (rbuf : RecvBuf) : Keeps net (net.parsing rbuf) := by
        have parsed : Keeps net (net.effect (.parse
            (net.ws.rbuf.bytes.length + net.incoming.length)
            net.ws.state)) :=
          appended rfl (fun _ => rfl) rfl
        exact parsed.trans (of_trace rfl rfl)
      have sliding {opcode : UInt8} {offset plen consumed : Nat}
          {rbuf : RecvBuf} (found : wsParseFrame net.ws.rbuf =
            (.frame opcode offset plen consumed, rbuf)) :
          Keeps net (net.sliding os opcode offset plen consumed rbuf) := by
        have handled : Keeps net (net.handling os opcode offset plen rbuf) := by
          refine (parsing rbuf).trans (handleFrame opcode _ ?_)
          intro error
          exact quiet error _ _ _ _ _ found
        exact handled.trans (of_trace rfl rfl)
      have turned := frameLoop_turned os net turns
      generalize net.frameLoop os (turns + 1) = after at turned ⊢
      cases turned with
      | empty => exact refl net
      | incomplete rbuf => exact parsing rbuf
      | refused rbuf => exact (parsing rbuf).trans setState_error
      | stopped opcode offset plen consumed rbuf found => exact sliding found
      | next opcode offset plen consumed rbuf found alive =>
          exact (sliding found).trans (ih fun error => absurd error alive)

theorem processFrames
    (quiet : net.ws.state = .error → net.ws.hs = .opened →
      ∀ opcode offset plen consumed rbuf,
        wsParseFrame net.ws.rbuf =
          (.frame opcode offset plen consumed, rbuf) →
        opcode = 0x01 ∨ opcode = 0x02 → plen = 0) :
    Keeps net (net.processFrames os) := by
  rw [Net.processFrames]
  split
  next => exact refl net
  next opened =>
    rw [not_not] at opened
    exact frameLoop _ fun error => quiet error opened

theorem finishConnect : Keeps net (net.finishConnect os) := by
  have called : Keeps net net.call := of_trace rfl rfl
  rw [Net.finishConnect]
  split
  next => exact called
  next => exact called.trans setState_error
  next => exact (called.trans sendHttpUpgrade).trans (of_trace rfl rfl)

theorem sendInput (frame : Int) (input : UInt16) :
    Keeps net (net.sendInput os frame input) := by
  rw [Net.sendInput]
  split
  next => exact refl net
  split
  next => exact refl net
  next => exact wsSend _

theorem sendLoadout (loadout : Int) :
    Keeps net (net.sendLoadout os loadout) := by
  rw [Net.sendLoadout]
  split
  next => exact refl net
  next => exact wsSend _

theorem ackStart : Keeps net net.ackStart := by
  rw [Net.ackStart]
  split
  next ready => exact setState (by simp [ready])
  next => exact refl net

theorem configure (url : Option (List UInt8)) (roomId playerId : List UInt8)
    (slot : Int) : Keeps net (net.configure url roomId playerId slot) := by
  have zeroed {net' : Net} (trace : net'.trace = net.trace ++ [.reset])
      (state : net'.ws.state = .idle) : Keeps net net' := by
    refine appended trace (fun _ => rfl) ?_
    rw [isError.eq_def net', state]
    rfl
  unfold Net.configure
  dsimp only
  split
  next => exact zeroed rfl rfl
  split
  next => exact (zeroed rfl rfl).trans setState_error
  next => exact (zeroed rfl rfl).trans (of_trace rfl rfl)

theorem dial : Keeps net (net.dial os) := by
  rw [Net.dial]
  split
  next => exact refl net
  next idle =>
    have alive : net.ws.state ≠ .error := fun error => idle (.inl error)
    have dialled : Keeps net net.call := of_trace rfl rfl
    have connecting {net' : Net} (trace : net'.trace = net.trace)
        (state : net'.ws.state = net.ws.state) :
        Keeps net (net'.setState .connecting) :=
      (of_trace trace state).trans (setState (state.trans_ne alive))
    have shaken {net' : Net} (same : Keeps net net') :
        Keeps net { net' with ws := { net'.ws with hs := .httpSent } } :=
      same.trans (of_trace rfl rfl)
    dsimp only
    split
    next => exact dialled.trans setState_error
    next => exact dialled.trans setState_error
    next => exact shaken ((connecting rfl rfl).trans sendHttpUpgrade)
    next => exact (connecting rfl rfl).trans (of_trace rfl rfl)
    next => exact (connecting rfl rfl).trans setState_error

theorem connect (url : Option (List UInt8)) :
    Keeps net (net.connect os url) := by
  unfold Net.connect
  split
  next => exact (configure url [] [] 0).trans dial
  split
  next =>
    split
    next => exact setState_error
    next parts _ =>
      have set : Keeps net (net.setUrl parts) := of_trace rfl rfl
      exact set.trans dial
  next => exact dial

theorem disconnect : Keeps net (net.disconnect os) := by
  have closed {net' : Net} (same : Keeps net net') : Keeps net
      ({ net' with ws := { net'.ws with hs := .closed, state := .idle } }.effect
        .reset) :=
    same.trans (appended rfl (fun _ => rfl) rfl)
  rw [Net.disconnect]
  split
  next => exact closed ((send _).trans (of_trace rfl rfl))
  next => exact closed (refl net)

end Keeps

variable {os : Os} {net net' : Net} {data : List UInt8} {event : NetEvent}

theorem keeps_atJoin (hdrEnd : Nat) : Keeps net (net.atJoin data hdrEnd) :=
  .of_trace rfl rfl

theorem sendClientJoin_state (data : List UInt8) (hdrEnd : Nat)
    (works : ¬ net.JoinFails os) :
    ((net.atJoin data hdrEnd).sendClientJoin os).ws.state =
      net.ws.state := by
  rw [sendClientJoin]
  split
  next allocates =>
    refine wsSend_state ?_
    rintro ⟨⟨_, _, fits⟩, refusal⟩
    exact works ⟨allocates, fits, refusal⟩
  next => rfl

theorem sendClientJoin_fails (receives : net.Receives os data) (hdrEnd : Nat)
    (fails : net.JoinFails os) :
    ((net.atJoin data hdrEnd).sendClientJoin os).ws.state = .error := by
  obtain ⟨allocates, fits, refusal⟩ := fails
  have allocated : os.allocates (net.atJoin data hdrEnd).calls = true :=
    allocates
  rw [sendClientJoin, if_pos allocated]
  exact wsSend_of_failsToSend ⟨⟨receives.hasFd, rfl, fits⟩, refusal⟩

theorem Keeps.receive (upgrade : ∀ data, net.Receives os data →
      net.Upgrades data → net.ws.state ≠ .error ∧ ¬ net.JoinFails os)
    (message : ∀ data, net.Receives os data → net.ws.state = .error →
      net.ws.hs = .opened → ¬ net.MessageFirst data) :
    Keeps net (net.receive os) := by
  have way := receive_cases os net
  generalize found : net.receive os = after at way
  cases way with
  | absent => exact refl net
  | connecting => exact finishConnect
  | full => exact of_trace rfl rfl
  | quiet => exact of_trace rfl rfl
  | lost =>
      have called : Keeps net net.call := of_trace rfl rfl
      exact called.trans setState_error
  | data data receives =>
      have filled : Keeps net
          ((net.taking data).setRbuf (net.ws.rbuf.append data)) :=
        of_trace rfl rfl
      rw [receiveData]
      split
      next httpSent =>
        split
        next => exact filled
        next hdrEnd complete =>
          split
          next got =>
            obtain ⟨alive, works⟩ := upgrade data receives
              ⟨httpSent, hdrEnd, complete, got⟩
            have sent : Keeps (net.atJoin data hdrEnd)
                ((net.atJoin data hdrEnd).sendClientJoin os) := sendClientJoin
            have joined := (keeps_atJoin hdrEnd).trans sent
            have state := sendClientJoin_state data hdrEnd works
            exact (joined.trans (setState (state.trans_ne alive))).trans
              (processFrames fun error => by cases error)
          next => exact filled.trans setState_error
      next =>
        refine filled.trans (processFrames ?_)
        intro error opened opcode offset plen consumed rbuf parsed isMessage
        by_contra some_there
        exact message data receives error opened
          ⟨opcode, offset, plen, consumed, rbuf, parsed, isMessage,
            some_there⟩

/-- The trace has seen every assignment to the state. -/
structure TraceKnows (net : Net) : Prop where
  holds : NetEffect.ErrorHolds false net.trace
  stands : NetEffect.errorStands false net.trace = net.isError

theorem TraceKnows.errorIsFinal (knows : net.TraceKnows) :
    net.ErrorIsFinal :=
  ⟨knows.holds, fun error =>
    of_decide_eq_true (knows.stands.symm.trans error)⟩

theorem TraceKnows.keeps (knows : net.TraceKnows) (keeps : Keeps net net') :
    net'.TraceKnows := by
  obtain ⟨effects, trace, holds, stands⟩ := keeps
  rw [← knows.stands] at holds stands
  constructor
  · rw [trace]
    exact NetEffect.errorHolds_append.mpr ⟨knows.holds, holds⟩
  · rw [trace]
    exact NetEffect.errorStands_append.trans stands

/-- Something live behind an error. -/
theorem TraceKnows.not_errorHolds {before : Net} (effect : NetEffect)
    (knows : before.TraceKnows) (error : before.ws.state = .error)
    (live : effect.isLive = true)
    (later : (before.effect effect).trace <+: net'.trace) :
    ¬ NetEffect.ErrorHolds false net'.trace := by
  obtain ⟨rest, trace⟩ := later
  rw [← trace, effect_trace, NetEffect.errorHolds_append,
    NetEffect.errorHolds_append]
  rintro ⟨⟨_, dead, _⟩, _⟩
  rw [knows.stands] at dead
  cases live.symm.trans (dead (decide_eq_true error))

theorem upgrade_breaks (knows : net.TraceKnows)
    (receives : net.Receives os data) (upgrades : net.Upgrades data)
    (lost : net.ws.state = .error ∨ net.JoinFails os) :
    ¬ NetEffect.ErrorHolds false (net.receive os).trace := by
  obtain ⟨httpSent, hdrEnd, complete, got⟩ := upgrades
  have joined : Keeps net ((net.atJoin data hdrEnd).sendClientJoin os) :=
    (keeps_atJoin hdrEnd).trans .sendClientJoin
  have error : ((net.atJoin data hdrEnd).sendClientJoin os).ws.state =
      .error := by
    by_cases fails : net.JoinFails os
    · exact sendClientJoin_fails receives hdrEnd fails
    · rw [sendClientJoin_state data hdrEnd fails]
      exact lost.resolve_right fails
  rw [receives.upgrade httpSent complete got]
  exact (knows.keeps joined).not_errorHolds (.state .waiting) error rfl
    (processFrames_grows os (Net.setState .waiting _))

theorem message_breaks (knows : net.TraceKnows)
    (receives : net.Receives os data) (error : net.ws.state = .error)
    (opened : net.ws.hs = .opened) (message : net.MessageFirst data) :
    ¬ NetEffect.ErrorHolds false (net.receive os).trace := by
  obtain ⟨opcode, offset, plen, consumed, rbuf, parsed, isMessage, some_there⟩ :=
    message
  generalize filled_def :
    (net.taking data).setRbuf (net.ws.rbuf.append data) = filled
  have parsed' : wsParseFrame filled.ws.rbuf =
      (.frame opcode offset plen consumed, rbuf) := by
    rw [← filled_def]
    exact parsed
  have some_left := bytes_ne_nil_of_frame parsed'
  have loops : net.receive os = filled.processFrames os := by
    rw [receives.receive, receiveData]
    split
    next httpSent => cases opened.symm.trans httpSent
    next => exact congrArg (processFrames os) filled_def
  let payload := payloadAt rbuf offset plen
  have kept : Keeps net ((filled.parsing rbuf).effect
      (.handed opcode payload.bytes)) := by
    have parsing : Keeps net (filled.effect (.parse
        (filled.ws.rbuf.bytes.length + filled.incoming.length)
        filled.ws.state)) := by
      subst filled_def
      exact .appended rfl (fun _ => rfl) rfl
    have parsed : Keeps net (filled.parsing rbuf) :=
      parsing.trans (.of_trace rfl rfl)
    exact parsed.trans (.appended rfl (fun _ => rfl) rfl)
  have error' : filled.ws.state = .error := by
    subst filled_def
    exact error
  have live : NetEffect.isLive (.dispatched payload.bytes) = true := by
    simp [NetEffect.isLive, Payload.bytes, payload, payloadAt, some_there]
  have opened' : filled.ws.hs = .opened := by
    subst filled_def
    exact opened
  rw [loops, processFrames, if_neg (not_not.mpr opened')]
  obtain ⟨turns, length⟩ : ∃ turns, filled.ws.rbuf.bytes.length = turns + 1 :=
    Nat.exists_eq_succ_of_ne_zero (mt List.length_eq_zero_iff.mp some_left)
  rw [length]
  refine (knows.keeps kept).not_errorHolds (.dispatched payload.bytes) error'
    live ?_
  exact (handleFrame_message os _ payload isMessage).trans
    (frameLoop_dispatches turns some_left parsed')

/-- An error is final exactly as long as, while it stands, no upgrade is
completed and no message arrives first, and no upgrade is completed whose
`CLIENT_JOIN` fails. -/
theorem errorIsFinal_iff_keepsError (os : Os) (events : List NetEvent) :
    (Net.step os).Always ErrorIsFinal .initial events ↔
      (Net.step os).Along (KeepsError os) .initial events := by
  refine Machine.always_iff_along TraceKnows ?_ ?_ ?_ ⟨trivial, rfl⟩
  · intro net event knows keeps
    refine knows.keeps ?_
    cases event with
    | configure url roomId playerId slot =>
        exact .configure url roomId playerId slot
    | connect url => exact .connect url
    | receive => exact .receive (keeps.upgrade rfl) (keeps.message rfl)
    | sendInput frame input => exact .sendInput frame input
    | sendLoadout loadout => exact .sendLoadout loadout
    | ackStart => exact .ackStart
    | disconnect => exact .disconnect
  · intro net knows
    exact knows.errorIsFinal
  · intro net event knows breaks final
    refine breaks ⟨?_, ?_⟩
    · rintro rfl data receives upgrades
      constructor
      · intro error
        exact upgrade_breaks knows receives upgrades (.inl error) final.holds
      · intro fails
        exact upgrade_breaks knows receives upgrades (.inr fails) final.holds
    · rintro rfl data receives error opened message
      exact message_breaks knows receives error opened message final.holds

end Net

def errorThenWaiting : Os where
  send _ := .accepted 4095
  recv _ := .data 2
  dial _ := .connected
  tcp _ := .writable
  stream _ := asciiBytes "101\r\n\r\n" ++
    [0x82, 1, msgError, 0x82, 1, msgWaiting]
  ticks _ := 0
  allocates _ := true

def fiveReceives : List NetEvent :=
  [.configure (some (asciiBytes "ws://h/")) [] [] 0, .connect none, .receive,
    .receive, .receive, .receive, .receive]

theorem not_errorIsFinal_errorThenWaiting :
    ¬ (Net.step errorThenWaiting).Always Net.ErrorIsFinal .initial
      fiveReceives := by
  intro always
  have live : ¬ NetEffect.ErrorHolds false
      ((Net.step errorThenWaiting).run .initial fiveReceives).trace := by
    decide +kernel
  exact live always.last.holds

end FuryClash.Client
