import FuryClash.Client.Sending

namespace FuryClash.Client

def NetEffect.Inner : NetEffect → Prop
  | .parse _ _ => False
  | .handed _ _ => False
  | .reset => False
  | _ => True

namespace Net

inductive Dispatched (os : Os) (payload : Payload) (net : Net) :
    Net → Prop where
  | ignored : Dispatched os payload net net
  | waiting (some_there : payload.plen ≠ 0) :
      Dispatched os payload net (net.setState .waiting)
  | start (some_there : payload.plen ≠ 0) (info : NetMatchInfo)
      (roomId : List UInt8) :
      Dispatched os payload net ({ net with ws := { net.ws with
        matchInfo := info
        matchRoomId := roomId } }.setState .ready)
  | batch (count : Nat) :
      Dispatched os payload net (net.confirmEntries payload count 4)
  | pong (bytes : List UInt8) :
      Dispatched os payload net (net.wsSend os bytes)
  | ended (some_there : payload.plen ≠ 0) (info : NetEndInfo) :
      Dispatched os payload net ({ net with ws := { net.ws with
        endInfo := info } }.setState .ended)
  | error (some_there : payload.plen ≠ 0)
      (isError : payload.memory 0 = msgError) :
      Dispatched os payload net (net.setState .error)
  | loadout (pick : Int) :
      Dispatched os payload net { net with ws := { net.ws with
        opponentLoadout := pick } }

theorem dispatchMessage_cases (os : Os) (payload : Payload) (net : Net) :
    Dispatched os payload (net.effect (.dispatched payload.bytes))
      (net.dispatchMessage os payload) := by
  rw [dispatchMessage]
  generalize net.effect (.dispatched payload.bytes) = net
  have ways {c : Prop} [Decidable c] {a b : Net}
      (pos : c → Dispatched os payload net a)
      (neg : ¬ c → Dispatched os payload net b) :
      Dispatched os payload net (if c then a else b) := iteInduction pos neg
  refine ways (fun _ => .ignored) fun long => ?_
  have some_there : payload.plen ≠ 0 := by omega
  refine ways (fun _ => .waiting some_there) fun _ => ?_
  refine ways (fun _ => .start some_there _ _) fun _ => ?_
  refine ways (fun _ => ?_) fun _ => ?_
  · refine ways (fun _ => .ignored) fun _ => ?_
    exact ways (fun _ => .ignored) fun _ => .batch _
  refine ways (fun _ => ?_) fun _ => ?_
  · exact ways (fun _ => .ignored) fun _ => .pong _
  refine ways (fun _ => .ended some_there _) fun _ => ?_
  refine ways (fun isError => .error some_there isError) fun _ => ?_
  refine ways (fun _ => ?_) fun _ => .ignored
  exact ways (fun _ => .loadout _) fun _ => .ignored

structure Within (net net' : Net) : Prop where
  configured : net'.ws.configured = net.ws.configured
  hasFd : net'.ws.hasFd = net.ws.hasFd
  hs : net'.ws.hs = net.ws.hs
  rbuf : net'.ws.rbuf = net.ws.rbuf
  incoming : net'.incoming = net.incoming
  grows : ∃ effects, net'.trace = net.trace ++ effects ∧
    ∀ effect ∈ effects, effect.Inner

namespace Within

variable {net net' net'' : Net} {os : Os}

theorem of_trace (configured : net'.ws.configured = net.ws.configured)
    (hasFd : net'.ws.hasFd = net.ws.hasFd) (hs : net'.ws.hs = net.ws.hs)
    (rbuf : net'.ws.rbuf = net.ws.rbuf)
    (incoming : net'.incoming = net.incoming)
    (trace : net'.trace = net.trace) : Within net net' :=
  ⟨configured, hasFd, hs, rbuf, incoming, [],
    trace.trans (List.append_nil _).symm, nofun⟩

theorem refl (net : Net) : Within net net := of_trace rfl rfl rfl rfl rfl rfl

theorem trans (first : Within net net') (second : Within net' net'') :
    Within net net'' := by
  obtain ⟨before, at_before, innerBefore⟩ := first.grows
  obtain ⟨after, at_after, innerAfter⟩ := second.grows
  refine ⟨second.configured.trans first.configured,
    second.hasFd.trans first.hasFd, second.hs.trans first.hs,
    second.rbuf.trans first.rbuf, second.incoming.trans first.incoming,
    before ++ after, ?_, ?_⟩
  · rw [at_after, at_before, List.append_assoc]
  · exact List.forall_mem_append.mpr ⟨innerBefore, innerAfter⟩

theorem effect (effect : NetEffect) (inner : effect.Inner) :
    Within net (net.effect effect) := by
  refine ⟨rfl, rfl, rfl, rfl, rfl, [effect], rfl, ?_⟩
  intro other held
  rwa [List.mem_singleton.mp held]

theorem setState (state : NetState) : Within net (net.setState state) := by
  have assigned : Within net
      { net with ws := { net.ws with state := state } } :=
    of_trace rfl rfl rfl rfl rfl rfl
  exact assigned.trans (effect (.state state) trivial)

theorem wrote (calls : Nat) (chunks : List (List UInt8)) :
    Within net (net.wrote calls chunks) := by
  refine ⟨rfl, rfl, rfl, rfl, rfl, chunks.map .sent, rfl, ?_⟩
  intro effect sent
  obtain ⟨chunk, _, rfl⟩ := List.mem_map.mp sent
  trivial

theorem send (bytes : List UInt8) : Within net (net.send os bytes).2 := by
  rw [Net.send]
  split
  next =>
    have called : Within net net.call := of_trace rfl rfl rfl rfl rfl rfl
    exact called.trans (effect (.sent _) trivial)
  next => exact of_trace rfl rfl rfl rfl rfl rfl
  next => exact of_trace rfl rfl rfl rfl rfl rfl

theorem of_wrote {bytes rest : List UInt8}
    (loop : Wrote os net bytes (rest, net')) : Within net net' := by
  cases loop with
  | whole calls chunks => exact wrote calls chunks
  | again calls chunks => exact wrote calls chunks
  | failed calls chunks => exact (wrote calls chunks).trans (setState .error)

theorem wsSend (payload : List UInt8) :
    Within net (net.wsSend os payload) := by
  rw [Net.wsSend]
  split
  next => exact refl net
  next =>
    split
    next => exact refl net
    next =>
      have loop := sendLoop_wrote os net
        (wsEncodeFrame (os.ticks net.calls) payload).length (Nat.le_refl _)
      exact (of_wrote loop).trans (.effect (.frame _ _) trivial)

theorem sendClientJoin : Within net (net.sendClientJoin os) := by
  rw [Net.sendClientJoin]
  split
  next => exact wsSend _
  next => exact refl net

theorem confirmEntries (payload : Payload) (count p : Nat) :
    Within net (net.confirmEntries payload count p) := by
  induction count generalizing net p with
  | zero => exact refl net
  | succ count ih => exact .trans (.effect (.confirmRemote _ _) trivial) (ih (p + 6))

theorem dispatchMessage (payload : Payload) :
    Within (net.effect (.dispatched payload.bytes))
      (net.dispatchMessage os payload) := by
  have assigned {net net' : Net} (state : NetState)
      (same : Within net net') : Within net (net'.setState state) :=
    same.trans (setState state)
  have way := dispatchMessage_cases os payload net
  generalize net.dispatchMessage os payload = after at way ⊢
  cases way with
  | ignored => exact refl _
  | waiting => exact setState _
  | start => exact assigned _ (of_trace rfl rfl rfl rfl rfl rfl)
  | batch count => exact confirmEntries payload count 4
  | pong bytes => exact wsSend bytes
  | ended => exact assigned _ (of_trace rfl rfl rfl rfl rfl rfl)
  | error => exact setState _
  | loadout pick => exact of_trace rfl rfl rfl rfl rfl rfl

theorem handleFrame (opcode : UInt8) (payload : Payload) :
    Within (net.effect (.handed opcode payload.bytes))
      (net.handleFrame os opcode payload) := by
  rw [Net.handleFrame]
  split
  next =>
    have begun : Within (net.effect (.handed opcode payload.bytes))
        ((net.effect (.handed opcode payload.bytes)).effect
          (.dispatched payload.bytes)) := effect _ trivial
    exact begun.trans (dispatchMessage payload)
  split
  next => exact setState _
  split
  next => exact send _
  next => exact refl _

end Within

variable {os : Os} {net net' : Net}

theorem Within.trace_le (within : Within net net') :
    net.trace <+: net'.trace := by
  obtain ⟨effects, trace, _⟩ := within.grows
  exact ⟨effects, trace.symm⟩

theorem handleFrame_message {opcode : UInt8} (os : Os) (net : Net)
    (payload : Payload) (message : opcode = 0x01 ∨ opcode = 0x02) :
    ((net.effect (.handed opcode payload.bytes)).effect
        (.dispatched payload.bytes)).trace <+:
      (net.handleFrame os opcode payload).trace := by
  rw [handleFrame, if_pos message]
  exact (Within.dispatchMessage payload).trace_le

theorem handleFrame_grows (os : Os) (net : Net) (opcode : UInt8) (payload : Payload) :
    net.trace <+: (net.handleFrame os opcode payload).trace :=
  (List.prefix_append _ _).trans (Within.handleFrame opcode payload).trace_le

/-- A turn of the loop behind its run of the parser. -/
def parsing (rbuf : RecvBuf) (net : Net) : Net :=
  (net.effect (.parse (net.ws.rbuf.bytes.length + net.incoming.length)
    net.ws.state)).setRbuf rbuf

def payloadAt (rbuf : RecvBuf) (offset plen : Nat) : Payload :=
  ⟨fun i => rbuf.memory (offset + i), wsRecvBuf - offset, plen⟩

/-- The turn of the loop that finds a frame, up to its handling. -/
def handling (os : Os) (opcode : UInt8) (offset plen : Nat) (rbuf : RecvBuf)
    (net : Net) : Net :=
  (net.parsing rbuf).handleFrame os opcode
    (payloadAt rbuf offset plen)

/-- Behind it the bytes that are left move to the front of the buffer. -/
def sliding (os : Os) (opcode : UInt8) (offset plen consumed : Nat)
    (rbuf : RecvBuf) (net : Net) : Net :=
  let net := net.handling os opcode offset plen rbuf
  net.setRbuf (net.ws.rbuf.consume consumed)

theorem frameLoop_empty (os : Os) (turns : Nat)
    (none_left : net.ws.rbuf.bytes = []) : net.frameLoop os turns = net := by
  cases turns with
  | zero => rfl
  | succ turns => rw [frameLoop, if_pos none_left]

theorem frameLoop_incomplete {rbuf : RecvBuf} (turns : Nat)
    (some_left : net.ws.rbuf.bytes ≠ [])
    (parsed : wsParseFrame net.ws.rbuf = (.incomplete, rbuf)) :
    net.frameLoop os (turns + 1) = net.parsing rbuf := by
  rw [frameLoop, if_neg some_left]
  dsimp only [effect_ws]
  rw [parsed]
  rfl

theorem frameLoop_refused {rbuf : RecvBuf} (turns : Nat)
    (some_left : net.ws.rbuf.bytes ≠ [])
    (parsed : wsParseFrame net.ws.rbuf = (.protocolError, rbuf)) :
    net.frameLoop os (turns + 1) = (net.parsing rbuf).setState .error := by
  rw [frameLoop, if_neg some_left]
  dsimp only [effect_ws]
  rw [parsed]
  rfl

theorem frameLoop_frame {opcode : UInt8} {offset plen consumed : Nat}
    {rbuf : RecvBuf} (turns : Nat) (some_left : net.ws.rbuf.bytes ≠ [])
    (parsed : wsParseFrame net.ws.rbuf =
      (.frame opcode offset plen consumed, rbuf)) :
    net.frameLoop os (turns + 1) =
      let net := net.sliding os opcode offset plen consumed rbuf
      if net.ws.state = .error then net else net.frameLoop os turns := by
  rw [frameLoop, if_neg some_left]
  dsimp only [effect_ws]
  rw [parsed]
  rfl

inductive Turned (os : Os) (turns : Nat) (net : Net) : Net → Prop
  | empty (none_left : net.ws.rbuf.bytes = []) : Turned os turns net net
  | incomplete (rbuf : RecvBuf)
      (parsed : wsParseFrame net.ws.rbuf = (.incomplete, rbuf)) :
      Turned os turns net (net.parsing rbuf)
  | refused (rbuf : RecvBuf)
      (parsed : wsParseFrame net.ws.rbuf = (.protocolError, rbuf)) :
      Turned os turns net ((net.parsing rbuf).setState .error)
  | stopped (opcode : UInt8) (offset plen consumed : Nat) (rbuf : RecvBuf)
      (parsed : wsParseFrame net.ws.rbuf =
        (.frame opcode offset plen consumed, rbuf)) :
      Turned os turns net (net.sliding os opcode offset plen consumed rbuf)
  | next (opcode : UInt8) (offset plen consumed : Nat) (rbuf : RecvBuf)
      (parsed : wsParseFrame net.ws.rbuf =
        (.frame opcode offset plen consumed, rbuf))
      (alive : (net.sliding os opcode offset plen consumed rbuf).ws.state ≠
        .error) :
      Turned os turns net
        ((net.sliding os opcode offset plen consumed rbuf).frameLoop os turns)

theorem frameLoop_turned (os : Os) (net : Net) (turns : Nat) :
    Turned os turns net (net.frameLoop os (turns + 1)) := by
  by_cases none_left : net.ws.rbuf.bytes = []
  · rw [frameLoop_empty os _ none_left]
    exact .empty none_left
  cases parsed : wsParseFrame net.ws.rbuf with
  | mk result rbuf =>
      cases result with
      | incomplete =>
          rw [frameLoop_incomplete turns none_left parsed]
          exact .incomplete rbuf parsed
      | protocolError =>
          rw [frameLoop_refused turns none_left parsed]
          exact .refused rbuf parsed
      | frame opcode offset plen consumed =>
          rw [frameLoop_frame turns none_left parsed]
          dsimp only
          split
          next => exact .stopped _ _ _ _ _ parsed
          next alive => exact .next _ _ _ _ _ parsed alive

theorem handling_within (os : Os) (net : Net) (opcode : UInt8)
    (offset plen : Nat) (rbuf : RecvBuf) :
    Within ((net.parsing rbuf).effect
        (.handed opcode (payloadAt rbuf offset plen).bytes))
      (net.handling os opcode offset plen rbuf) :=
  Within.handleFrame opcode (payloadAt rbuf offset plen)

theorem handling_grows (os : Os) (net : Net) (opcode : UInt8)
    (offset plen : Nat) (rbuf : RecvBuf) :
    net.trace <+: (net.handling os opcode offset plen rbuf).trace := by
  refine List.IsPrefix.trans ?_ (handleFrame_grows os _ opcode _)
  exact List.prefix_append _ _

theorem frameLoop_grows (os : Os) (net : Net) (turns : Nat) :
    net.trace <+: (net.frameLoop os turns).trace := by
  induction turns generalizing net with
  | zero => exact List.prefix_rfl
  | succ turns ih =>
      have turned := frameLoop_turned os net turns
      generalize net.frameLoop os (turns + 1) = after at turned ⊢
      cases turned with
      | empty => exact List.prefix_rfl
      | incomplete => exact List.prefix_append _ _
      | refused => exact (List.prefix_append _ _).trans (List.prefix_append _ _)
      | stopped opcode offset plen consumed rbuf =>
          exact handling_grows os net opcode offset plen rbuf
      | next opcode offset plen consumed rbuf =>
          have handled := handling_grows os net opcode offset plen rbuf
          exact handled.trans
            (ih (net.sliding os opcode offset plen consumed rbuf))

theorem sliding_length (os : Os) {opcode : UInt8} {offset plen consumed : Nat}
    {rbuf : RecvBuf} (parsed : wsParseFrame net.ws.rbuf =
      (.frame opcode offset plen consumed, rbuf)) :
    (net.sliding os opcode offset plen consumed rbuf).ws.rbuf.bytes.length <
      net.ws.rbuf.bytes.length := by
  obtain ⟨positive, within, length⟩ := wsParseFrame_consumed parsed
  have same := (handling_within os net opcode offset plen rbuf).rbuf
  rw [sliding, setRbuf_ws, same, effect_ws]
  change (rbuf.bytes.drop consumed).length < _
  rw [List.length_drop]
  omega

/-- The loop ends by itself: more turns than bytes make no difference. -/
theorem frameLoop_turns (os : Os) (net : Net) (first second : Nat)
    (enough : net.ws.rbuf.bytes.length ≤ first)
    (enough' : net.ws.rbuf.bytes.length ≤ second) :
    net.frameLoop os first = net.frameLoop os second := by
  induction first generalizing net second with
  | zero =>
      have none_left : net.ws.rbuf.bytes = [] :=
        List.length_eq_zero_iff.mp (by omega)
      rw [frameLoop_empty os _ none_left, frameLoop_empty os _ none_left]
  | succ first ih =>
      by_cases none_left : net.ws.rbuf.bytes = []
      · rw [frameLoop_empty os _ none_left, frameLoop_empty os _ none_left]
      cases second with
      | zero => exact absurd (List.length_eq_zero_iff.mp (by omega)) none_left
      | succ second =>
          cases parsed : wsParseFrame net.ws.rbuf with
          | mk result rbuf =>
              cases result with
              | incomplete =>
                  rw [frameLoop_incomplete first none_left parsed,
                    frameLoop_incomplete second none_left parsed]
              | protocolError =>
                  rw [frameLoop_refused first none_left parsed,
                    frameLoop_refused second none_left parsed]
              | frame opcode offset plen consumed =>
                  have less := sliding_length os parsed
                  rw [frameLoop_frame first none_left parsed,
                    frameLoop_frame second none_left parsed]
                  dsimp only
                  split
                  next => rfl
                  next => exact ih _ _ (by omega) (by omega)

theorem frameLoop_link (os : Os) (net : Net) (turns : Nat) :
    (net.frameLoop os turns).ws.hs = net.ws.hs ∧
      (net.frameLoop os turns).incoming = net.incoming := by
  induction turns generalizing net with
  | zero => exact ⟨rfl, rfl⟩
  | succ turns ih =>
      have turned := frameLoop_turned os net turns
      generalize net.frameLoop os (turns + 1) = after at turned ⊢
      cases turned with
      | empty => exact ⟨rfl, rfl⟩
      | incomplete => exact ⟨rfl, rfl⟩
      | refused => exact ⟨rfl, rfl⟩
      | stopped opcode offset plen consumed rbuf =>
          have within := handling_within os net opcode offset plen rbuf
          exact ⟨within.hs, within.incoming⟩
      | next opcode offset plen consumed rbuf =>
          have within := handling_within os net opcode offset plen rbuf
          obtain ⟨hs, incoming⟩ :=
            ih (net.sliding os opcode offset plen consumed rbuf)
          exact ⟨hs.trans within.hs, incoming.trans within.incoming⟩

theorem frameLoop_dispatches {opcode : UInt8} {offset plen consumed : Nat}
    {rbuf : RecvBuf} (turns : Nat) (some_left : net.ws.rbuf.bytes ≠ [])
    (parsed : wsParseFrame net.ws.rbuf =
      (.frame opcode offset plen consumed, rbuf)) :
    (net.handling os opcode offset plen rbuf).trace <+:
      (net.frameLoop os (turns + 1)).trace := by
  rw [frameLoop_frame turns some_left parsed]
  dsimp only
  split
  next => exact List.prefix_rfl
  next =>
    refine List.IsPrefix.trans ?_ (frameLoop_grows os _ turns)
    exact List.prefix_rfl

theorem frameLoop_parses (os : Os) (net : Net) (turns : Nat)
    (some_left : net.ws.rbuf.bytes ≠ []) :
    .parse (net.ws.rbuf.bytes.length + net.incoming.length) net.ws.state ∈
      (net.frameLoop os (turns + 1)).trace := by
  have recorded (rbuf : RecvBuf) :
      .parse (net.ws.rbuf.bytes.length + net.incoming.length) net.ws.state ∈
        (net.parsing rbuf).trace := List.mem_concat_self
  have handled (opcode : UInt8) (offset plen consumed : Nat) (rbuf : RecvBuf) :
      .parse (net.ws.rbuf.bytes.length + net.incoming.length) net.ws.state ∈
        (net.sliding os opcode offset plen consumed rbuf).trace := by
    have within := handling_within os net opcode offset plen rbuf
    exact within.trace_le.subset (List.mem_append_left _ (recorded rbuf))
  have turned := frameLoop_turned os net turns
  generalize net.frameLoop os (turns + 1) = after at turned ⊢
  cases turned with
  | empty none_left => exact absurd none_left some_left
  | incomplete rbuf => exact recorded rbuf
  | refused rbuf => exact List.mem_append_left _ (recorded rbuf)
  | stopped opcode offset plen consumed rbuf =>
      exact handled opcode offset plen consumed rbuf
  | next opcode offset plen consumed rbuf =>
      apply (frameLoop_grows os _ turns).subset
      exact handled opcode offset plen consumed rbuf

theorem processFrames_grows (os : Os) (net : Net) :
    net.trace <+: (net.processFrames os).trace := by
  rw [processFrames]
  split
  next => exact List.prefix_rfl
  next => exact frameLoop_grows os net _

structure Receives (os : Os) (net : Net) (data : List UInt8) : Prop where
  configured : net.ws.configured = true
  hasFd : net.ws.hasFd = true
  connected : net.ws.hs ≠ .tcpConn
  room : net.ws.rbuf.avail ≠ 0
  given : ∃ more, os.recv net.calls = .data more ∧ data = net.recvData more
  some_data : data ≠ []

def MessageFirst (net : Net) (data : List UInt8) : Prop :=
  ∃ opcode offset plen consumed rbuf,
    wsParseFrame (net.ws.rbuf.append data) =
      (.frame opcode offset plen consumed, rbuf) ∧
    (opcode = 0x01 ∨ opcode = 0x02) ∧ plen ≠ 0

def taking (data : List UInt8) (net : Net) : Net :=
  { net.call with incoming := net.incoming.drop data.length }

inductive Receiving (os : Os) (net : Net) : Net → Prop
  | absent (absent : net.ws.configured = false ∨ net.ws.hasFd = false) :
      Receiving os net net
  | connecting (connecting : net.ws.hs = .tcpConn) :
      Receiving os net (net.finishConnect os)
  | full (full : net.ws.rbuf.avail = 0) :
      Receiving os net (net.setRbuf net.ws.rbuf.reset)
  | quiet : Receiving os net net.call
  | lost (lost : os.recv net.calls = .failed ∨ os.recv net.calls = .closed) :
      Receiving os net (net.call.setState .error)
  | data (data : List UInt8) (receives : Receives os net data) :
      Receiving os net ((net.taking data).receiveData os data)

theorem receive_cases (os : Os) (net : Net) :
    Receiving os net (net.receive os) := by
  rw [receive]
  split
  next absent => exact .absent absent
  next present =>
    rw [not_or, Bool.not_eq_false, Bool.not_eq_false] at present
    split
    next connecting => exact .connecting connecting
    next connected =>
      split
      next full => exact .full full
      next room =>
        split
        next more given =>
          dsimp only
          split
          next => exact .quiet
          next some_data =>
            exact .data _ ⟨present.1, present.2, connected, room,
              ⟨more, given, rfl⟩, some_data⟩
        next => exact .quiet
        next lost => exact .lost (.inl lost)
        next lost => exact .lost (.inr lost)

theorem receive_full (configured : net.ws.configured = true)
    (hasFd : net.ws.hasFd = true) (connected : net.ws.hs ≠ .tcpConn)
    (full : net.ws.rbuf.avail = 0) :
    net.receive os = net.setRbuf net.ws.rbuf.reset := by
  rw [receive, if_neg (by simp [configured, hasFd]), if_neg connected,
    if_pos full]

theorem Receives.receive {data : List UInt8} (receives : Receives os net data) :
    net.receive os = (net.taking data).receiveData os data := by
  obtain ⟨configured, hasFd, connected, room, ⟨more, given, rfl⟩, some_data⟩ :=
    receives
  rw [Net.receive, if_neg (by simp [configured, hasFd]), if_neg connected,
    if_neg room, given]
  exact if_neg some_data

def atJoin (data : List UInt8) (hdrEnd : Nat) (net : Net) : Net :=
  let net := (net.taking data).setRbuf (net.ws.rbuf.append data)
  let net := net.setRbuf (net.ws.rbuf.consume hdrEnd)
  { net with ws := { net.ws with hs := .opened } }

variable {data : List UInt8}

theorem Receives.upgrade {hdrEnd : Nat} (receives : net.Receives os data)
    (httpSent : net.ws.hs = .httpSent)
    (found : headerEnd (net.ws.rbuf.append data).bytes = some hdrEnd)
    (got : got101 ((net.ws.rbuf.append data).bytes.take hdrEnd) = true) :
    net.receive os = (((net.atJoin data hdrEnd).sendClientJoin os).setState
      .waiting).processFrames os := by
  rw [receives.receive, receiveData]
  split
  next =>
    split
    next none => cases none.symm.trans found
    next hdrEnd' found' =>
      cases found'.symm.trans found
      exact if_pos got
  next opened => exact absurd httpSent opened

theorem Within.upgrade (os : Os) (data : List UInt8) (hdrEnd : Nat)
    (net : Net) : Within (net.atJoin data hdrEnd)
      (((net.atJoin data hdrEnd).sendClientJoin os).setState .waiting) :=
  sendClientJoin.trans (setState .waiting)

theorem Receives.incoming (receives : Receives os net data) :
    (net.receive os).incoming = net.incoming.drop data.length := by
  have looped (net : Net) :
      (net.processFrames os).incoming = net.incoming := by
    rw [processFrames]
    split
    next => rfl
    next => exact (frameLoop_link os net _).2
  rw [receives.receive, receiveData]
  split
  next =>
    split
    next => rfl
    next hdrEnd _ =>
      split
      next =>
        rw [looped]
        exact (Within.upgrade os data hdrEnd net).incoming
      next => rfl
  next =>
    rw [looped]
    rfl

end Net

end FuryClash.Client
