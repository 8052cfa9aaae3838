import FuryClash.Client.Chunks

namespace FuryClash.Client

open FuryClash.Data

/-! Where the runs of `ws_parse_frame` begin, for frames of any size. -/

namespace Net

/-- So many bytes from the end of the stream a frame begins. -/
def Boundary (frames : List WireFrame) (left : Nat) : Prop :=
  ∃ done frame later, frames = done ++ frame :: later ∧
    left = ((frame :: later).flatMap WireFrame.bytes).length

/-- Every run of the parser begins with a frame, or in `NET_ERROR`. -/
def AtBoundaries (frames : List WireFrame) (net : Net) : Prop :=
  ∀ left state, NetEffect.parse left state ∈ net.trace →
    state = .error ∨ Boundary frames left

/-- What the buffer holds and what has not arrived is the end of the stream
from a frame on. -/
def Aligned (frames : List WireFrame) (net : Net) : Prop :=
  ∃ done todo,
    Framed WireFrame.bytes frames done todo net.ws.rbuf.bytes net.incoming

/-- The condition on the state before a call, and on what it receives. -/
structure KeepsBoundary (os : Os) (frames : List WireFrame) (net : Net)
    (event : NetEvent) : Prop where
  /-- The buffer is not reset before an error is recorded. -/
  full : event = .receive → net.ws.hs = .opened → net.ws.rbuf.avail = 0 →
    net.ws.state = .error
  /-- Behind a reset, no message that is read takes the client out of
  `NET_ERROR`. -/
  message : event = .receive → ∀ data, net.Receives os data →
    net.ws.hs = .opened → net.ws.state = .error → ¬ net.Aligned frames →
      ¬ net.MessageFirst data

variable {os : Os} {net net' : Net} {frames done todo : List WireFrame}
  {response : List UInt8}

theorem AtBoundaries.within (boundaries : net.AtBoundaries frames)
    (within : Within net net') : net'.AtBoundaries frames := by
  obtain ⟨effects, trace, inner⟩ := within.grows
  intro left state parsed
  rw [trace, List.mem_append] at parsed
  rcases parsed with earlier | later
  · exact boundaries left state earlier
  · exact (inner _ later).elim

theorem AtBoundaries.effect (effect : NetEffect)
    (boundaries : net.AtBoundaries frames)
    (fine : ∀ left state, effect = .parse left state →
      state = .error ∨ Boundary frames left) :
    (net.effect effect).AtBoundaries frames := by
  intro left state parsed
  rw [effect_trace, List.mem_append, List.mem_singleton] at parsed
  rcases parsed with earlier | here
  · exact boundaries left state earlier
  · exact fine left state here.symm

/-- A run of the parser on a buffer that is aligned or in `NET_ERROR`. -/
theorem AtBoundaries.parsing (boundaries : net.AtBoundaries frames)
    (rbuf : RecvBuf) (fine : net.ws.state = .error ∨
      Boundary frames (net.ws.rbuf.bytes.length + net.incoming.length)) :
    (net.parsing rbuf).AtBoundaries frames := by
  refine boundaries.effect _ ?_
  intro left state same
  cases same
  exact fine

theorem AtBoundaries.handling (os : Os) (opcode : UInt8) (offset plen : Nat)
    {rbuf : RecvBuf} (parsed : (net.parsing rbuf).AtBoundaries frames) :
    (net.handling os opcode offset plen rbuf).AtBoundaries frames := by
  have handed := parsed.effect
    (.handed opcode (payloadAt rbuf offset plen).bytes) nofun
  exact handed.within (handling_within os net opcode offset plen rbuf)

/-- As long as the buffer is aligned, the loop keeps it so, whatever the size
of the frames. -/
theorem frameLoop_aligned (os : Os)
    (sized : ∀ frame ∈ frames, frame.bytes.length < 2 ^ 64) (turns : Nat)
    (boundaries : net.AtBoundaries frames)
    (framed : Framed WireFrame.bytes frames done todo net.ws.rbuf.bytes
      net.incoming) :
    (net.frameLoop os turns).AtBoundaries frames ∧
      (net.frameLoop os turns).Aligned frames := by
  induction turns generalizing net done todo with
  | zero => exact ⟨boundaries, done, todo, framed⟩
  | succ turns ih =>
      by_cases none_left : net.ws.rbuf.bytes = []
      · rw [frameLoop_empty os _ none_left]
        exact ⟨boundaries, done, todo, framed⟩
      obtain ⟨frame, later, rfl, next⟩ := framed.next none_left
      have boundary : Boundary frames
          (net.ws.rbuf.bytes.length + net.incoming.length) := by
        refine ⟨done, frame, later, framed.frames, ?_⟩
        rw [← framed.bytes, List.length_append]
      have parsed (rbuf : RecvBuf) := boundaries.parsing rbuf (.inr boundary)
      rcases next with ⟨held, whole⟩ | ⟨missing, some_missing, cut⟩
      · have fits : frame.bytes.length ≤ wsRecvBuf := by
          have room := net.ws.rbuf.fits
          rw [whole, List.length_append] at room
          omega
        rw [frameLoop_frame turns none_left
          (frame.wsParseFrame_whole whole fits)]
        have handled := (parsed (frame.unmaskIn net.ws.rbuf)).handling os
          frame.opcode frame.offset frame.payload.length
        have slid := framed_sliding os framed whole
        dsimp only at slid ⊢
        split
        next => exact ⟨handled, _, _, slid⟩
        next => exact ih handled slid
      · have isSized : frame.bytes.length < 2 ^ 64 := by
          apply sized
          rw [framed.frames]
          exact List.mem_append_right _ List.mem_cons_self
        rcases frame.wsParseFrame_cut some_missing cut isSized with
          waits | ⟨refused, _⟩
        · rw [frameLoop_incomplete turns none_left waits]
          exact ⟨parsed _, _, _, framed⟩
        · rw [frameLoop_refused turns none_left refused]
          exact ⟨(parsed _).within (.setState .error), _, _, framed⟩

theorem handleFrame_error {opcode : UInt8} {payload : Payload}
    (error : net.ws.state = .error)
    (quiet : opcode = 0x01 ∨ opcode = 0x02 → payload.plen = 0) :
    (net.handleFrame os opcode payload).ws.state = .error := by
  rw [handleFrame]
  split
  next message =>
    rw [dispatchMessage, if_pos (by rw [quiet message]; decide)]
    exact error
  split
  next => rfl
  split
  next =>
    rw [send]
    split
    next => exact error
    next => exact error
    next => exact error
  next => exact error

theorem frameLoop_error (os : Os) (turns : Nat)
    (boundaries : net.AtBoundaries frames)
    (error : net.ws.state = .error)
    (quiet : ∀ opcode offset plen consumed rbuf,
      wsParseFrame net.ws.rbuf = (.frame opcode offset plen consumed, rbuf) →
        opcode = 0x01 ∨ opcode = 0x02 → plen = 0) :
    (net.frameLoop os turns).AtBoundaries frames ∧
      (net.frameLoop os turns).ws.state = .error := by
  have parsing (rbuf : RecvBuf) := boundaries.parsing rbuf (.inl error)
  have still {opcode : UInt8} {offset plen consumed : Nat} {rbuf : RecvBuf}
      (parsed : wsParseFrame net.ws.rbuf =
        (.frame opcode offset plen consumed, rbuf)) :
      (net.sliding os opcode offset plen consumed rbuf).ws.state = .error :=
    handleFrame_error error (quiet _ _ _ _ _ parsed)
  cases turns with
  | zero => exact ⟨boundaries, error⟩
  | succ turns =>
      have turned := frameLoop_turned os net turns
      generalize net.frameLoop os (turns + 1) = after at turned ⊢
      cases turned with
      | empty => exact ⟨boundaries, error⟩
      | incomplete rbuf => exact ⟨parsing rbuf, error⟩
      | refused rbuf => exact ⟨(parsing rbuf).within (.setState .error), rfl⟩
      | stopped opcode offset plen consumed rbuf parsed =>
          have handled := (parsing rbuf).handling os opcode offset plen
          exact ⟨handled, still parsed⟩
      | next opcode offset plen consumed rbuf parsed alive =>
          exact absurd (still parsed) alive

/-- On the open connection the buffer is aligned as long as no error is
recorded. -/
def InPhase (response : List UInt8) (frames : List WireFrame) (net : Net) :
    Prop :=
  net.Waiting response (frames.flatMap WireFrame.bytes) ∨
    net.ws.hs = .opened ∧ (net.Aligned frames ∨ net.ws.state = .error)

theorem InPhase.within (phase : net.InPhase response frames)
    (within : Within net net')
    (error : net.ws.state = .error → net'.ws.state = .error) :
    net'.InPhase response frames := by
  rcases phase with waiting | ⟨opened, aligned | isError⟩
  · exact .inl (waiting.within within)
  · refine .inr ⟨within.hs.trans opened, .inl ?_⟩
    rw [Aligned, within.rbuf, within.incoming]
    exact aligned
  · exact .inr ⟨within.hs.trans opened, .inr (error isError)⟩

theorem processFrames_aligned
    (sized : ∀ frame ∈ frames, frame.bytes.length < 2 ^ 64)
    (boundaries : net.AtBoundaries frames) (opened : net.ws.hs = .opened)
    (aligned : net.Aligned frames) :
    (net.processFrames os).AtBoundaries frames ∧
      (net.processFrames os).InPhase response frames := by
  obtain ⟨done, todo, framed⟩ := aligned
  rw [processFrames, if_neg (not_not.mpr opened)]
  obtain ⟨parsed, still⟩ := frameLoop_aligned os sized
    net.ws.rbuf.bytes.length boundaries framed
  exact ⟨parsed, .inr ⟨(frameLoop_link os net _).1.trans opened, .inl still⟩⟩

theorem processFrames_error (boundaries : net.AtBoundaries frames)
    (opened : net.ws.hs = .opened) (error : net.ws.state = .error)
    (quiet : ∀ opcode offset plen consumed rbuf,
      wsParseFrame net.ws.rbuf = (.frame opcode offset plen consumed, rbuf) →
        opcode = 0x01 ∨ opcode = 0x02 → plen = 0) :
    (net.processFrames os).AtBoundaries frames ∧
      (net.processFrames os).InPhase response frames := by
  rw [processFrames, if_neg (not_not.mpr opened)]
  obtain ⟨parsed, still⟩ := frameLoop_error os net.ws.rbuf.bytes.length
    boundaries error quiet
  exact ⟨parsed, .inr ⟨(frameLoop_link os net _).1.trans opened, .inr still⟩⟩

theorem Waiting.receive_boundaries (is101 : Is101 response)
    (sized : ∀ frame ∈ frames, frame.bytes.length < 2 ^ 64)
    (boundaries : net.AtBoundaries frames)
    (waiting : net.Waiting response (frames.flatMap WireFrame.bytes))
    {data : List UInt8} (receives : net.Receives os data) :
    (net.receive os).AtBoundaries frames ∧
      (net.receive os).InPhase response frames := by
  rcases waiting.receive_cases is101 receives with
    ⟨still, trace⟩ | ⟨called, behind⟩
  · refine ⟨?_, .inl still⟩
    rw [AtBoundaries, trace]
    exact boundaries
  · have within := Within.upgrade os data response.length net
    have before : (net.atJoin data response.length).AtBoundaries frames :=
      boundaries
    rw [called]
    apply processFrames_aligned sized (before.within within)
    · exact within.hs
    · refine ⟨[], frames, ?_⟩
      rw [within.rbuf, within.incoming]
      exact ⟨rfl, behind⟩

theorem receive_boundaries_opened
    (sized : ∀ frame ∈ frames, frame.bytes.length < 2 ^ 64)
    (keeps : KeepsBoundary os frames net .receive)
    (boundaries : net.AtBoundaries frames) (opened : net.ws.hs = .opened)
    (phase : net.Aligned frames ∨ net.ws.state = .error)
    {data : List UInt8} (receives : net.Receives os data) :
    (net.receive os).AtBoundaries frames ∧
      (net.receive os).InPhase response frames := by
  obtain ⟨arriving, filled⟩ := receives.split
  have loops : net.receive os =
      ((net.taking data).setRbuf (net.ws.rbuf.append data)).processFrames
        os := by
    rw [receives.receive, receiveData]
    split
    next httpSent => cases opened.symm.trans httpSent
    next => rfl
  rw [loops]
  by_cases aligned : net.Aligned frames
  · obtain ⟨done, todo, framed⟩ := aligned
    rw [arriving] at framed
    have received := framed.receive
    rw [← filled] at received
    apply processFrames_aligned sized
    · exact boundaries
    · exact opened
    · exact ⟨done, todo, received⟩
  · have error := phase.resolve_left aligned
    have quiet := keeps.message rfl data receives opened error aligned
    apply processFrames_error
    · exact boundaries
    · exact opened
    · exact error
    · intro opcode offset plen consumed rbuf parsed isMessage
      by_contra some_there
      exact quiet ⟨opcode, offset, plen, consumed, rbuf, parsed, isMessage,
        some_there⟩

theorem InPhase.receive (is101 : Is101 response)
    (sized : ∀ frame ∈ frames, frame.bytes.length < 2 ^ 64)
    (keeps : KeepsBoundary os frames net .receive)
    (boundaries : net.AtBoundaries frames)
    (phase : net.InPhase response frames) :
    (net.receive os).AtBoundaries frames ∧
      (net.receive os).InPhase response frames := by
  have way := receive_cases os net
  generalize called : net.receive os = after at way
  have quietly (within : Within net after)
      (error : net.ws.state = .error → after.ws.state = .error) :
      after.AtBoundaries frames ∧ after.InPhase response frames :=
    ⟨boundaries.within within, phase.within within error⟩
  cases way with
  | absent => exact ⟨boundaries, phase⟩
  | connecting connecting =>
      rcases phase with waiting | ⟨opened, _⟩
      · cases waiting.hs.symm.trans connecting
      · cases opened.symm.trans connecting
  | full full =>
      rcases phase with waiting | ⟨opened, _⟩
      · exact absurd full (waiting.room is101)
      · exact ⟨boundaries, .inr ⟨opened, .inr (keeps.full rfl opened full)⟩⟩
  | quiet => exact quietly (.of_trace rfl rfl rfl rfl rfl rfl) id
  | lost =>
      have counted : Within net net.call := .of_trace rfl rfl rfl rfl rfl rfl
      exact quietly (counted.trans (.setState .error)) fun _ => rfl
  | data data receives =>
      rw [← receives.receive]
      rcases phase with waiting | ⟨opened, phase⟩
      · exact waiting.receive_boundaries is101 sized boundaries receives
      · exact receive_boundaries_opened sized keeps boundaries opened phase
          receives

theorem wsSend_error (payload : List UInt8) (error : net.ws.state = .error) :
    (net.wsSend os payload).ws.state = .error := by
  by_cases fails : net.FailsToSend os payload
  · exact wsSend_of_failsToSend fails
  · exact (wsSend_state fails).trans error

theorem InPhase.step {event : NetEvent} (is101 : Is101 response)
    (sized : ∀ frame ∈ frames, frame.bytes.length < 2 ^ 64)
    (plays : event.Plays) (keeps : KeepsBoundary os frames net event)
    (boundaries : net.AtBoundaries frames)
    (phase : net.InPhase response frames) :
    (Net.step os net event).AtBoundaries frames ∧
      (Net.step os net event).InPhase response frames := by
  have same := And.intro boundaries phase
  have sent (payload : List UInt8) :
      (net.wsSend os payload).AtBoundaries frames ∧
        (net.wsSend os payload).InPhase response frames :=
    ⟨boundaries.within (.wsSend payload),
      phase.within (.wsSend payload) (wsSend_error payload)⟩
  cases event with
  | receive => exact phase.receive is101 sized keeps boundaries
  | sendInput frame input =>
      rw [Net.step, sendInput]
      split
      next => exact same
      split
      next => exact same
      next => exact sent _
  | sendLoadout loadout =>
      rw [Net.step, sendLoadout]
      split
      next => exact same
      next => exact sent _
  | ackStart =>
      rw [Net.step, ackStart]
      split
      next ready =>
        refine ⟨boundaries.within (.setState _),
          phase.within (.setState _) ?_⟩
        intro error
        cases ready.symm.trans error
      next => exact same
  | _ => exact plays.elim

/-- In a run that resets no full buffer before an error is recorded, and in
which no message behind a reset takes the client out of `NET_ERROR`, every run
of the parser begins with a frame or in `NET_ERROR`. -/
theorem atBoundaries_of_keepsBoundary (is101 : Is101 response)
    (sized : ∀ frame ∈ frames, frame.bytes.length < 2 ^ 64)
    (awaits : net.AwaitsUpgrade (response ++ frames.flatMap WireFrame.bytes))
    (fresh : ∀ left state, NetEffect.parse left state ∉ net.trace)
    (events : List NetEvent) (plays : ∀ event ∈ events, event.Plays)
    (keeps : (Net.step os).Along (KeepsBoundary os frames) net events) :
    (Net.step os).Always (AtBoundaries frames) net events := by
  have legal : (Net.step os).Along (fun _ event => event.Plays) net
      events :=
    Machine.along_of_mem fun event held _ => plays event held
  refine (legal.and keeps).always
    (fun net => net.AtBoundaries frames ∧ net.InPhase response frames)
    ?_ ?_ ?_
  · rintro net event ⟨boundaries, phase⟩ ⟨plays, keeps⟩
    exact phase.step is101 sized plays keeps boundaries
  · intro net reached
    exact reached.1
  · refine ⟨?_, .inl (awaits.waiting is101)⟩
    intro left state parsed
    exact absurd parsed (fresh left state)

/-! What a frame does that has no room: it is waited for until the buffer is
full, and what comes behind the reset is parsed. -/

/-- The socket gives all that there is room for. -/
structure Flooded (os : Os) (frame : WireFrame) (net : Net) : Prop where
  configured : net.ws.configured = true
  hasFd : net.ws.hasFd = true
  opened : net.ws.hs = .opened
  rbuf : net.ws.rbuf.bytes = []
  incoming : net.incoming = frame.bytes
  eager : ∀ call, net.calls ≤ call → os.recv call = .data 65535
  large : wsRecvBuf < frame.bytes.length
  small : frame.bytes.length < 2 ^ 31

theorem receives_all (configured : net.ws.configured = true)
    (hasFd : net.ws.hasFd = true) (opened : net.ws.hs = .opened)
    (none_held : net.ws.rbuf.bytes = [])
    (eager : os.recv net.calls = .data 65535)
    (some_left : net.incoming ≠ []) :
    net.Receives os (net.incoming.take wsRecvBuf) := by
  have room : net.ws.rbuf.avail = wsRecvBuf := by
    rw [RecvBuf.avail, none_held]
    rfl
  refine ⟨configured, hasFd, by simp [opened], ?_, ⟨65535, eager, ?_⟩, ?_⟩
  · rw [room]
    decide
  · rw [recvData, room]
    rfl
  · intro none_taken
    rw [List.take_eq_nil_iff] at none_taken
    exact none_taken.elim (by decide) some_left

theorem receive_opened {data : List UInt8} (receives : net.Receives os data)
    (opened : net.ws.hs = .opened) :
    net.receive os =
      ((net.taking data).setRbuf (net.ws.rbuf.append data)).frameLoop os
        (net.ws.rbuf.append data).bytes.length := by
  rw [receives.receive, receiveData]
  split
  next httpSent => cases opened.symm.trans httpSent
  next => exact if_neg (not_not.mpr opened)

/-- The first call fills the buffer with the front of the frame. -/
theorem Flooded.first {frame : WireFrame} (flooded : net.Flooded os frame) :
    ∃ rbuf, rbuf.bytes = frame.bytes.take wsRecvBuf ∧
      net.receive os =
        ((net.taking (frame.bytes.take wsRecvBuf)).setRbuf rbuf).parsing
          rbuf := by
  have large := flooded.large
  have some_left : net.incoming ≠ [] := by
    rw [flooded.incoming]
    intro none_left
    rw [none_left] at large
    cases large
  have receives := receives_all flooded.configured flooded.hasFd
    flooded.opened flooded.rbuf (flooded.eager _ (Nat.le_refl _)) some_left
  rw [flooded.incoming] at receives
  have filled := receives.split.2
  rw [flooded.rbuf, List.nil_append] at filled
  refine ⟨_, filled, ?_⟩
  have length : (frame.bytes.take wsRecvBuf).length = 65535 + 1 :=
    List.length_take_of_le (Nat.le_of_lt large)
  rw [receive_opened receives flooded.opened, filled, length]
  apply frameLoop_incomplete
  · rw [setRbuf_ws, filled]
    intro none_taken
    rw [none_taken] at length
    cases length
  · have some_missing : frame.bytes.drop wsRecvBuf ≠ [] := by
      rw [Ne, List.drop_eq_nil_iff]
      omega
    refine frame.wsParseFrame_waits some_missing ?_ flooded.small
    rw [setRbuf_ws, filled]
    exact List.take_append_drop wsRecvBuf frame.bytes

/-- What comes into an empty buffer is parsed, whatever it is. -/
theorem Receives.parses {data : List UInt8} (receives : net.Receives os data)
    (opened : net.ws.hs = .opened) (none_held : net.ws.rbuf.bytes = []) :
    .parse net.incoming.length net.ws.state ∈ (net.receive os).trace := by
  obtain ⟨arriving, filled⟩ := receives.split
  rw [none_held, List.nil_append] at filled
  have total : net.incoming.length = (net.ws.rbuf.append data).bytes.length +
      (net.taking data).incoming.length := by
    rw [filled, ← List.length_append, ← arriving]
  have some_held := receives.some_data
  rw [← filled] at some_held
  obtain ⟨turns, length⟩ := Nat.exists_eq_succ_of_ne_zero
    (mt List.length_eq_zero_iff.mp some_held)
  rw [receive_opened receives opened, length, total]
  exact frameLoop_parses os (Net.setRbuf _ _) turns some_held

/-- The second call finds no room and resets the buffer. -/
theorem Flooded.second {frame : WireFrame} (flooded : net.Flooded os frame) :
    ∃ rbuf, (net.receive os).receive os =
      (((net.taking (frame.bytes.take wsRecvBuf)).setRbuf rbuf).parsing
        rbuf).setRbuf rbuf.reset := by
  obtain ⟨rbuf, held, first⟩ := flooded.first
  have full : rbuf.avail = 0 := by
    rw [RecvBuf.avail, held,
      List.length_take_of_le (Nat.le_of_lt flooded.large), Nat.sub_self]
  have connected : net.ws.hs ≠ .tcpConn := by
    rw [flooded.opened]
    decide
  refine ⟨rbuf, ?_⟩
  rw [first]
  exact receive_full flooded.configured flooded.hasFd connected full

/-- Whatever the frame holds, the third call parses its payload. -/
theorem Flooded.parses {frame : WireFrame} (flooded : net.Flooded os frame) :
    .parse (frame.bytes.length - wsRecvBuf) net.ws.state ∈
      (((net.receive os).receive os).receive os).trace := by
  have large := flooded.large
  obtain ⟨rbuf, second⟩ := flooded.second
  have incoming : ((net.receive os).receive os).incoming =
      frame.bytes.drop wsRecvBuf := by
    rw [second]
    change net.incoming.drop (frame.bytes.take wsRecvBuf).length = _
    rw [flooded.incoming, List.length_take_of_le (Nat.le_of_lt large)]
  have opened : ((net.receive os).receive os).ws.hs = .opened := by
    rw [second]
    exact flooded.opened
  have none_held : ((net.receive os).receive os).ws.rbuf.bytes = [] := by
    rw [second]
    rfl
  have state : ((net.receive os).receive os).ws.state = net.ws.state := by
    rw [second]
    rfl
  have third : Receives os ((net.receive os).receive os)
      (((net.receive os).receive os).incoming.take wsRecvBuf) := by
    apply receives_all _ _ opened none_held
    · rw [second]
      exact flooded.eager _ (Nat.le_succ _)
    · rw [incoming, Ne, List.drop_eq_nil_iff]
      omega
    · rw [second]
      exact flooded.configured
    · rw [second]
      exact flooded.hasFd
  have parsed := third.parses opened none_held
  rw [incoming, List.length_drop, state] at parsed
  exact parsed

end Net

theorem atBoundaries_fiveBytes :
    (Net.step fiveBytes).Always
      (Net.AtBoundaries [waitingFrame, loadoutFrame]) awaitingTwo
      [.receive, .receive, .receive] := by
  have calm : (Net.step fiveBytes).Along
      (fun net _ => net.ws.state ≠ .error ∧ net.ws.rbuf.avail ≠ 0)
      awaitingTwo [.receive, .receive, .receive] := by
    decide +kernel
  refine Net.atBoundaries_of_keepsBoundary ⟨by decide, by decide, by decide⟩
    (by decide) ⟨rfl, rfl, rfl, rfl, rfl, rfl⟩
    (fun _ _ => List.not_mem_nil) _ (by simp [NetEvent.Plays]) (calm.mono ?_)
  rintro net event ⟨alive, room⟩
  exact ⟨fun _ _ full => absurd full room,
    fun _ _ _ _ error => absurd error alive⟩

def flood : Os where
  send _ := .accepted 4095
  recv call := if call = 0 then .data 6 else .data 65535
  dial _ := .connected
  tcp _ := .writable
  stream _ := []
  ticks _ := 0
  allocates _ := true

def largeFrame : WireFrame :=
  ⟨0x82, .long, none, List.replicate 70000 0, by
    rw [List.length_replicate]
    decide⟩

def awaitingLarge : Net :=
  { Net.initial with
    ws := { Ws.zero with configured := true, hs := .httpSent }
    incoming := shortResponse ++ [largeFrame].flatMap WireFrame.bytes }

theorem largeFrame_length : largeFrame.bytes.length = 70010 := by
  have payload : largeFrame.payload.length = 70000 :=
    List.length_replicate
  have offset : largeFrame.offset = 10 := by
    rw [largeFrame.offset_eq]
    rfl
  rw [largeFrame.bytes_length, payload, offset]

theorem awaitingLarge_incoming :
    (awaitingLarge.receive flood).incoming = largeFrame.bytes := by
  have receives : awaitingLarge.Receives flood shortResponse := by
    refine ⟨rfl, rfl, nofun, by decide, ⟨6, rfl, ?_⟩, by decide⟩
    exact (List.take_left' (by decide)).symm
  rw [receives.incoming]
  refine (List.drop_left' rfl).trans ?_
  exact List.flatMap_singleton _ _

theorem awaitingLarge_flooded :
    (awaitingLarge.receive flood).Flooded flood largeFrame := by
  constructor
  case configured => decide +kernel
  case hasFd => decide +kernel
  case opened => decide +kernel
  case rbuf => decide +kernel
  case incoming => exact awaitingLarge_incoming
  case eager =>
    intro call later
    have first : 1 ≤ (awaitingLarge.receive flood).calls := by
      decide +kernel
    exact if_neg (by omega)
  case large =>
    rw [largeFrame_length]
    decide
  case small =>
    rw [largeFrame_length]
    decide

theorem not_atBoundaries_flood :
    ¬ (Net.step flood).Always (Net.AtBoundaries [largeFrame]) awaitingLarge
      [.receive, .receive, .receive, .receive] := by
  intro always
  have alive : (awaitingLarge.receive flood).ws.state ≠ .error := by
    decide +kernel
  have flooded := awaitingLarge_flooded
  have four_calls (net : Net) : (Net.step flood).run net
      [.receive, .receive, .receive, .receive] =
        (((net.receive flood).receive flood).receive flood).receive flood :=
    rfl
  have boundaries := always.last
  rw [four_calls] at boundaries
  generalize awaitingLarge.receive flood = net
    at flooded alive boundaries
  rcases boundaries _ _ flooded.parses with error | boundary
  · exact alive error
  · obtain ⟨done, frame, later, split, left⟩ := boundary
    obtain ⟨rfl, rfl, rfl⟩ : done = [] ∧ frame = largeFrame ∧ later = [] := by
      cases done with
      | nil =>
          cases split
          exact ⟨rfl, rfl, rfl⟩
      | cons _ rest =>
          have none_left := (List.cons.inj split).2
          simp at none_left
    rw [List.flatMap_singleton, largeFrame_length] at left
    cases left

end FuryClash.Client
