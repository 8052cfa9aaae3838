import FuryClash.Client.WireFrame
import FuryClash.Data.Framing
import FuryClash.Data.Run

namespace FuryClash.Client

open FuryClash.Data

/-! One upgrade and the frames behind it, however `recv` splits the stream. -/

namespace Os

/-- No `send` fails, and `recv` gives what has arrived. -/
structure Works (os : Os) : Prop where
  send : ∀ call, os.send call ≠ .failed
  recv : ∀ call, os.recv call = .again ∨ ∃ more, os.recv call = .data more

theorem Works.refusal {os : Os} (works : os.Works) (length free calls : Nat) :
    os.refusal length free calls ≠ some .failed := by
  induction length generalizing free calls with
  | zero => exact nofun
  | succ length ih =>
      cases free with
      | succ free => exact ih free calls
      | zero =>
          rw [Os.refusal]
          split
          next more _ => exact ih more (calls + 1)
          next =>
            intro failed
            exact works.send calls (Option.some.inj failed)

end Os

/-- What does not move the client to `NET_ERROR`. -/
structure WireFrame.Harmless (frame : WireFrame) : Prop where
  fits : frame.bytes.length ≤ wsRecvBuf
  noClose : frame.opcode ≠ 0x08
  noError : frame.opcode = 0x01 ∨ frame.opcode = 0x02 →
    frame.payload.head? ≠ some msgError

def WireFrame.message (frame : WireFrame) : UInt8 × List UInt8 :=
  (frame.opcode, frame.payload)

/-- A whole HTTP 101 response and nothing more. -/
structure Is101 (response : List UInt8) : Prop where
  ends : headerEnd response = some response.length
  got : got101 response = true
  fits : response.length < wsRecvBuf

def NetEffect.handedFrame : NetEffect → Option (UInt8 × List UInt8)
  | .handed opcode payload => some (opcode, payload)
  | _ => none

/-- The calls of a client that neither connects anew nor disconnects. -/
def NetEvent.Plays : NetEvent → Prop
  | .receive => True
  | .sendInput _ _ => True
  | .sendLoadout _ => True
  | .ackStart => True
  | _ => False

namespace Net

def handed (net : Net) : List (UInt8 × List UInt8) :=
  net.trace.filterMap NetEffect.handedFrame

/-- The request is sent, and the server will answer with the stream. -/
structure AwaitsUpgrade (stream : List UInt8) (net : Net) : Prop where
  configured : net.ws.configured = true
  hasFd : net.ws.hasFd = true
  hs : net.ws.hs = .httpSent
  rbuf : net.ws.rbuf.bytes = []
  incoming : net.incoming = stream
  handed : net.handed = []

/-- What the client has done with the part of the stream that it has
received. -/
structure InStep (response : List UInt8) (frames : List WireFrame)
    (net : Net) : Prop where
  received : ∃ received, received ≤
      (response ++ frames.flatMap WireFrame.bytes).length ∧
    net.incoming =
      (response ++ frames.flatMap WireFrame.bytes).drop received ∧
    net.handed =
      (arrived WireFrame.bytes frames (received - response.length)).map
        WireFrame.message ∧
    net.ws.rbuf.bytes =
      if received < response.length then response.take received
      else remainder WireFrame.bytes frames (received - response.length)
  head : net.ws.rbuf.bytes.length ≤ wsRecvBuf

structure LoopsEnd (os : Os) : Prop where
  frames : ∀ net turns, net.ws.rbuf.bytes.length ≤ turns →
    frameLoop os turns net = net.frameLoop os net.ws.rbuf.bytes.length
  sends : ∀ net bytes turns, bytes.length ≤ turns →
    sendLoop os turns bytes net = net.sendLoop os bytes.length bytes
  consumed : ∀ buf buf' opcode payload plen consumed,
    wsParseFrame buf = (.frame opcode payload plen consumed, buf') →
      consumed ≤ buf.bytes.length
  header : ∀ bytes hdrEnd, headerEnd bytes = some hdrEnd →
    hdrEnd ≤ bytes.length

variable {os : Os} {net net' : Net} {payload : Payload}

theorem Within.handed (within : Within net net') :
    net'.handed = net.handed := by
  obtain ⟨effects, trace, inner⟩ := within.grows
  have none_handed : effects.filterMap NetEffect.handedFrame = [] := by
    refine List.filterMap_eq_nil_iff.mpr ?_
    intro effect held
    have isInner := inner effect held
    cases effect with
    | handed => exact isInner.elim
    | _ => rfl
  rw [Net.handed, trace, List.filterMap_append, none_handed,
    List.append_nil, Net.handed]

theorem confirmEntries_state (count p : Nat) :
    (net.confirmEntries payload count p).ws.state = net.ws.state := by
  induction count generalizing net p with
  | zero => rfl
  | succ count ih => exact ih (p + 6)

section

variable (works : os.Works)

include works

theorem wsSend_works (bytes : List UInt8) :
    (net.wsSend os bytes).ws.state = net.ws.state := by
  apply wsSend_state
  rintro ⟨_, refusal⟩
  exact works.refusal _ _ _ refusal

theorem dispatchMessage_alive (alive : net.ws.state ≠ .error)
    (noError : payload.plen ≠ 0 → payload.memory 0 ≠ msgError) :
    (net.dispatchMessage os payload).ws.state ≠ .error := by
  have way := dispatchMessage_cases os payload net
  generalize net.dispatchMessage os payload = after at way ⊢
  cases way with
  | ignored => exact alive
  | waiting =>
      intro same
      cases same
  | start =>
      intro same
      cases same
  | batch count =>
      rw [confirmEntries_state]
      exact alive
  | pong bytes =>
      rw [wsSend_works works]
      exact alive
  | ended =>
      intro same
      cases same
  | error some_there isError => exact absurd isError (noError some_there)
  | loadout pick => exact alive

theorem handleFrame_alive {opcode : UInt8} (alive : net.ws.state ≠ .error)
    (noClose : opcode ≠ 0x08)
    (noError : opcode = 0x01 ∨ opcode = 0x02 →
      payload.plen ≠ 0 → payload.memory 0 ≠ msgError) :
    (net.handleFrame os opcode payload).ws.state ≠ .error := by
  rw [handleFrame]
  split
  next message => exact dispatchMessage_alive works alive (noError message)
  split
  next =>
    rw [send]
    split
    next => exact alive
    next => exact alive
    next => exact alive
  next => exact alive

end

structure Opened (frames done todo : List WireFrame) (net : Net) : Prop where
  configured : net.ws.configured = true
  hasFd : net.ws.hasFd = true
  hs : net.ws.hs = .opened
  alive : net.ws.state ≠ .error
  framed : Framed WireFrame.bytes frames done todo net.ws.rbuf.bytes
    net.incoming
  handed : net.handed = done.map WireFrame.message

variable {frames done todo : List WireFrame} {frame : WireFrame}

theorem Opened.within (opened : net.Opened frames done todo)
    (within : Within net net') (alive : net'.ws.state ≠ .error) :
    net'.Opened frames done todo where
  configured := within.configured.trans opened.configured
  hasFd := within.hasFd.trans opened.hasFd
  hs := within.hs.trans opened.hs
  alive := alive
  framed := by
    rw [within.rbuf, within.incoming]
    exact opened.framed
  handed := within.handed.trans opened.handed

theorem handed_parsing (net : Net) (rbuf : RecvBuf) :
    (net.parsing rbuf).handed = net.handed := by
  simp [handed, parsing, NetEffect.handedFrame]

theorem Opened.parsing (opened : net.Opened frames done todo) :
    (net.parsing net.ws.rbuf).Opened frames done todo :=
  ⟨opened.configured, opened.hasFd, opened.hs, opened.alive, opened.framed,
    (handed_parsing _ _).trans opened.handed⟩

theorem short_nil (todo : List WireFrame) : Short WireFrame.bytes todo [] := by
  intro frame _
  exact Nat.lt_of_lt_of_le (by decide) frame.two_le_length

/-- The bytes of a frame that has been handled leave the buffer. -/
theorem consumed_whole {held : List UInt8} (os : Os)
    (whole : net.ws.rbuf.bytes = frame.bytes ++ held) :
    ((net.handling os frame.opcode frame.offset frame.payload.length
      (frame.unmaskIn net.ws.rbuf)).ws.rbuf.consume
        frame.bytes.length).bytes = held := by
  have behind := frame.unmaskIn_bytes whole
  rw [← List.append_assoc, ← List.append_assoc] at behind
  have within := handling_within os net frame.opcode frame.offset
    frame.payload.length (frame.unmaskIn net.ws.rbuf)
  rw [RecvBuf.consume, within.rbuf]
  change (frame.unmaskIn net.ws.rbuf).bytes.drop _ = held
  rw [behind]
  apply List.drop_left'
  rw [frame.bytes_length, WireFrame.offset, List.length_append,
    List.length_append]

theorem framed_sliding {held : List UInt8} (os : Os)
    (framed : Framed WireFrame.bytes frames done (frame :: todo)
      net.ws.rbuf.bytes net.incoming)
    (whole : net.ws.rbuf.bytes = frame.bytes ++ held) :
    let after := net.sliding os frame.opcode frame.offset
      frame.payload.length frame.bytes.length (frame.unmaskIn net.ws.rbuf)
    Framed WireFrame.bytes frames (done ++ [frame]) todo
      after.ws.rbuf.bytes after.incoming := by
  have within := handling_within os net frame.opcode frame.offset
    frame.payload.length (frame.unmaskIn net.ws.rbuf)
  rw [whole] at framed
  dsimp only
  rw [sliding, setRbuf_ws, setRbuf_incoming, consumed_whole os whole,
    within.incoming]
  exact framed.complete

theorem Opened.turn {held : List UInt8} (works : os.Works)
    (harmless : frame.Harmless)
    (opened : net.Opened frames done (frame :: todo))
    (whole : net.ws.rbuf.bytes = frame.bytes ++ held) :
    (net.sliding os frame.opcode frame.offset frame.payload.length
      frame.bytes.length (frame.unmaskIn net.ws.rbuf)).Opened frames
        (done ++ [frame]) todo := by
  let after := net.handling os frame.opcode frame.offset
    frame.payload.length (frame.unmaskIn net.ws.rbuf)
  let payload := payloadAt (frame.unmaskIn net.ws.rbuf) frame.offset
    frame.payload.length
  have payloadBytes : payload.bytes = frame.payload :=
    frame.unmaskIn_payload whole
  have within : Within ((net.parsing (frame.unmaskIn net.ws.rbuf)).effect
      (.handed frame.opcode payload.bytes)) after :=
    handling_within os net frame.opcode frame.offset frame.payload.length _
  have alive : after.ws.state ≠ .error := by
    have before : (net.parsing (frame.unmaskIn net.ws.rbuf)).ws.state ≠
        .error := opened.alive
    refine handleFrame_alive works before harmless.noClose ?_
    intro message some_there first
    apply harmless.noError message
    have front : payload.bytes.head? = some (payload.memory 0) := by
      rw [Payload.bytes, List.head?_map, List.head?_range,
        if_neg some_there]
      rfl
    rw [← payloadBytes, front]
    exact congrArg some first
  have recorded : after.handed = net.handed ++ [frame.message] := by
    have unseen := handed_parsing net (frame.unmaskIn net.ws.rbuf)
    rw [within.handed, Net.handed, effect_trace, List.filterMap_append,
      ← Net.handed, unseen, payloadBytes]
    rfl
  refine ⟨within.configured.trans opened.configured,
    within.hasFd.trans opened.hasFd, within.hs.trans opened.hs, alive,
    framed_sliding os opened.framed whole, ?_⟩
  rw [List.map_append, ← opened.handed]
  exact recorded

theorem frameLoop_opened (works : os.Works)
    (harmless : ∀ frame ∈ frames, frame.Harmless) (turns : Nat)
    (opened : net.Opened frames done todo)
    (enough : net.ws.rbuf.bytes.length ≤ turns) :
    ∃ done todo, (net.frameLoop os turns).Opened frames done todo ∧
      Short WireFrame.bytes todo (net.frameLoop os turns).ws.rbuf.bytes := by
  induction turns generalizing net done todo with
  | zero =>
      have none_held : net.ws.rbuf.bytes = [] :=
        List.length_eq_zero_iff.mp (by omega)
      refine ⟨done, todo, opened, ?_⟩
      rw [frameLoop, none_held]
      exact short_nil todo
  | succ turns ih =>
      by_cases none_held : net.ws.rbuf.bytes = []
      · rw [frameLoop_empty os _ none_held]
        refine ⟨done, todo, opened, ?_⟩
        rw [none_held]
        exact short_nil todo
      obtain ⟨frame, later, rfl, next⟩ := opened.framed.next none_held
      have isHarmless : frame.Harmless := by
        apply harmless
        rw [opened.framed.frames]
        exact List.mem_append_right _ List.mem_cons_self
      rcases next with ⟨held, whole⟩ | ⟨missing, some_missing, cut⟩
      · have turn := opened.turn works isHarmless whole
        have parsed := frame.wsParseFrame_whole whole isHarmless.fits
        have less := sliding_length os parsed
        rw [frameLoop_frame turns none_held parsed]
        dsimp only
        rw [if_neg turn.alive]
        exact ih turn (by omega)
      · have small : frame.bytes.length < 2 ^ 31 :=
          Nat.lt_of_le_of_lt isHarmless.fits (by decide)
        have parsed := frame.wsParseFrame_waits some_missing cut small
        rw [frameLoop_incomplete turns none_held parsed]
        refine ⟨done, frame :: later, opened.parsing, ?_⟩
        intro other head
        cases head
        have positive := List.length_pos_iff.mpr some_missing
        rw [← cut, List.length_append]
        exact Nat.lt_add_of_pos_right positive

end Net

theorem headerEnd_bounds {bytes : List UInt8} {hdrEnd : Nat}
    (found : headerEnd bytes = some hdrEnd) :
    4 ≤ hdrEnd ∧ hdrEnd ≤ bytes.length := by
  induction bytes generalizing hdrEnd with
  | nil => cases found
  | cons byte rest ih =>
      rw [headerEnd] at found
      split at found
      next here =>
        cases found
        have front := List.isPrefixOf_iff_prefix.mp here
        exact ⟨Nat.le_refl 4, front.length_le⟩
      next =>
        obtain ⟨earlier, later, rfl⟩ := Option.map_eq_some_iff.mp found
        have bounds := ih later
        rw [List.length_cons]
        omega

theorem headerEnd_append {bytes : List UInt8} {hdrEnd : Nat}
    (found : headerEnd bytes = some hdrEnd) (more : List UInt8) :
    headerEnd (bytes ++ more) = some hdrEnd := by
  induction bytes generalizing hdrEnd with
  | nil => cases found
  | cons byte rest ih =>
      have bounds := headerEnd_bounds found
      rw [headerEnd] at found
      rw [List.cons_append, headerEnd]
      split at found
      next here =>
        have front := List.isPrefixOf_iff_prefix.mp here
        have still : [13, 10, 13, 10] <+: byte :: (rest ++ more) :=
          front.trans (List.prefix_append _ more)
        rw [if_pos (List.isPrefixOf_iff_prefix.mpr still)]
        exact found
      next elsewhere =>
        obtain ⟨earlier, later, rfl⟩ := Option.map_eq_some_iff.mp found
        rw [if_neg, ih later]
        · rfl
        · intro here
          apply elsewhere
          have front := List.isPrefixOf_iff_prefix.mp here
          exact List.isPrefixOf_iff_prefix.mpr
            (List.prefix_of_prefix_length_le front
              (List.prefix_append (byte :: rest) more)
              (bounds.1.trans bounds.2))

theorem headerEnd_cut {bytes missing : List UInt8}
    (ends : headerEnd (bytes ++ missing) = some (bytes ++ missing).length)
    (some_missing : missing ≠ []) : headerEnd bytes = none := by
  cases found : headerEnd bytes with
  | none => rfl
  | some hdrEnd =>
      have bounds := headerEnd_bounds found
      have whole := Option.some.inj
        ((headerEnd_append found missing).symm.trans ends)
      have positive := List.length_pos_iff.mpr some_missing
      rw [List.length_append] at whole
      omega

namespace Net

variable {os : Os} {net net' : Net} {response wire data : List UInt8}
  {frames done todo : List WireFrame}

/-- A part of the response has been received. -/
structure Waiting (response wire : List UInt8) (net : Net) : Prop where
  configured : net.ws.configured = true
  hasFd : net.ws.hasFd = true
  hs : net.ws.hs = .httpSent
  handed : net.handed = []
  cut : ∃ missing, missing ≠ [] ∧ net.ws.rbuf.bytes ++ missing = response ∧
    net.incoming = missing ++ wire

theorem Waiting.within (waiting : net.Waiting response wire)
    (within : Within net net') : net'.Waiting response wire where
  configured := within.configured.trans waiting.configured
  hasFd := within.hasFd.trans waiting.hasFd
  hs := within.hs.trans waiting.hs
  handed := within.handed.trans waiting.handed
  cut := by
    rw [within.rbuf, within.incoming]
    exact waiting.cut

theorem Receives.split (receives : net.Receives os data) :
    net.incoming = data ++ (net.taking data).incoming ∧
      (net.ws.rbuf.append data).bytes = net.ws.rbuf.bytes ++ data := by
  obtain ⟨more, _, taken⟩ := receives.given
  rw [recvData] at taken
  constructor
  · have front : data <+: net.incoming := by
      rw [taken]
      exact List.take_prefix _ _
    obtain ⟨rest, whole⟩ := front
    change net.incoming = data ++ net.incoming.drop data.length
    rw [← whole, List.drop_left]
  · have short : data.length ≤ net.ws.rbuf.avail := by
      rw [taken, List.length_take]
      omega
    rw [RecvBuf.append]
    dsimp only
    rw [List.take_of_length_le short]

theorem processFrames_opened (works : os.Works)
    (harmless : ∀ frame ∈ frames, frame.Harmless)
    (opened : net.Opened frames done todo) :
    ∃ done todo, (net.processFrames os).Opened frames done todo ∧
      Short WireFrame.bytes todo (net.processFrames os).ws.rbuf.bytes := by
  rw [processFrames, if_neg (not_not.mpr opened.hs)]
  exact frameLoop_opened works harmless _ opened (Nat.le_refl _)

/-- Between two calls. -/
def Steady (response : List UInt8) (frames : List WireFrame) (net : Net) :
    Prop :=
  net.Waiting response (frames.flatMap WireFrame.bytes) ∨
    ∃ done todo, net.Opened frames done todo ∧
      Short WireFrame.bytes todo net.ws.rbuf.bytes

/-- The response is still not complete, or the call ends with the loop over
what lies behind it. -/
theorem Waiting.receive_cases (is101 : Is101 response)
    (waiting : net.Waiting response wire) (receives : net.Receives os data) :
    (net.receive os).Waiting response wire ∧
        (net.receive os).trace = net.trace ∨
      net.receive os = (((net.atJoin data response.length).sendClientJoin
          os).setState .waiting).processFrames os ∧
        (net.atJoin data response.length).ws.rbuf.bytes ++
          (net.atJoin data response.length).incoming = wire := by
  obtain ⟨missing, some_missing, cut, incoming⟩ := waiting.cut
  obtain ⟨arriving, filled⟩ := receives.split
  have stream : (net.ws.rbuf.append data).bytes ++
      (net.taking data).incoming = response ++ wire := by
    rw [filled, List.append_assoc, ← arriving, incoming, ← cut,
      List.append_assoc]
  have upgrade {held : List UInt8}
      (whole : (net.ws.rbuf.append data).bytes = response ++ held)
      (behind : held ++ (net.taking data).incoming = wire) :
      net.receive os = (((net.atJoin data response.length).sendClientJoin
          os).setState .waiting).processFrames os ∧
        (net.atJoin data response.length).ws.rbuf.bytes ++
          (net.atJoin data response.length).incoming = wire := by
    have found : headerEnd (net.ws.rbuf.append data).bytes =
        some response.length := by
      rw [whole]
      exact headerEnd_append is101.ends held
    have got : got101 ((net.ws.rbuf.append data).bytes.take
        response.length) = true := by
      rw [whole, List.take_left]
      exact is101.got
    refine ⟨receives.upgrade waiting.hs found got, ?_⟩
    change (net.ws.rbuf.append data).bytes.drop response.length ++
      (net.taking data).incoming = wire
    rw [whole, List.drop_left]
    exact behind
  rcases List.append_eq_append_iff.mp stream with
    ⟨later, longer, after⟩ | ⟨held, whole, behind⟩
  · by_cases none_later : later = []
    · subst none_later
      rw [List.append_nil] at longer
      have whole : (net.ws.rbuf.append data).bytes = response ++ [] := by
        rw [longer, List.append_nil]
      exact .inr (upgrade whole after)
    · have none_found : headerEnd (net.ws.rbuf.append data).bytes = none := by
        apply headerEnd_cut _ none_later
        rw [← longer]
        exact is101.ends
      have same : net.receive os =
          (net.taking data).setRbuf (net.ws.rbuf.append data) := by
        rw [receives.receive, receiveData]
        split
        next =>
          split
          next => rfl
          next hdrEnd found => cases none_found.symm.trans found
        next opened => exact absurd waiting.hs opened
      rw [same]
      exact .inl ⟨⟨waiting.configured, waiting.hasFd, waiting.hs,
        waiting.handed, later, none_later, longer.symm, after⟩, rfl⟩
  · exact .inr (upgrade whole behind.symm)

theorem Waiting.receive (works : os.Works) (is101 : Is101 response)
    (harmless : ∀ frame ∈ frames, frame.Harmless)
    (waiting : net.Waiting response (frames.flatMap WireFrame.bytes))
    (receives : net.Receives os data) :
    (net.receive os).Steady response frames := by
  rcases waiting.receive_cases is101 receives with
    ⟨still, _⟩ | ⟨called, behind⟩
  · exact .inl still
  · have within := Within.upgrade os data response.length net
    have opened : Opened frames [] frames
        (((net.atJoin data response.length).sendClientJoin os).setState
          .waiting) := by
      refine ⟨within.configured.trans waiting.configured,
        within.hasFd.trans waiting.hasFd, within.hs, nofun, ?_,
        within.handed.trans waiting.handed⟩
      rw [within.rbuf, within.incoming]
      exact ⟨rfl, behind⟩
    rw [called]
    exact .inr (processFrames_opened works harmless opened)

theorem Opened.receive (works : os.Works)
    (harmless : ∀ frame ∈ frames, frame.Harmless)
    (opened : net.Opened frames done todo)
    (receives : net.Receives os data) :
    (net.receive os).Steady response frames := by
  obtain ⟨arriving, filled⟩ := receives.split
  have framed := opened.framed
  rw [arriving] at framed
  have received := framed.receive
  rw [← filled] at received
  have openedThen : Opened frames done todo
      ((net.taking data).setRbuf (net.ws.rbuf.append data)) :=
    ⟨opened.configured, opened.hasFd, opened.hs, opened.alive, received,
      opened.handed⟩
  rw [receives.receive, receiveData]
  split
  next httpSent => cases opened.hs.symm.trans httpSent
  next => exact .inr (processFrames_opened works harmless openedThen)

theorem Waiting.room (is101 : Is101 response)
    (waiting : net.Waiting response wire) : net.ws.rbuf.avail ≠ 0 := by
  obtain ⟨missing, some_missing, cut, _⟩ := waiting.cut
  have fits := is101.fits
  rw [← cut, List.length_append] at fits
  rw [RecvBuf.avail]
  omega

theorem Steady.room (is101 : Is101 response)
    (harmless : ∀ frame ∈ frames, frame.Harmless)
    (steady : net.Steady response frames) : net.ws.rbuf.avail ≠ 0 := by
  rcases steady with waiting | ⟨done, todo, opened, short⟩
  · exact waiting.room is101
  · suffices room : net.ws.rbuf.bytes.length < wsRecvBuf by
      rw [RecvBuf.avail]
      omega
    cases todo with
    | nil =>
        have none_left := (List.append_eq_nil_iff.mp opened.framed.bytes).1
        rw [none_left]
        decide
    | cons frame later =>
        have isHarmless : frame.Harmless := by
          apply harmless
          rw [opened.framed.frames]
          exact List.mem_append_right _ List.mem_cons_self
        exact Nat.lt_of_lt_of_le (short frame rfl) isHarmless.fits

theorem Steady.within (steady : net.Steady response frames)
    (within : Within net net')
    (alive : net.ws.state ≠ .error → net'.ws.state ≠ .error) :
    net'.Steady response frames := by
  rcases steady with waiting | ⟨done, todo, opened, short⟩
  · exact .inl (waiting.within within)
  · refine .inr ⟨done, todo, opened.within within (alive opened.alive), ?_⟩
    rw [within.rbuf]
    exact short

theorem Steady.receive (works : os.Works) (is101 : Is101 response)
    (harmless : ∀ frame ∈ frames, frame.Harmless)
    (steady : net.Steady response frames) :
    (net.receive os).Steady response frames := by
  have way := receive_cases os net
  generalize called : net.receive os = after at way
  cases way with
  | absent => exact steady
  | connecting connecting =>
      rcases steady with waiting | ⟨_, _, opened, _⟩
      · cases waiting.hs.symm.trans connecting
      · cases opened.hs.symm.trans connecting
  | full full => exact absurd full (steady.room is101 harmless)
  | quiet => exact steady.within (.of_trace rfl rfl rfl rfl rfl rfl) id
  | lost lost =>
      rcases works.recv net.calls with again | ⟨more, data⟩
      · rw [again] at lost
        rcases lost with failed | closed
        · cases failed
        · cases closed
      · rw [data] at lost
        rcases lost with failed | closed
        · cases failed
        · cases closed
  | data data receives =>
      rw [← receives.receive]
      rcases steady with waiting | ⟨_, _, opened, _⟩
      · exact waiting.receive works is101 harmless receives
      · exact opened.receive works harmless receives

theorem Steady.step {event : NetEvent} (works : os.Works)
    (is101 : Is101 response) (harmless : ∀ frame ∈ frames, frame.Harmless)
    (plays : event.Plays) (steady : net.Steady response frames) :
    (Net.step os net event).Steady response frames := by
  cases event with
  | receive => exact steady.receive works is101 harmless
  | sendInput frame input =>
      rw [Net.step, sendInput]
      split
      next => exact steady
      split
      next => exact steady
      next =>
        refine steady.within (.wsSend _) ?_
        rw [wsSend_works works]
        exact id
  | sendLoadout loadout =>
      rw [Net.step, sendLoadout]
      split
      next => exact steady
      next =>
        refine steady.within (.wsSend _) ?_
        rw [wsSend_works works]
        exact id
  | ackStart =>
      rw [Net.step, ackStart]
      split
      next => exact steady.within (.setState _) nofun
      next => exact steady
  | _ => exact plays.elim

theorem arrived_zero (frames : List WireFrame) :
    arrived WireFrame.bytes frames 0 = [] := by
  cases frames with
  | nil => rfl
  | cons frame rest =>
      have two := frame.two_le_length
      rw [arrived, if_neg (by omega)]

theorem Steady.inStep (steady : net.Steady response frames) :
    net.InStep response frames := by
  refine ⟨?_, net.ws.rbuf.fits⟩
  rcases steady with waiting | ⟨done, todo, opened, short⟩
  · obtain ⟨missing, some_missing, cut, incoming⟩ := waiting.cut
    have positive := List.length_pos_iff.mpr some_missing
    have length : net.ws.rbuf.bytes.length + missing.length =
        response.length := by
      rw [← cut, List.length_append]
    refine ⟨net.ws.rbuf.bytes.length, ?_, ?_, ?_, ?_⟩
    · rw [List.length_append]
      omega
    · rw [← cut, List.append_assoc, List.drop_left]
      exact incoming
    · rw [Nat.sub_eq_zero_of_le (by omega), arrived_zero]
      exact waiting.handed
    · rw [if_pos (by omega), ← cut, List.take_left]
  · obtain ⟨isDone, isHeld⟩ := opened.framed.arrived_eq short
    have total := opened.framed.length
    refine ⟨response.length + ((done.flatMap WireFrame.bytes).length +
      net.ws.rbuf.bytes.length), ?_, ?_, ?_, ?_⟩
    · rw [List.length_append]
      omega
    · rw [opened.framed.frames, List.flatMap_append, ← opened.framed.bytes,
        ← List.append_assoc, ← List.append_assoc]
      symm
      apply List.drop_left'
      rw [List.length_append, List.length_append, Nat.add_assoc]
    · rw [Nat.add_sub_cancel_left, ← isDone]
      exact opened.handed
    · rw [if_neg (by omega), Nat.add_sub_cancel_left]
      exact isHeld

theorem loopsEnd (os : Os) : LoopsEnd os where
  frames net turns enough :=
    frameLoop_turns os net turns _ enough (Nat.le_refl _)
  sends net _ turns enough :=
    sendLoop_turns os net turns _ enough (Nat.le_refl _)
  consumed _ _ _ _ _ _ parsed := (wsParseFrame_consumed parsed).2.1
  header _ _ found := (headerEnd_bounds found).2

theorem AwaitsUpgrade.waiting (is101 : Is101 response)
    (awaits : net.AwaitsUpgrade (response ++ wire)) :
    net.Waiting response wire := by
  have some_response : response ≠ [] := by
    intro none_there
    have ends := is101.ends
    rw [none_there] at ends
    cases ends
  exact ⟨awaits.configured, awaits.hasFd, awaits.hs, awaits.handed, response,
    some_response, by rw [awaits.rbuf, List.nil_append], awaits.incoming⟩

/-- However the stream is split, the client is in step with it. -/
theorem chunks_in_step (works : os.Works) (is101 : Is101 response)
    (harmless : ∀ frame ∈ frames, frame.Harmless)
    (awaits : net.AwaitsUpgrade (response ++ frames.flatMap WireFrame.bytes))
    (events : List NetEvent) (plays : ∀ event ∈ events, event.Plays) :
    (Net.step os).Always (InStep response frames) net events ∧
      LoopsEnd os := by
  refine ⟨?_, loopsEnd os⟩
  have legal : (Net.step os).Along (fun _ event => event.Plays) net
      events :=
    Machine.along_of_mem fun event held _ => plays event held
  exact legal.always (Steady response frames)
    (fun _ _ steady plays => steady.step works is101 harmless plays)
    (fun _ steady => steady.inStep) (.inl (awaits.waiting is101))

end Net

def fiveBytes : Os where
  send _ := .accepted 4095
  recv _ := .data 4
  dial _ := .connected
  tcp _ := .writable
  stream _ := []
  ticks _ := 0
  allocates _ := true

def waitingFrame : WireFrame :=
  ⟨0x82, .short, none, [msgWaiting], by decide⟩

def loadoutFrame : WireFrame :=
  ⟨0x82, .long, some ⟨1, 2, 3, 4⟩, [msgServerLoadout, 2], by decide⟩

def shortResponse : List UInt8 := asciiBytes "101\r\n\r\n"

def awaitingTwo : Net :=
  { Net.initial with
    ws := { Ws.zero with configured := true, hs := .httpSent }
    incoming := shortResponse ++
      [waitingFrame, loadoutFrame].flatMap WireFrame.bytes }

theorem chunks_in_step_fiveBytes :
    (Net.step fiveBytes).Always
        (Net.InStep shortResponse [waitingFrame, loadoutFrame]) awaitingTwo
        [.receive, .sendLoadout 1, .receive, .receive, .receive] ∧
      Net.LoopsEnd fiveBytes := by
  have works : fiveBytes.Works := by
    constructor
    · intro _ failed
      cases failed
    · intro _
      exact .inr ⟨4, rfl⟩
  refine Net.chunks_in_step works ⟨by decide, by decide, by decide⟩ ?_
    ⟨rfl, rfl, rfl, rfl, rfl, rfl⟩ _ ?_
  · simp only [List.forall_mem_cons]
    refine ⟨⟨by decide, by decide, by decide⟩,
      ⟨by decide, by decide, by decide⟩, nofun⟩
  · simp [NetEvent.Plays]

end FuryClash.Client
