import FuryClash.Client.Upgrade

namespace FuryClash.Client

open FuryClash.Data

/-! Who the client says that it is: the first frame of a client that has been
configured is its `CLIENT_JOIN`, whatever is called afterwards. -/

def Ws.ids (ws : Ws) : List UInt8 × List UInt8 × Int × Bool :=
  (ws.roomId, ws.playerId, ws.slot, ws.configured)

namespace Net

structure Grows (net net' : Net) : Prop where
  ids : net'.ws.ids = net.ws.ids
  frames : net.sentFrames <+: net'.sentFrames

structure Mute (net net' : Net) : Prop where
  ids : net'.ws.ids = net.ws.ids
  frames : net'.sentFrames = net.sentFrames

variable {os : Os} {net net' net'' : Net}

namespace Mute

theorem trans (first : Mute net net') (second : Mute net' net'') :
    Mute net net'' :=
  ⟨second.ids.trans first.ids, second.frames.trans first.frames⟩

theorem of_trace (ids : net'.ws.ids = net.ws.ids)
    (trace : net'.trace = net.trace) : Mute net net' :=
  ⟨ids, by rw [sentFrames, trace, sentFrames]⟩

theorem effect {effect : NetEffect} (other : effect.sentFrame = none) :
    Mute net (net.effect effect) := by
  refine ⟨rfl, ?_⟩
  rw [sentFrames, effect_trace, List.filterMap_append, List.filterMap_cons,
    other]
  exact List.append_nil _

theorem setState (state : NetState) : Mute net (net.setState state) := by
  have assigned : Mute net
      { net with ws := { net.ws with state := state } } :=
    of_trace rfl rfl
  exact assigned.trans (effect rfl)

theorem send (bytes : List UInt8) : Mute net (net.send os bytes).2 := by
  rw [Net.send]
  split
  next =>
    have called : Mute net net.call := of_trace rfl rfl
    exact called.trans (effect rfl)
  next => exact of_trace rfl rfl
  next => exact of_trace rfl rfl

theorem grows (mute : Mute net net') : Grows net net' :=
  ⟨mute.ids, mute.frames ▸ List.prefix_rfl⟩

end Mute

namespace Grows

theorem refl (net : Net) : Grows net net :=
  ⟨rfl, List.prefix_rfl⟩

theorem trans (first : Grows net net') (second : Grows net' net'') :
    Grows net net'' :=
  ⟨second.ids.trans first.ids, first.frames.trans second.frames⟩

theorem wsSend (payload : List UInt8) : Grows net (net.wsSend os payload) := by
  rw [Net.wsSend]
  split
  next => exact refl net
  next =>
    split
    next => exact refl net
    next =>
      have loop := sendLoop_wrote os net
        (wsEncodeFrame (os.ticks net.calls) payload).length (Nat.le_refl _)
      have looped : Grows net (net.sendLoop os
          (wsEncodeFrame (os.ticks net.calls) payload).length
          (wsEncodeFrame (os.ticks net.calls) payload)).2 := by
        generalize net.sendLoop os _ _ = result at loop ⊢
        obtain ⟨rest, after⟩ := result
        refine Mute.grows ⟨?_, loop.sentFrames⟩
        cases loop with
        | whole => rfl
        | again => rfl
        | failed => rfl
      refine looped.trans ⟨rfl, ?_⟩
      rw [sentFrames, sentFrames, effect_trace, List.filterMap_append]
      exact List.prefix_append _ _

theorem dispatchMessage (payload : Payload) :
    Grows net (net.dispatchMessage os payload) := by
  have way := dispatchMessage_cases os payload net
  have begun : Grows net (net.effect (.dispatched payload.bytes)) :=
    (Mute.effect rfl).grows
  refine begun.trans ?_
  generalize net.dispatchMessage os payload = after at way ⊢
  generalize net.effect (.dispatched payload.bytes) = net at way ⊢
  cases way with
  | ignored => exact refl _
  | waiting => exact (Mute.setState _).grows
  | start _ info roomId =>
      have assigned : Mute net { net with ws := { net.ws with
          matchInfo := info
          matchRoomId := roomId } } := .of_trace rfl rfl
      exact (assigned.trans (.setState _)).grows
  | batch count =>
      refine Mute.grows ?_
      generalize 4 = p
      induction count generalizing net p with
      | zero => exact .of_trace rfl rfl
      | succ count ih =>
          exact (Mute.effect rfl).trans (ih (net.effect _) (p + 6))
  | pong bytes => exact wsSend bytes
  | ended _ info =>
      have assigned : Mute net { net with ws := { net.ws with
          endInfo := info } } := .of_trace rfl rfl
      exact (assigned.trans (.setState _)).grows
  | error => exact (Mute.setState _).grows
  | loadout pick => exact ⟨rfl, List.prefix_rfl⟩

theorem handleFrame (opcode : UInt8) (payload : Payload) :
    Grows net (net.handleFrame os opcode payload) := by
  have begun : Mute net (net.effect (.handed opcode payload.bytes)) :=
    .effect rfl
  rw [Net.handleFrame]
  split
  next => exact begun.grows.trans (dispatchMessage payload)
  split
  next => exact (begun.trans (.setState _)).grows
  split
  next => exact (begun.trans (.send _)).grows
  next => exact begun.grows

theorem parsing (rbuf : RecvBuf) : Grows net (net.parsing rbuf) := by
  have begun : Mute net (net.effect (.parse
      (net.ws.rbuf.bytes.length + net.incoming.length) net.ws.state)) :=
    .effect rfl
  exact begun.grows.trans ⟨rfl, List.prefix_rfl⟩

theorem sliding (opcode : UInt8) (offset plen consumed : Nat)
    (rbuf : RecvBuf) :
    Grows net (net.sliding os opcode offset plen consumed rbuf) :=
  ((parsing rbuf).trans (handleFrame opcode _)).trans
    ⟨rfl, List.prefix_rfl⟩

theorem frameLoop (turns : Nat) : Grows net (net.frameLoop os turns) := by
  induction turns generalizing net with
  | zero => exact refl net
  | succ turns ih =>
      have turned := frameLoop_turned os net turns
      generalize net.frameLoop os (turns + 1) = after at turned ⊢
      cases turned with
      | empty => exact refl net
      | incomplete rbuf => exact parsing rbuf
      | refused rbuf => exact (parsing rbuf).trans (Mute.setState _).grows
      | stopped opcode offset plen consumed rbuf =>
          exact sliding opcode offset plen consumed rbuf
      | next opcode offset plen consumed rbuf =>
          exact (sliding opcode offset plen consumed rbuf).trans ih

end Grows

/-- The ids of the client at the beginning, and the frames since then: there is
one as soon as the connection has opened, and the first one is the join. -/
structure Introduced (base net : Net) : Prop where
  grows : Grows base net
  spoken : net.ws.hs = .opened → net.sentFrames ≠ base.sentFrames
  first : ∀ more, net.sentFrames = base.sentFrames ++ more →
    ∀ sent ∈ more.head?, ∃ ticks,
      sent.bytes = wsEncodeFrame ticks (joinPayload base.ws)

variable {base : Net}

theorem joinPayload_of_grows (grows : Grows base net) :
    joinPayload net.ws = joinPayload base.ws := by
  obtain ⟨roomId, others⟩ := Prod.mk.inj grows.ids
  obtain ⟨playerId, others⟩ := Prod.mk.inj others
  obtain ⟨slot, _⟩ := Prod.mk.inj others
  rw [joinPayload, joinPayload, roomId, playerId, slot]

theorem Introduced.mute (introduced : base.Introduced net)
    (mute : Mute net net')
    (opened : net'.ws.hs = .opened → net.ws.hs = .opened) :
    base.Introduced net' where
  grows := introduced.grows.trans mute.grows
  spoken now := mute.frames ▸ introduced.spoken (opened now)
  first := mute.frames ▸ introduced.first

/-- Behind the first frame the others may be anything. -/
theorem Introduced.further (introduced : base.Introduced net)
    (opened : net.ws.hs = .opened) (grows : Grows net net') :
    base.Introduced net' := by
  obtain ⟨before, isBefore⟩ := introduced.grows.frames
  obtain ⟨behind, isBehind⟩ := grows.frames
  have some_before : before ≠ [] := by
    rintro rfl
    exact introduced.spoken opened (isBefore.symm.trans (List.append_nil _))
  refine ⟨introduced.grows.trans grows, fun _ same => ?_, fun more all => ?_⟩
  · rw [← isBehind, ← isBefore, List.append_assoc,
      List.append_right_eq_self] at same
    exact some_before (List.append_eq_nil_iff.mp same).1
  · have split : more = before ++ behind := by
      rw [← isBehind, ← isBefore, List.append_assoc] at all
      exact (List.append_cancel_left all).symm
    rw [split, List.head?_append_of_ne_nil _ some_before]
    exact introduced.first before isBefore.symm

theorem Introduced.joins (introduced : base.Introduced net)
    (mute : Mute net net') (sends : net'.Sends (joinPayload base.ws)) :
    base.Introduced (net'.wsSend os (joinPayload base.ws)) := by
  obtain ⟨taken, call⟩ := wsSend_sendsFrame os sends
  obtain ⟨before, isBefore⟩ := introduced.grows.frames
  have frames : (net'.wsSend os (joinPayload base.ws)).sentFrames =
      base.sentFrames ++
        (before ++ [⟨net'.frameOf os (joinPayload base.ws), taken⟩]) := by
    rw [call.sentFrames, mute.frames, ← isBefore, List.append_assoc]
  refine ⟨(introduced.grows.trans mute.grows).trans (.wsSend _),
    fun _ same => ?_, fun more all => ?_⟩
  · rw [frames, List.append_right_eq_self] at same
    exact List.concat_ne_nil _ _ same
  · rw [frames] at all
    rw [← List.append_cancel_left all]
    cases before with
    | nil =>
        rintro sent ⟨⟩
        exact ⟨_, rfl⟩
    | cons sent before =>
        rw [List.cons_append, List.head?_cons]
        exact introduced.first (sent :: before) isBefore.symm

structure Speaks (os : Os) (base : Net) : Prop where
  allocates : ∀ call, os.allocates call = true
  fits : (joinPayload base.ws).length ≤ wsSendBuf

theorem Introduced.processFrames (introduced : base.Introduced net) :
    base.Introduced (net.processFrames os) := by
  rw [Net.processFrames]
  split
  next => exact introduced
  next opened => exact introduced.further (not_not.mp opened) (.frameLoop _)

theorem Introduced.openWs (introduced : base.Introduced net)
    (speaks : Speaks os base) (hasFd : net.ws.hasFd = true) (hdrEnd : Nat) :
    base.Introduced (net.openWs os hdrEnd) := by
  have joined : Mute net { net.setRbuf (net.ws.rbuf.consume hdrEnd) with
      ws := { (net.setRbuf (net.ws.rbuf.consume hdrEnd)).ws with
        hs := .opened } } := .of_trace rfl rfl
  have same := joinPayload_of_grows (introduced.grows.trans joined.grows)
  rw [Net.openWs]
  dsimp only
  rw [Net.sendClientJoin, if_pos (speaks.allocates _), same]
  refine (introduced.joins joined ⟨hasFd, rfl, speaks.fits⟩).mute
    (.setState _) id

theorem Introduced.receiveData (introduced : base.Introduced net)
    (speaks : Speaks os base) (hasFd : net.ws.hasFd = true)
    (data : List UInt8) : base.Introduced (net.receiveData os data) := by
  have filled : base.Introduced (net.setRbuf (net.ws.rbuf.append data)) :=
    introduced.mute (.of_trace rfl rfl) id
  rw [Net.receiveData]
  split
  next =>
    split
    next => exact filled
    next hdrEnd _ =>
      split
      next => exact (filled.openWs speaks hasFd hdrEnd).processFrames
      next => exact filled.mute (.setState _) id
  next => exact filled.processFrames

theorem Mute.upgrade : Mute net { net.sendHttpUpgrade os with
    ws := { (net.sendHttpUpgrade os).ws with hs := .httpSent } } := by
  have sent : Mute net (net.sendHttpUpgrade os) := by
    have taken := @Mute.send os net (httpUpgradeRequest net.ws)
    rw [sendHttpUpgrade]
    split
    next result => rwa [result] at taken
    next _ result =>
      rw [result] at taken
      exact taken.trans (.setState _)
  exact sent.trans (.of_trace rfl rfl)

theorem Introduced.receive (introduced : base.Introduced net)
    (speaks : Speaks os base) : base.Introduced (net.receive os) := by
  have way := receive_cases os net
  have called : Mute net net.call := .of_trace rfl rfl
  generalize net.receive os = after at way ⊢
  cases way with
  | absent => exact introduced
  | connecting =>
      rw [finishConnect]
      split
      next => exact introduced.mute called id
      next => exact introduced.mute (called.trans (.setState _)) id
      next => exact introduced.mute (called.trans .upgrade) nofun
  | full => exact introduced.mute (.of_trace rfl rfl) id
  | quiet => exact introduced.mute called id
  | lost => exact introduced.mute (called.trans (.setState _)) id
  | data data receives =>
      have taken : base.Introduced (net.taking data) :=
        introduced.mute (.of_trace rfl rfl) id
      exact taken.receiveData speaks receives.hasFd data

theorem Introduced.dial (introduced : base.Introduced net) :
    base.Introduced (net.dial os) := by
  have called : Mute net net.call := .of_trace rfl rfl
  rw [Net.dial]
  split
  next => exact introduced
  next =>
    dsimp only
    split
    next => exact introduced.mute (called.trans (.setState _)) id
    next => exact introduced.mute (called.trans (.setState _)) id
    next =>
      have dialled : Mute net { net.call with
          ws := { net.call.ws with hasFd := true }
          incoming := os.stream net.calls } := .of_trace rfl rfl
      exact introduced.mute ((dialled.trans (.setState _)).trans .upgrade)
        nofun
    next =>
      have dialled : Mute net { net.call with
          ws := { net.call.ws with hasFd := true }
          incoming := os.stream net.calls } := .of_trace rfl rfl
      exact introduced.mute ((dialled.trans (.setState .connecting)).trans
        (.of_trace rfl rfl)) nofun
    next =>
      exact introduced.mute ((called.trans (.setState _)).trans
        (.setState _)) id

theorem Introduced.connect (introduced : base.Introduced net)
    (configured : base.ws.configured = true) (url : Option (List UInt8)) :
    base.Introduced (net.connect os url) := by
  have still : net.ws.configured = true := by
    have ids := introduced.grows.ids
    simp only [Ws.ids, Prod.mk.injEq] at ids
    exact ids.2.2.2.trans configured
  unfold Net.connect
  rw [if_neg (by simp [still])]
  split
  next =>
    split
    next => exact introduced.mute (.setState _) id
    next parts _ =>
      have addressed : base.Introduced (net.setUrl parts) :=
        introduced.mute (.of_trace rfl rfl) id
      exact addressed.dial
  next => exact introduced.dial

theorem Introduced.disconnect (introduced : base.Introduced net) :
    base.Introduced (net.disconnect os) := by
  have closing (net : Net) : Mute net
      ({ net with ws := { net.ws with
        hs := .closed, state := .idle } }.effect .reset) := by
    have closed : Mute net { net with ws := { net.ws with
        hs := .closed, state := .idle } } := .of_trace rfl rfl
    exact closed.trans (.effect rfl)
  rw [Net.disconnect]
  split
  next =>
    have left : Mute net { (net.send os [0x88, 0x80, 0, 0, 0, 0]).2 with
        ws := { (net.send os [0x88, 0x80, 0, 0, 0, 0]).2.ws with
          hasFd := false } } := (Mute.send _).trans (.of_trace rfl rfl)
    exact introduced.mute (left.trans (closing _)) nofun
  next => exact introduced.mute (closing _) nofun

theorem Introduced.ackStart (introduced : base.Introduced net) :
    base.Introduced net.ackStart := by
  rw [Net.ackStart]
  split
  next => exact introduced.mute (.setState _) id
  next => exact introduced

/-- A frame that is sent only through an open connection. -/
theorem Introduced.wsSend (introduced : base.Introduced net)
    (payload : List UInt8) : base.Introduced (net.wsSend os payload) := by
  by_cases sends : net.Sends payload
  · exact introduced.further sends.2.1 (.wsSend payload)
  · rw [wsSend_of_not_sends sends]
    exact introduced

end Net

/-- Any call of the main loop but a new configuration. -/
def NetEvent.Keeps : NetEvent → Prop
  | .configure _ _ _ _ => False
  | _ => True

namespace Net

variable {os : Os} {base net : Net}

theorem Introduced.step {event : NetEvent} (introduced : base.Introduced net)
    (configured : base.ws.configured = true) (speaks : Speaks os base)
    (keeps : event.Keeps) : base.Introduced (net.step os event) := by
  cases event with
  | configure => exact keeps.elim
  | connect url => exact introduced.connect configured url
  | receive => exact introduced.receive speaks
  | sendInput frame input =>
      rw [Net.step, sendInput]
      split
      next => exact introduced
      next =>
        split
        next => exact introduced
        next => exact introduced.wsSend _
  | sendLoadout loadout =>
      rw [Net.step, sendLoadout]
      split
      next => exact introduced
      next => exact introduced.wsSend _
  | ackStart => exact introduced.ackStart
  | disconnect => exact introduced.disconnect

/-- Whatever is called after a client has been configured, the first frame that
it sends is the join with its ids. -/
theorem introduced_always (configured : base.ws.configured = true)
    (closed : base.ws.hs ≠ .opened) (speaks : Speaks os base)
    {events : List NetEvent} (keeps : ∀ event ∈ events, event.Keeps) :
    (Net.step os).Always base.Introduced base events := by
  have first : base.Introduced base := by
    refine ⟨.refl base, fun opened => absurd opened closed, fun more all => ?_⟩
    rw [List.self_eq_append_right.mp all]
    nofun
  have along : (Net.step os).Along (fun _ event => event.Keeps) base events :=
    Machine.along_of_mem fun event within _ => keeps event within
  exact along.always base.Introduced
    (fun _ _ introduced keeps => introduced.step configured speaks keeps)
    (fun _ introduced => introduced) first

theorem configure_ids (url : Option (List UInt8)) (roomId playerId : List UInt8)
    (slot : Int) (net : Net) :
    (net.configure url roomId playerId slot).ws.ids =
        (roomId.take 63, playerId.take 63, slot, true) ∧
      (net.configure url roomId playerId slot).ws.hs = .idle := by
  cases url with
  | none => exact ⟨rfl, rfl⟩
  | some url =>
      rw [configure]
      dsimp only
      split
      next => exact ⟨rfl, rfl⟩
      next => exact ⟨rfl, rfl⟩

end Net

/-- A client with an address. -/
def addressed : Net :=
  Net.initial.configure (some (asciiBytes "ws://h")) (asciiBytes "R")
    (asciiBytes "RP1") 0

def accepting : Os :=
  { byteByByte with recv := fun _ => .data 3, stream := fun _ => shortResponse }

/-- The join and the loadout go out, before the connection is closed. -/
theorem introduced_always_addressed :
    let calls : List NetEvent := [.connect none, .receive, .receive,
      .sendLoadout 2, .disconnect]
    (Net.step accepting).Always addressed.Introduced addressed calls ∧
      ((Net.step accepting).run addressed calls).sentFrames.map (·.bytes) =
        [wsEncodeFrame 0 (Net.joinPayload addressed.ws),
          wsEncodeFrame 0 [msgLoadout, 2]] := by
  refine ⟨Net.introduced_always rfl (by decide) ⟨fun _ => rfl, by decide⟩ ?_,
    by decide +kernel⟩
  simp only [List.forall_mem_cons]
  exact ⟨trivial, trivial, trivial, trivial, trivial, nofun⟩

end FuryClash.Client
