import FuryClash.System.Link

namespace FuryClash.System

open FuryClash.Client
open FuryClash.Data
open FuryClash.Server (RelayRoom ServerMsg Sends)

/-! Every input that a client puts on the wire reaches the rollback engine of
the other one, in order and once. -/

def entries (frames : List WireFrame) : List (Int × UInt16) :=
  frames.flatMap fun frame => confirms frame.message

theorem entries_append (first second : List WireFrame) :
    entries (first ++ second) = entries first ++ entries second :=
  List.flatMap_append

theorem own_bytes (bytes : List UInt8) : (Payload.own bytes).bytes = bytes := by
  apply List.ext_getElem
  · exact Payload.bytes_length _
  · intro i _ inside
    rw [← List.getD_eq_getElem _ 0 inside]
    simp [Payload.bytes, Payload.own]

theorem relayBytes_eq (seq frame : Nat) (value : UInt16) :
    Server.relayBytes seq (frame, value.toNat) =
      batchBytes seq [(frame, value)] := by
  rw [Server.relayBytes, batchBytes, List.flatMap_singleton, entryBytes,
    List.append_assoc, List.append_assoc]
  rfl

theorem batchEntries_relayBytes (seq : Nat) {frame : Nat}
    (fits : frame < 2 ^ 31) (value : UInt16) :
    batchEntries (Server.relayBytes seq (frame, value.toNat)) =
      [((frame : Int), value)] := by
  have can : openNet.CanSend := ⟨rfl, rfl⟩
  have whole := own_bytes (batchBytes seq [(frame, value)])
  have fit : ∀ entry ∈ [(frame, value)], entry.1 < 2 ^ 31 :=
    List.forall_mem_singleton.mpr fits
  have confirmed : (openNet.dispatchMessage fullOnce
      (Payload.own (batchBytes seq [(frame, value)]))).confirmed =
        openNet.confirmed ++ [((frame : Int), value)] :=
    Net.dispatchMessage_confirms (by simp) fit whole
  obtain ⟨effects, trace, replies⟩ := Net.dispatchMessage_replies fullOnce
    (Payload.own (batchBytes seq [(frame, value)])) can
  rw [Net.confirmed, trace, List.filterMap_append, replies.confirmed, whole]
    at confirmed
  rw [relayBytes_eq]
  exact confirmed

theorem offset_le (frame : WireFrame) : frame.offset ≤ 14 := by
  have width : frame.form.width ≤ 8 := by
    cases frame.form <;> decide
  have mask : frame.maskBytes.length ≤ 4 := by
    rw [WireFrame.maskBytes]
    split
    next => exact Nat.zero_le 4
    next => exact Nat.le_refl 4
  rw [WireFrame.offset, frame.head_length]
  omega

theorem Transport.Frames.plain {transport : Transport}
    (framing : transport.Frames) {bytes : List UInt8}
    (short : bytes.length ≤ 10) (noError : bytes.head? ≠ some msgError) :
    (transport.frame bytes).Harmless ∧
      (transport.frame bytes).opcode = 0x02 := by
  have offset := offset_le (transport.frame bytes)
  have payload := framing.payload bytes (by omega)
  refine ⟨⟨?_, ?_, ?_⟩, framing.binary bytes⟩
  · rw [WireFrame.bytes_length, payload, wsRecvBuf]
    omega
  · rw [framing.binary]
    decide
  · rw [payload]
    exact fun _ => noError

theorem Transport.Frames.entries {transport : Transport}
    (framing : transport.Frames) {bytes : List UInt8}
    (short : bytes.length ≤ 10) :
    entries [transport.frame bytes] = batchEntries bytes := by
  have message : isMessage (transport.frame bytes).message :=
    .inr (framing.binary bytes)
  rw [System.entries, List.flatMap_singleton, confirms, if_pos message,
    WireFrame.message, framing.payload bytes (by omega)]

namespace Link

variable {transport : Transport} {link : Link} {slot : Slot}
  {sent : List (Int × UInt16)} {done todo : List WireFrame}
  {posts : List Post} {info : Server.SlotInfo}

/-- One direction, from the client of the slot to the other one: what it has
sent is confirmed, in the frames that are on their way down, or in the frames
that are on their way up. The relay counts the first two. -/
structure Lane (link : Link) (slot : Slot) (sent : List (Int × UInt16))
    (done todo : List WireFrame) (posts : List Post)
    (info : Server.SlotInfo) : Prop where
  upstream : link.upstream slot = posts.flatMap Post.bytes
  reading : (link.client slot.other).Reading done todo
  seated : link.room.slots slot.other = some info
  pending : info.pendingFrames = []
  seq : info.seq = (entries (done ++ todo)).length
  flow : sent = entries (done ++ todo) ++ passed posts

/-- The server has not thrown. -/
structure Running (link : Link) (sent : Slot → List (Int × UInt16)) :
    Prop where
  thrown : link.thrown = false
  active : link.room.state = .active
  apart : ∀ first ∈ link.room.slots .p1, ∀ second ∈ link.room.slots .p2,
    first.ws ≠ second.ws
  lanes : ∀ slot, ∃ done todo posts info,
    Lane link slot (sent slot) done todo posts info

/-- It has, for an input that its counter could not number. -/
structure Halted (link : Link) (sent : Slot → List (Int × UInt16)) :
    Prop where
  thrown : link.thrown = true
  overflow : ∃ slot, 2 ^ 16 < (sent slot).length
  lanes : ∀ slot, ∃ done todo,
    (link.client slot.other).Reading done todo ∧
      entries (done ++ todo) <+: sent slot

theorem passed_append (first second : List Post) :
    passed (first ++ second) = passed first ++ passed second :=
  List.filterMap_append

variable {os : Slot → Os} {event : NetEvent}

theorem clientStep_self :
    (clientStep os slot event link).client slot =
      Net.step (os slot) (link.client slot) event :=
  Function.update_self ..

theorem clientStep_of_ne {which : Slot} (ne : which ≠ slot) :
    (clientStep os slot event link).client which = link.client which :=
  Function.update_of_ne ne ..

theorem clientStep_upstream_self :
    (clientStep os slot event link).upstream slot = link.upstream slot ++
      (Net.step (os slot) (link.client slot) event).accepted.drop
        (link.client slot).accepted.length :=
  Function.update_self ..

theorem clientStep_upstream_of_ne {which : Slot} (ne : which ≠ slot) :
    (clientStep os slot event link).upstream which = link.upstream which :=
  Function.update_of_ne ne ..

theorem Lane.sends (lane : Lane link slot sent done todo posts info)
    {new : List Post} (plays : Plays (link.client slot)
      (Net.step (os slot) (link.client slot) event) new) :
    Lane (clientStep os slot event link) slot (sent ++ passed new) done todo
      (posts ++ new) info where
  upstream := by
    rw [clientStep_upstream_self, lane.upstream, plays.bytes,
      List.flatMap_append]
  reading := by
    rw [clientStep_of_ne (Slot.other_ne slot)]
    exact lane.reading
  seated := lane.seated
  pending := lane.pending
  seq := lane.seq
  flow := by rw [lane.flow, passed_append, List.append_assoc]

theorem Lane.receives (lane : Lane link slot sent done todo posts info)
    {done' todo' : List WireFrame} (same : done' ++ todo' = done ++ todo)
    (reading : (Net.step (os slot.other) (link.client slot.other)
      event).Reading done' todo') :
    Lane (clientStep os slot.other event link) slot sent done' todo' posts
      info where
  upstream := by
    rw [clientStep_upstream_of_ne (Slot.ne_other slot)]
    exact lane.upstream
  reading := by
    rw [clientStep_self]
    exact reading
  seated := lane.seated
  pending := lane.pending
  seq := by rw [same, lane.seq]
  flow := by rw [same, lane.flow]

theorem posted_other (slot : Slot) (link : Link) (event : NetEvent) :
    link.posted os slot (.client slot.other event) = none := by
  rw [posted.eq_def]
  split
  next which frame input isInput =>
    cases isInput
    exact if_neg fun both => Slot.other_ne slot both.1
  next => rfl

theorem Running.clientStep {sent : Slot → List (Int × UInt16)}
    (running : Running link sent) (works : ∀ slot, (os slot).Works)
    (which : Slot) (clean : link.Clean os (.client which event)) :
    Running (clientStep os which event link) fun slot =>
      sent slot ++ (link.posted os slot (.client which event)).toList where
  thrown := running.thrown
  active := running.active
  apart := running.apart
  lanes slot := by
    by_cases same : slot = which
    · subst same
      obtain ⟨done, todo, posts, info, lane⟩ := running.lanes slot
      obtain ⟨doneBack, todoBack, _, _, back⟩ := running.lanes slot.other
      have reading := back.reading
      rw [Slot.other_other] at reading
      have stepped := step_stepped (works slot) reading clean.1 clean.2.1
      obtain ⟨new, plays, passes⟩ := stepped.posts clean
      rw [← passes]
      exact ⟨done, todo, _, info, lane.sends plays⟩
    · have opposite : which = slot.other :=
        Slot.eq_other_of_ne (Ne.symm same)
      subst opposite
      obtain ⟨done, todo, posts, info, lane⟩ := running.lanes slot
      have stepped := step_stepped (works slot.other) lane.reading clean.1
        clean.2.1
      obtain ⟨done', todo', kept, reading⟩ := stepped.reads
      rw [posted_other, Option.toList_none, List.append_nil]
      exact ⟨done', todo', posts, info, lane.receives kept reading⟩

theorem Halted.clientStep {sent : Slot → List (Int × UInt16)}
    (halted : Halted link sent) (works : ∀ slot, (os slot).Works)
    (which : Slot) (clean : link.Clean os (.client which event)) :
    Halted (clientStep os which event link) fun slot =>
      sent slot ++ (link.posted os slot (.client which event)).toList where
  thrown := halted.thrown
  overflow := by
    obtain ⟨slot, full⟩ := halted.overflow
    refine ⟨slot, ?_⟩
    rw [List.length_append]
    omega
  lanes slot := by
    obtain ⟨done, todo, reading, front⟩ := halted.lanes slot
    have longer := front.trans (List.prefix_append (sent slot)
      (link.posted os slot (.client which event)).toList)
    by_cases same : which = slot.other
    · subst same
      have stepped := step_stepped (works slot.other) reading clean.1 clean.2.1
      obtain ⟨done', todo', kept, after⟩ := stepped.reads
      refine ⟨done', todo', ?_, ?_⟩
      · rw [clientStep_self]
        exact after
      · rw [kept]
        exact longer
    · refine ⟨done, todo, ?_, longer⟩
      rw [clientStep_of_ne (Ne.symm same)]
      exact reading

theorem push_client (sends : Sends) (link : Link) {info : Server.SlotInfo}
    (seated : link.room.slots slot = some info) :
    (push transport sends link).client slot =
      { link.client slot with
        incoming := (link.client slot).incoming ++
          (framesTo transport info.ws sends).flatMap WireFrame.bytes } := by
  simp only [push, seated]

theorem framesTo_single (ws : Server.SocketRef) {target : Server.SocketRef}
    {msg : ServerMsg} {bytes : List UInt8}
    (running : runningBytes msg = some bytes) :
    framesTo transport ws [(target, msg)] =
      if target = ws then [transport.frame bytes] else [] := by
  rw [framesTo]
  split
  next same => simp [same, running]
  next other => simp [other]

variable {sent : Slot → List (Int × UInt16)} {post : Post} {rest : List Post}

theorem passed_cons (post : Post) (rest : List Post) :
    passed (post :: rest) = post.2.passes.toList ++ passed rest := by
  rw [passed, List.filterMap_cons]
  cases post.2.passes <;> rfl

def behind (slot : Slot) (rest : List Post) (room : RelayRoom)
    (link : Link) : Link :=
  { link with
    upstream := Function.update link.upstream slot (rest.flatMap Post.bytes)
    room := room }

theorem message_of_post (runtime : JsRuntime) (framing : transport.Frames)
    (upstream : link.upstream slot = (post :: rest).flatMap Post.bytes) :
    message runtime transport slot link =
      match link.room.handleMessage runtime (fun _ => true) ⟨slot, true⟩
          post.2.bytes with
      | .error _ => { link.behind slot rest link.room with thrown := true }
      | .ok (room, sends) =>
          push transport sends (link.behind slot rest room) := by
  have whole := framing.whole post.1 post.2.bytes (rest.flatMap Post.bytes)
    post.2.bytes_length
  have dropped : (link.upstream slot).drop
      (wsEncodeFrame post.1 post.2.bytes).length = rest.flatMap Post.bytes := by
    rw [upstream, List.flatMap_cons]
    exact List.drop_left
  rw [List.flatMap_cons] at upstream
  rw [message, upstream, Post.bytes, whole]
  dsimp only
  rw [← Post.bytes, ← upstream, Post.bytes, dropped]
  rfl

theorem Running.forwards (running : Running link sent)
    (lane : Lane link slot (sent slot) done todo (post :: rest) info)
    {next : RelayRoom} {info' : Server.SlotInfo} {sends : Sends}
    (state : next.state = .active)
    (own : next.slots slot = link.room.slots slot)
    (seated : next.slots slot.other = some info') (ws : info'.ws = info.ws)
    (pending : info'.pendingFrames = [])
    (only : ∀ ws ≠ info.ws, framesTo transport ws sends = [])
    (plain : ∀ frame ∈ framesTo transport info.ws sends,
      frame.Harmless ∧ frame.opcode = 0x02)
    (seq : info'.seq =
      info.seq + (entries (framesTo transport info.ws sends)).length)
    (passes : entries (framesTo transport info.ws sends) =
      post.2.passes.toList) :
    Running (push transport sends (link.behind slot rest next)) sent := by
  obtain ⟨doneBack, todoBack, postsBack, infoBack, back⟩ :=
    running.lanes slot.other
  have seatedBack := back.seated
  have readingBack := back.reading
  rw [Slot.other_other] at seatedBack readingBack
  have foreign : infoBack.ws ≠ info.ws := by
    cases slot with
    | p1 => exact running.apart _ seatedBack _ lane.seated
    | p2 => exact (running.apart _ lane.seated _ seatedBack).symm
  have toOwn := @push_client transport slot sends
    (link.behind slot rest next) infoBack (own.trans seatedBack)
  have toOther := @push_client transport slot.other sends
    (link.behind slot rest next) info' seated
  rw [only _ foreign, List.flatMap_nil, List.append_nil] at toOwn
  rw [ws] at toOther
  have onward : Lane (push transport sends (link.behind slot rest next)) slot
      (sent slot) done (todo ++ framesTo transport info.ws sends) rest
      info' := by
    refine ⟨Function.update_self .., ?_, seated, pending, ?_, ?_⟩
    · rw [toOther]
      exact lane.reading.extend plain
    · rw [seq, lane.seq, ← List.append_assoc,
        entries_append (done ++ todo), List.length_append]
    · rw [lane.flow, passed_cons, ← List.append_assoc, ← List.append_assoc,
        entries_append (done ++ todo), passes]
  have backward : Lane (push transport sends (link.behind slot rest next))
      slot.other (sent slot.other) doneBack todoBack postsBack infoBack := by
    refine ⟨?_, ?_, ?_, back.pending, back.seq, back.flow⟩
    · exact (Function.update_of_ne (Slot.other_ne slot) _ _).trans
        back.upstream
    · rw [Slot.other_other, toOwn]
      exact readingBack
    · rw [Slot.other_other]
      exact own.trans seatedBack
  refine ⟨running.thrown, state, ?_, ?_⟩
  · intro first at_p1 second at_p2
    cases slot with
    | p1 =>
        cases (own.trans seatedBack).symm.trans at_p1
        cases seated.symm.trans at_p2
        rw [ws]
        exact foreign
    | p2 =>
        cases seated.symm.trans at_p1
        cases (own.trans seatedBack).symm.trans at_p2
        rw [ws]
        exact foreign.symm
  · intro which
    by_cases same : which = slot
    · subst same
      exact ⟨_, _, _, _, onward⟩
    · rw [Slot.eq_other_of_ne same]
      exact ⟨_, _, _, _, backward⟩

theorem framesTo_other {ws target : Server.SocketRef} {msg : ServerMsg}
    (foreign : ws ≠ target) : framesTo transport ws [(target, msg)] = [] := by
  have unsent : (if target = ws then
      (runningBytes msg).map transport.frame else none) = none :=
    if_neg (Ne.symm foreign)
  exact List.filterMap_cons_none unsent

theorem framesTo_self (framing : transport.Frames) (ws : Server.SocketRef)
    {msg : ServerMsg} {bytes : List UInt8}
    (running : runningBytes msg = some bytes) (short : bytes.length ≤ 10)
    (noError : bytes.head? ≠ some msgError) :
    (∀ frame ∈ framesTo transport ws [(ws, msg)],
      frame.Harmless ∧ frame.opcode = 0x02) ∧
    entries (framesTo transport ws [(ws, msg)]) = batchEntries bytes := by
  rw [framesTo_single ws running, if_pos rfl]
  exact ⟨List.forall_mem_singleton.mpr (framing.plain short noError),
    framing.entries short⟩

theorem Running.message (runtime : JsRuntime) (framing : transport.Frames)
    (running : Running link sent) (slot : Slot) :
    Running (message runtime transport slot link) sent ∨
      Halted (message runtime transport slot link) sent := by
  obtain ⟨done, todo, posts, info, lane⟩ := running.lanes slot
  cases posts with
  | nil =>
      rw [Link.message, lane.upstream, List.flatMap_nil, framing.empty]
      exact .inl running
  | cons post rest =>
      have handled := @handleMessage_handled runtime link.room slot info post.2
        running.active lane.seated lane.pending
      rw [message_of_post runtime framing lane.upstream]
      generalize link.room.handleMessage runtime (fun _ => true) ⟨slot, true⟩
        post.2.bytes = result at handled ⊢
      cases handled with
      | ignored blocked =>
          refine .inl (running.forwards lane running.active rfl lane.seated rfl
            lane.pending (fun _ _ => rfl) nofun rfl ?_)
          rw [blocked]
          rfl
      | loadout info' pick blocked seated =>
          cases lane.seated.symm.trans seated
          have other : [msgServerLoadout, pick].head? ≠ some msgInputBatch := by
            rw [List.head?_cons]
            decide
          have noError : [msgServerLoadout, pick].head? ≠ some msgError := by
            rw [List.head?_cons]
            decide
          obtain ⟨plain, none_entered⟩ := @framesTo_self transport framing
            info.ws (.loadout [msgServerLoadout, pick]) _ rfl (by simp) noError
          rw [Net.batchEntries_of_ne other] at none_entered
          refine .inl (running.forwards lane running.active rfl lane.seated rfl
            lane.pending (fun _ foreign => framesTo_other foreign) plain ?_ ?_)
          · rw [none_entered]
            rfl
          · rw [none_entered, blocked]
            rfl
      | relayed info' frame fits value next passes seated small state slots =>
          cases lane.seated.symm.trans seated
          let bytes := Server.relayBytes info.seq (frame, value.toNat)
          have noError : bytes.head? ≠ some msgError := by
            change some (UInt8.ofNat 0x12) ≠ some msgError
            decide
          have short : bytes.length ≤ 10 :=
            Nat.le_of_eq (Server.length_relayBytes ..)
          obtain ⟨plain, entered⟩ := @framesTo_self transport framing
            info.ws (.relay bytes) _ rfl short noError
          rw [batchEntries_relayBytes info.seq fits value] at entered
          have seatedNext : next.slots slot.other = some
              { info with seq := info.seq + 1, pendingFrames := [] } := by
            rw [slots, RelayRoom.setSlot_self]
          refine .inl (running.forwards lane (state.trans running.active) ?_
            seatedNext rfl rfl (fun _ foreign => framesTo_other foreign) plain
            ?_ ?_)
          · rw [slots, RelayRoom.setSlot_of_ne (Slot.ne_other slot)]
          · rw [entered]
            rfl
          · rw [entered, passes]
            rfl
      | overflow info' passes seated full =>
          cases lane.seated.symm.trans seated
          refine .inr ⟨rfl, ⟨slot, ?_⟩, fun which => ?_⟩
          · obtain ⟨entry, found⟩ := Option.ne_none_iff_exists'.mp passes
            rw [lane.flow, List.length_append, ← lane.seq, passed_cons, found,
              List.length_append, Option.toList_some, List.length_singleton]
            omega
          · obtain ⟨done, todo, posts, info, lane⟩ := running.lanes which
            rw [lane.flow]
            exact ⟨done, todo, lane.reading, List.prefix_append _ _⟩

theorem framesTo_sendPing (framing : transport.Frames)
    (ws : Server.SocketRef) (room : RelayRoom) (now : Nat) :
    ∀ frame ∈ framesTo transport ws (room.sendPing (fun _ => true) now),
      (frame.Harmless ∧ frame.opcode = 0x02) ∧ entries [frame] = [] := by
  intro frame held
  obtain ⟨sent, isPing, framed⟩ := List.mem_filterMap.mp held
  obtain ⟨target, _, rfl⟩ := List.mem_map.mp isPing
  have first : (leBytes 1 Server.MsgType.serverPing.code ++
      leBytes 8 now).head? = some msgPing := rfl
  split at framed
  next =>
    cases framed
    refine ⟨framing.plain (by simp) ?_, ?_⟩
    · rw [first]
      decide
    · rw [framing.entries (by simp), Net.batchEntries_of_ne]
      rw [first]
      decide
  next => cases framed

theorem entries_eq_nil {frames : List WireFrame}
    (silent : ∀ frame ∈ frames, entries [frame] = []) :
    entries frames = [] := by
  refine List.flatMap_eq_nil_iff.mpr fun frame held => ?_
  have alone := silent frame held
  rwa [entries, List.flatMap_singleton] at alone

theorem Running.pingTimer (framing : transport.Frames)
    (running : Running link sent) (now : Nat) :
    Running (push transport (link.room.sendPing (fun _ => true) now) link)
      sent where
  thrown := running.thrown
  active := running.active
  apart := running.apart
  lanes slot := by
    obtain ⟨done, todo, posts, info, lane⟩ := running.lanes slot
    let frames := framesTo transport info.ws
      (link.room.sendPing (fun _ => true) now)
    have pings := framesTo_sendPing framing info.ws link.room now
    have unchanged : entries (done ++ (todo ++ frames)) =
        entries (done ++ todo) := by
      rw [← List.append_assoc, entries_append (done ++ todo),
        entries_eq_nil fun frame held => (pings frame held).2,
        List.append_nil]
    refine ⟨done, todo ++ frames, posts, info, lane.upstream, ?_, lane.seated,
      lane.pending, ?_, ?_⟩
    · rw [push_client _ link lane.seated]
      exact lane.reading.extend fun frame held => (pings frame held).1
    · rw [unchanged, lane.seq]
    · rw [unchanged, lane.flow]

theorem step_cases (runtime : JsRuntime) (framing : transport.Frames)
    (works : ∀ slot, (os slot).Works) {event : LinkEvent}
    (before : Running link sent ∨ Halted link sent)
    (clean : link.Clean os event) :
    Running (step runtime transport os link event)
        (fun slot => sent slot ++ (link.posted os slot event).toList) ∨
      Halted (step runtime transport os link event)
        (fun slot => sent slot ++ (link.posted os slot event).toList) := by
  cases event with
  | client which event =>
      exact before.imp (fun running => running.clientStep works which clean)
        (fun halted => halted.clientStep works which clean)
  | message slot =>
      have silent : (fun which => sent which ++
          (link.posted os which (.message slot)).toList) = sent :=
        funext fun _ => List.append_nil _
      rw [silent]
      rcases before with running | halted
      · rw [step, running.thrown]
        exact running.message runtime framing slot
      · rw [step, if_pos halted.thrown]
        exact .inr halted
  | pingTimer now =>
      have silent : (fun which => sent which ++
          (link.posted os which (.pingTimer now)).toList) = sent :=
        funext fun _ => List.append_nil _
      rw [silent, step]
      split
      next => exact before
      next live =>
        rcases before with running | halted
        · exact .inl (running.pingTimer framing now)
        · exact absurd (.inl halted.thrown) live

theorem Ready.running (ready : link.Ready) : Running link fun _ => [] where
  thrown := ready.thrown
  active := ready.matched.active
  apart := ready.matched.apart
  lanes slot := by
    obtain ⟨info, seated, seq, pending⟩ := ready.matched.seated slot.other
    obtain ⟨done, todo, reading, none_entered⟩ := ready.clients slot.other
    have none_yet : entries (done ++ todo) = [] := none_entered
    refine ⟨done, todo, [], info, ready.upstream slot, reading, seated, pending,
      ?_, ?_⟩
    · rw [seq, none_yet]
      rfl
    · rw [none_yet]
      rfl

theorem Lane.inOrder {sent : List (Int × UInt16)}
    (reading : (link.client slot.other).Reading done todo)
    (front : entries (done ++ todo) <+: sent) :
    (link.client slot.other).confirmed <+: sent := by
  have confirmed : (link.client slot.other).confirmed = entries done := by
    rw [reading.confirmed, List.flatMap_map]
    rfl
  rw [confirmed]
  rw [entries_append] at front
  exact (List.prefix_append _ _).trans front

theorem todo_nil {net : Net} (reading : net.Reading done todo)
    (incoming : net.incoming = []) (rbuf : net.ws.rbuf.bytes = []) :
    todo = [] := by
  have bytes := reading.opened.framed.bytes
  rw [incoming, rbuf] at bytes
  cases todo with
  | nil => rfl
  | cons frame later =>
      have two := frame.two_le_length
      have none_there := List.length_eq_zero_iff.mpr bytes.symm
      rw [List.flatMap_cons, List.length_append] at none_there
      omega

theorem posts_nil (nothing : posts.flatMap Post.bytes = []) : posts = [] := by
  cases posts with
  | nil => rfl
  | cons post rest =>
      have both := List.append_eq_nil_iff.mp nothing
      exact absurd both.1 (Net.wsEncodeFrame_ne_nil _ _)

/-- What holds in every state of a match: the other client has confirmed the
inputs of the first one in order, none twice and none left out; all of them as
soon as nothing is on its way; and as long as neither has sent more of them
than the relay can number, the relay does not throw. -/
structure Delivered (link : Link) (sent : Slot → List (Int × UInt16)) :
    Prop where
  inOrder : ∀ slot, (link.client slot.other).confirmed <+: sent slot
  complete : link.thrown = false → ∀ slot, link.Drained slot →
    (link.client slot.other).confirmed = sent slot
  total : (∀ slot, (sent slot).length ≤ 2 ^ 16) → link.thrown = false

theorem Running.delivered (running : Running link sent) :
    Delivered link sent where
  inOrder slot := by
    obtain ⟨done, todo, posts, info, lane⟩ := running.lanes slot
    refine Lane.inOrder lane.reading ?_
    rw [lane.flow]
    exact List.prefix_append _ _
  complete _ slot drained := by
    obtain ⟨done, todo, posts, info, lane⟩ := running.lanes slot
    have none_left := todo_nil lane.reading drained.incoming drained.rbuf
    have none_posted := posts_nil (lane.upstream.symm.trans drained.upstream)
    subst none_left none_posted
    rw [lane.flow, lane.reading.confirmed, List.append_nil, List.flatMap_map]
    exact (List.append_nil _).symm
  total _ := running.thrown

theorem Halted.delivered (halted : Halted link sent) :
    Delivered link sent where
  inOrder slot := by
    obtain ⟨done, todo, reading, front⟩ := halted.lanes slot
    exact Lane.inOrder reading front
  complete alive := by
    rw [halted.thrown] at alive
    cases alive
  total few := by
    obtain ⟨slot, many⟩ := halted.overflow
    have bound := few slot
    omega

/-- Whatever order the calls of the clients, the reads of the server and its
timer come in, and however the sockets cut the bytes. -/
theorem link_delivered (runtime : JsRuntime) (framing : transport.Frames)
    (works : ∀ slot, (os slot).Works) {events : List LinkEvent}
    (ready : link.Ready)
    (clean : (step runtime transport os).Along (Clean os) link events) :
    Delivered ((step runtime transport os).run link events) fun slot =>
      (step runtime transport os).written (posted os slot) link events := by
  have after := clean.history
    (fun link sent => Running link sent ∨ Halted link sent) (posted os)
    (fun _ _ _ before good => step_cases runtime framing works before good)
    (.inl ready.running)
  simp only [List.nil_append] at after
  rcases after with running | halted
  · exact running.delivered
  · exact halted.delivered

end Link

/-- The parser of the client reads what the client has written. -/
def clientTransport : Transport where
  read bytes :=
    match wsParseFrame ⟨bytes.take wsRecvBuf, fun _ => 0,
        List.length_take_le _ _⟩ with
    | (.frame _ offset plen consumed, buf) =>
        some ((Net.payloadAt buf offset plen).bytes, consumed)
    | _ => none
  frame bytes :=
    if small : bytes.length < 2 ^ 16 then
      ⟨0x82, .medium, none, bytes, small⟩
    else ⟨0x82, .short, none, [], by decide⟩

theorem clientTransport_frames : clientTransport.Frames where
  empty := rfl
  whole ticks message rest short := by
    have length : (wsEncodeFrame ticks message).length ≤ wsRecvBuf := by
      have small : message.length < 2 ^ 32 := by
        rw [wsSendBuf] at short
        omega
      have offset := offset_le (encodedFrame ticks message small)
      rw [← encodedFrame_bytes ticks small, WireFrame.bytes_length]
      change _ + message.length ≤ _
      rw [wsSendBuf] at short
      rw [wsRecvBuf]
      omega
    have front : (wsEncodeFrame ticks message ++ rest).take wsRecvBuf =
        wsEncodeFrame ticks message ++ rest.take (wsRecvBuf -
          (wsEncodeFrame ticks message).length) := by
      rw [List.take_append, List.take_of_length_le length]
    obtain ⟨offset, buf, parsed, payload⟩ :=
      (wsParseFrame_wsEncodeFrame ticks message length).1
        ⟨(wsEncodeFrame ticks message ++ rest).take wsRecvBuf, fun _ => 0,
          List.length_take_le _ _⟩ _ front
    rw [clientTransport]
    dsimp only
    rw [parsed]
    exact congrArg (fun message => some (message, _)) payload
  payload bytes small := by
    rw [clientTransport]
    dsimp only
    rw [dif_pos small]
  binary bytes := by
    rw [clientTransport]
    have binary : (0x82 &&& 0x0F : UInt8) = 0x02 := by decide
    dsimp only
    split
    next => exact binary
    next => exact binary

def playingNet : Net :=
  { Net.initial with
    ws := { Ws.zero with
      configured := true
      hs := .opened
      state := .fighting } }

theorem playingNet_reading : playingNet.Reading [] [] where
  opened := ⟨rfl, rfl, rfl, nofun, ⟨rfl, rfl⟩, rfl⟩
  short := nofun
  confirmed := rfl
  plain := nofun

def pairLink : Link :=
  ⟨fun _ => playingNet, fun _ => [], Server.pairRoom, false⟩

theorem pairLink_ready : pairLink.Ready where
  thrown := rfl
  matched := Server.pairRoom_matched
  upstream _ := rfl
  clients _ := ⟨[], [], playingNet_reading, rfl⟩

def pairEvents : List LinkEvent :=
  [.client .p1 (.sendInput 7 1), .pingTimer 1000, .message .p1,
    .client .p2 .receive, .client .p2 .receive]

theorem fiveBytes_works : fiveBytes.Works where
  send _ := nofun
  recv _ := .inr ⟨4, rfl⟩

theorem link_delivered_pair :
    Link.Delivered ((Link.step Server.emptyRuntime clientTransport
        fun _ => fiveBytes).run pairLink pairEvents) fun slot =>
      (Link.step Server.emptyRuntime clientTransport
        fun _ => fiveBytes).written (Link.posted (fun _ => fiveBytes) slot)
          pairLink pairEvents := by
  refine Link.link_delivered Server.emptyRuntime clientTransport_frames
    (fun _ => fiveBytes_works) pairLink_ready ?_
  refine ⟨⟨trivial, ?_, ?_⟩, trivial, trivial, ⟨trivial, nofun, ?_⟩,
    ⟨trivial, nofun, ?_⟩, trivial⟩
  · rintro _ _ ⟨⟩
    decide
  · decide
  · decide
  · decide

end FuryClash.System
