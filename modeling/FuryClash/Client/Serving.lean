import FuryClash.Client.Chunks
import FuryClash.Client.InputCodec
import Mathlib.Data.List.Forall2

namespace FuryClash.Client

open FuryClash.Data

/-! What a client does with the frames that it is handed: the inputs that it
confirms and the pings that it answers. -/

def Payload.own (bytes : List UInt8) : Payload :=
  ⟨fun i => bytes.getD i 0, bytes.length, bytes.length⟩

/-- The entries of a `MSG_INPUT_BATCH` that is as long as its count says. -/
def batchEntries (bytes : List UInt8) : List (Int × UInt16) :=
  let payload := Payload.own bytes
  let count := (payload.memory 3).toNat
  if bytes.head? = some msgInputBatch ∧ 4 + count * 6 ≤ bytes.length then
    (List.range count).map fun i => payload.entry (4 + i * 6)
  else []

def pingStamp (bytes : List UInt8) : Option (List UInt8) :=
  if bytes.head? = some msgPing ∧ 9 ≤ bytes.length then
    some ((bytes.drop 1).take 8)
  else none

def isMessage (handed : UInt8 × List UInt8) : Prop :=
  handed.1 = 0x01 ∨ handed.1 = 0x02

instance (handed : UInt8 × List UInt8) : Decidable (isMessage handed) :=
  inferInstanceAs (Decidable (_ ∨ _))

def confirms (handed : UInt8 × List UInt8) : List (Int × UInt16) :=
  if isMessage handed then batchEntries handed.2 else []

def stamp (handed : UInt8 × List UInt8) : Option (List UInt8) :=
  if isMessage handed then pingStamp handed.2 else none

def IsPong (sent : SentFrame) (stamp : List UInt8) : Prop :=
  ∃ ticks, sent.bytes = wsEncodeFrame ticks (msgPong :: stamp)

namespace NetEffect

structure Serves (effects : List NetEffect) : Prop where
  confirmed : effects.filterMap confirmed =
    (effects.filterMap handedFrame).flatMap confirms
  answered : List.Forall₂ IsPong (effects.filterMap sentFrame)
    ((effects.filterMap handedFrame).filterMap stamp)
  /-- Only the answer to a ping frame is sent without `ws_send`. -/
  accepted : (∀ handed ∈ effects.filterMap handedFrame, handed.1 ≠ 0x09) →
    effects.flatMap accepted = (effects.filterMap sentFrame).flatMap
      fun sent => sent.bytes.take sent.accepted

theorem Serves.nil : Serves [] := ⟨rfl, .nil, fun _ => rfl⟩

theorem Serves.append {first second : List NetEffect} (before : Serves first)
    (after : Serves second) : Serves (first ++ second) where
  confirmed := by
    rw [List.filterMap_append, List.filterMap_append, List.flatMap_append,
      before.confirmed, after.confirmed]
  answered := by
    rw [List.filterMap_append, List.filterMap_append, List.filterMap_append]
    exact List.rel_append before.answered after.answered
  accepted noPing := by
    rw [List.filterMap_append, List.forall_mem_append] at noPing
    rw [List.flatMap_append, List.filterMap_append, List.flatMap_append,
      before.accepted noPing.1, after.accepted noPing.2]

/-- An effect that is of no interest here. -/
def Silent (effect : NetEffect) : Prop :=
  effect.confirmed = none ∧ effect.handedFrame = none ∧
    effect.sentFrame = none ∧ effect.accepted = []

theorem Serves.silent {effects : List NetEffect}
    (silent : ∀ effect ∈ effects, effect.Silent) : Serves effects := by
  have confirmed : effects.filterMap NetEffect.confirmed = [] :=
    List.filterMap_eq_nil_iff.mpr fun effect held => (silent effect held).1
  have handed : effects.filterMap handedFrame = [] :=
    List.filterMap_eq_nil_iff.mpr fun effect held => (silent effect held).2.1
  have sent : effects.filterMap sentFrame = [] :=
    List.filterMap_eq_nil_iff.mpr fun effect held =>
      (silent effect held).2.2.1
  have accepted : effects.flatMap NetEffect.accepted = [] :=
    List.flatMap_eq_nil_iff.mpr fun effect held =>
      (silent effect held).2.2.2
  refine ⟨?_, ?_, fun _ => ?_⟩
  · rw [confirmed, handed]
    rfl
  · rw [sent, handed]
    exact .nil
  · rw [accepted, sent]
    rfl

structure Posts (frame : List UInt8) (taken : Nat)
    (effects : List NetEffect) : Prop where
  confirmed : effects.filterMap confirmed = []
  handed : effects.filterMap handedFrame = []
  sent : effects.filterMap sentFrame = [⟨frame, taken⟩]
  accepted : effects.flatMap accepted = frame.take taken

end NetEffect

namespace Net

open NetEffect (Serves Silent Posts)

variable {os : Os} {net net' : Net} {payload : Payload}

theorem wsSend_keepsConfirmed (os : Os) (net : Net) (bytes : List UInt8) :
    (net.wsSend os bytes).confirmed = net.confirmed := by
  have wrote (net : Net) (calls : Nat) (chunks : List (List UInt8)) :
      (net.wrote calls chunks).confirmed = net.confirmed := by
    have none_confirmed : (chunks.map NetEffect.sent).filterMap
        NetEffect.confirmed = [] := by
      rw [List.filterMap_map]
      exact List.filterMap_eq_nil_iff.mpr fun _ _ => rfl
    rw [confirmed, Net.wrote, List.filterMap_append, none_confirmed,
      List.append_nil, confirmed]
  have ends (net : Net) (effect : NetEffect) (other : effect.confirmed = none) :
      (net.effect effect).confirmed = net.confirmed := by
    rw [effect_confirmed, other]
    exact List.append_nil _
  rw [wsSend]
  split
  next => rfl
  split
  next => rfl
  next =>
    have loop := sendLoop_wrote os net
      (wsEncodeFrame (os.ticks net.calls) bytes).length (Nat.le_refl _)
    dsimp only
    generalize net.sendLoop os _ _ = result at loop
    cases loop with
    | whole calls chunks =>
        exact (ends _ _ rfl).trans (wrote net calls chunks)
    | again calls chunks =>
        exact (ends _ _ rfl).trans (wrote net calls chunks)
    | failed calls chunks =>
        refine (ends _ _ rfl).trans ?_
        exact (ends _ _ rfl).trans (wrote net calls chunks)

theorem wsSend_posts {bytes : List UInt8} (os : Os)
    (sends : net.Sends bytes) : ∃ effects taken,
      (net.wsSend os bytes).trace = net.trace ++ effects ∧
        Posts (net.frameOf os bytes) taken effects := by
  obtain ⟨taken, call⟩ := wsSend_sendsFrame os sends
  have within : Within net (net.wsSend os bytes) := .wsSend bytes
  obtain ⟨effects, trace, _⟩ := within.grows
  refine ⟨effects, taken, trace, ?_⟩
  have confirmed := wsSend_keepsConfirmed os net bytes
  have handed := within.handed
  have sent := call.sentFrames
  have accepted := call.accepted
  rw [Net.confirmed, Net.confirmed, trace, List.filterMap_append] at confirmed
  rw [Net.handed, Net.handed, trace, List.filterMap_append] at handed
  rw [sentFrames, sentFrames, trace, List.filterMap_append] at sent
  rw [Net.accepted, Net.accepted, trace, List.flatMap_append] at accepted
  exact ⟨List.append_right_eq_self.mp confirmed,
    List.append_right_eq_self.mp handed, List.append_cancel_left sent,
    List.append_cancel_left accepted⟩

def Extends (handed : List (UInt8 × List UInt8)) (net net' : Net) : Prop :=
  ∃ effects, net'.trace = net.trace ++ effects ∧
    effects.filterMap NetEffect.handedFrame = handed ∧ Serves effects

theorem Extends.of_trace (trace : net'.trace = net.trace) :
    Extends [] net net' :=
  ⟨[], trace.trans (List.append_nil _).symm, rfl, .nil⟩

theorem Extends.trans {first second : List (UInt8 × List UInt8)}
    {net'' : Net} (before : Extends first net net')
    (after : Extends second net' net'') :
    Extends (first ++ second) net net'' := by
  obtain ⟨effects, trace, handed, serves⟩ := before
  obtain ⟨effects', trace', handed', serves'⟩ := after
  refine ⟨effects ++ effects', ?_, ?_, serves.append serves'⟩
  · rw [trace', trace, List.append_assoc]
  · rw [List.filterMap_append, handed, handed']

theorem own_memory (payload : Payload) {i : Nat} (within : i < payload.plen) :
    (Payload.own payload.bytes).memory i = payload.memory i := by
  change payload.bytes.getD i 0 = _
  rw [List.getD_eq_getElem?_getD, Payload.bytes, List.getElem?_map,
    List.getElem?_range within]
  rfl

theorem own_entry (payload : Payload) {p : Nat}
    (within : p + 6 ≤ payload.plen) :
    (Payload.own payload.bytes).entry p = payload.entry p := by
  have same (i : Nat) (inside : i < 6) :
      (Payload.own payload.bytes).memory (p + i) = payload.memory (p + i) :=
    own_memory payload (by omega)
  simp only [Payload.entry, same 0 (by omega), same 1 (by omega),
    same 2 (by omega), same 3 (by omega), same 4 (by omega),
    same 5 (by omega)]

theorem head?_bytes (payload : Payload) (some_there : payload.plen ≠ 0) :
    payload.bytes.head? = some (payload.memory 0) := by
  rw [Payload.bytes, List.head?_map, List.head?_range, if_neg some_there]
  rfl

theorem confirmEntries_trace (net : Net) (payload : Payload) (count p : Nat) :
    (net.confirmEntries payload count p).trace = net.trace ++
      ((List.range count).map fun i => payload.entry (p + i * 6)).map
        fun entry => .confirmRemote entry.1 entry.2 := by
  induction count generalizing net p with
  | zero => exact (List.append_nil _).symm
  | succ count ih =>
      have places : (List.range count).map
          (fun i => payload.entry (p + 6 + i * 6)) =
            ((List.range count).map Nat.succ).map
              fun i => payload.entry (p + i * 6) := by
        rw [List.map_map]
        refine List.map_congr_left fun i _ => ?_
        have place : p + 6 + i * 6 = p + i.succ * 6 := by omega
        exact congrArg payload.entry place
      rw [confirmEntries]
      dsimp only
      rw [ih, places, List.range_succ_eq_map, List.map_cons, List.map_cons,
        effect_trace, List.append_assoc, List.singleton_append, Nat.zero_mul,
        Nat.add_zero]

structure Replies (bytes : List UInt8) (effects : List NetEffect) : Prop where
  handed : effects.filterMap NetEffect.handedFrame = []
  confirmed : effects.filterMap NetEffect.confirmed = batchEntries bytes
  answered : List.Forall₂ IsPong (effects.filterMap NetEffect.sentFrame)
    (pingStamp bytes).toList
  accepted : effects.flatMap NetEffect.accepted =
    (effects.filterMap NetEffect.sentFrame).flatMap
      fun sent => sent.bytes.take sent.accepted

theorem Replies.silent {bytes : List UInt8} {effects : List NetEffect}
    (silent : ∀ effect ∈ effects, effect.Silent)
    (noBatch : batchEntries bytes = []) (noPing : pingStamp bytes = none) :
    Replies bytes effects := by
  have serves := Serves.silent silent
  have handed : effects.filterMap NetEffect.handedFrame = [] :=
    List.filterMap_eq_nil_iff.mpr fun effect held => (silent effect held).2.1
  have none_handed : ∀ handed ∈ effects.filterMap NetEffect.handedFrame,
      handed.1 ≠ 0x09 := by
    rw [handed]
    exact nofun
  have confirmed := serves.confirmed
  have answered := serves.answered
  rw [handed] at confirmed answered
  refine ⟨handed, ?_, ?_, serves.accepted none_handed⟩
  · rw [noBatch]
    exact confirmed
  · rw [noPing]
    exact answered

theorem Replies.confirming {bytes : List UInt8} {entries : List (Int × UInt16)}
    (batch : batchEntries bytes = entries) (noPing : pingStamp bytes = none) :
    Replies bytes
      (entries.map fun entry => .confirmRemote entry.1 entry.2) := by
  have none_sent : (entries.map fun entry =>
      NetEffect.confirmRemote entry.1 entry.2).filterMap
        NetEffect.sentFrame = [] := by
    rw [List.filterMap_map]
    exact List.filterMap_eq_nil_iff.mpr fun _ _ => rfl
  refine ⟨?_, ?_, ?_, ?_⟩
  · rw [List.filterMap_map]
    exact List.filterMap_eq_nil_iff.mpr fun _ _ => rfl
  · rw [List.filterMap_map, batch]
    exact List.filterMap_some
  · rw [none_sent, noPing]
    exact .nil
  · rw [none_sent, List.flatMap_map]
    exact List.flatMap_eq_nil_iff.mpr fun _ _ => rfl

/-- The frame that answers a ping. -/
theorem Replies.posting {bytes stamp frame : List UInt8} {taken : Nat}
    {effects : List NetEffect} (noBatch : batchEntries bytes = [])
    (ping : pingStamp bytes = some stamp)
    (pong : IsPong ⟨frame, taken⟩ stamp)
    (posts : Posts frame taken effects) : Replies bytes effects where
  handed := posts.handed
  confirmed := posts.confirmed.trans noBatch.symm
  answered := by
    rw [posts.sent, ping]
    exact .cons pong .nil
  accepted := by
    rw [posts.sent, posts.accepted, List.flatMap_singleton]

theorem silent_nil : ∀ effect ∈ ([] : List NetEffect), effect.Silent := nofun

theorem silent_state (state : NetState) :
    ∀ effect ∈ [NetEffect.state state], effect.Silent :=
  List.forall_mem_singleton.mpr ⟨rfl, rfl, rfl, rfl⟩

theorem batchEntries_of_ne {bytes : List UInt8}
    (other : bytes.head? ≠ some msgInputBatch) : batchEntries bytes = [] :=
  if_neg fun both => other both.1

theorem pingStamp_of_ne {bytes : List UInt8}
    (other : bytes.head? ≠ some msgPing) : pingStamp bytes = none :=
  if_neg fun both => other both.1

theorem batchEntries_bytes (payload : Payload) (some_there : payload.plen ≠ 0)
    (type : payload.memory 0 = msgInputBatch) :
    batchEntries payload.bytes =
      if payload.plen < 4 then []
      else if payload.plen < 4 + (payload.memory 3).toNat * 6 then []
      else (List.range (payload.memory 3).toNat).map fun i =>
        payload.entry (4 + i * 6) := by
  have head := head?_bytes payload some_there
  rw [type] at head
  rw [batchEntries, head, payload.bytes_length]
  by_cases short : payload.plen < 4
  · rw [if_pos short, if_neg (by omega)]
  · rw [if_neg short, own_memory payload (by omega)]
    by_cases cut : payload.plen < 4 + (payload.memory 3).toNat * 6
    · rw [if_pos cut, if_neg (by omega)]
    · rw [if_neg cut, if_pos ⟨rfl, by omega⟩]
      refine List.map_congr_left fun i within => ?_
      have inside := List.mem_range.mp within
      exact own_entry payload (by omega)

theorem pingStamp_bytes (payload : Payload) (some_there : payload.plen ≠ 0)
    (type : payload.memory 0 = msgPing) :
    pingStamp payload.bytes =
      if payload.plen < 9 then none
      else some ((List.range 8).map fun i => payload.memory (i + 1)) := by
  have head := head?_bytes payload some_there
  rw [type] at head
  rw [pingStamp, head, payload.bytes_length]
  by_cases short : payload.plen < 9
  · rw [if_pos short, if_neg (by omega)]
  · rw [if_neg short, if_pos ⟨rfl, by omega⟩]
    congr 1
    apply List.ext_getElem
    · rw [List.length_take, List.length_drop, payload.bytes_length]
      simp
      omega
    · intro i inside _
      simp [Payload.bytes]

structure CanSend (net : Net) : Prop where
  hasFd : net.ws.hasFd = true
  hs : net.ws.hs = .opened

theorem CanSend.sends {bytes : List UInt8} (can : net.CanSend)
    (short : bytes.length ≤ wsSendBuf) : net.Sends bytes :=
  ⟨can.hasFd, can.hs, short⟩

theorem CanSend.within (can : net.CanSend) (within : Within net net') :
    net'.CanSend :=
  ⟨within.hasFd.trans can.hasFd, within.hs.trans can.hs⟩

theorem dispatchMessage_switch (os : Os) (payload : Payload)
    (can : net.CanSend) (some_there : payload.plen ≠ 0) : ∃ effects,
      (net.dispatchMessage os payload).trace =
        (net.effect (.dispatched payload.bytes)).trace ++ effects ∧
      Replies payload.bytes effects := by
  have canThen : (net.effect (.dispatched payload.bytes)).CanSend :=
    ⟨can.hasFd, can.hs⟩
  have head := head?_bytes payload some_there
  have noBatch (other : payload.memory 0 ≠ msgInputBatch) :
      batchEntries payload.bytes = [] := by
    refine batchEntries_of_ne ?_
    rw [head]
    exact fun same => other (Option.some.inj same)
  have noPing (other : payload.memory 0 ≠ msgPing) :
      pingStamp payload.bytes = none := by
    refine pingStamp_of_ne ?_
    rw [head]
    exact fun same => other (Option.some.inj same)
  rw [dispatchMessage, if_neg (by omega)]
  generalize net.effect (.dispatched payload.bytes) = net at canThen ⊢
  have quiet {after : Net} {effects : List NetEffect}
      (trace : after.trace = net.trace ++ effects)
      (silent : ∀ effect ∈ effects, effect.Silent)
      (no_batch : batchEntries payload.bytes = [])
      (no_ping : pingStamp payload.bytes = none) :
      ∃ effects, after.trace = net.trace ++ effects ∧
        Replies payload.bytes effects :=
    ⟨effects, trace, .silent silent no_batch no_ping⟩
  have unchanged := (List.append_nil net.trace).symm
  dsimp only
  by_cases batch : payload.memory 0 = msgInputBatch
  · have no_ping := noPing (by rw [batch]; decide)
    have entries := batchEntries_bytes payload some_there batch
    rw [batch, if_neg (by decide), if_neg (by decide), if_pos rfl]
    split at entries
    next short =>
      rw [if_pos short]
      exact quiet unchanged silent_nil entries no_ping
    next long =>
      rw [if_neg long]
      split at entries
      next cut =>
        rw [if_pos cut]
        exact quiet unchanged silent_nil entries no_ping
      next whole =>
        rw [if_neg whole]
        exact ⟨_, confirmEntries_trace net payload _ 4,
          .confirming entries no_ping⟩
  by_cases ping : payload.memory 0 = msgPing
  · have no_batch := noBatch batch
    have stamped := pingStamp_bytes payload some_there ping
    rw [ping, if_neg (by decide), if_neg (by decide), if_neg (by decide),
      if_pos rfl]
    split at stamped
    next short =>
      rw [if_pos short]
      exact quiet unchanged silent_nil no_batch stamped
    next long =>
      rw [if_neg long]
      have sends : net.Sends (msgPong ::
          (List.range 8).map fun i => payload.memory (i + 1)) :=
        canThen.sends (by simp [wsSendBuf])
      obtain ⟨effects, taken, trace, posts⟩ := wsSend_posts os sends
      exact ⟨effects, trace, .posting no_batch stamped ⟨_, rfl⟩ posts⟩
  · have no_batch := noBatch batch
    have no_ping := noPing ping
    rw [if_neg batch, if_neg ping]
    split
    next => exact quiet rfl (silent_state _) no_batch no_ping
    split
    next => exact quiet rfl (silent_state _) no_batch no_ping
    split
    next => exact quiet rfl (silent_state _) no_batch no_ping
    split
    next => exact quiet rfl (silent_state _) no_batch no_ping
    split
    next =>
      split
      next => exact quiet unchanged silent_nil no_batch no_ping
      next => exact quiet unchanged silent_nil no_batch no_ping
    next => exact quiet unchanged silent_nil no_batch no_ping

theorem dispatchMessage_replies (os : Os) (payload : Payload)
    (can : net.CanSend) : ∃ effects,
      (net.dispatchMessage os payload).trace =
        (net.effect (.dispatched payload.bytes)).trace ++ effects ∧
      Replies payload.bytes effects := by
  by_cases some_there : payload.plen = 0
  · have none_there : payload.bytes = [] :=
      List.length_eq_zero_iff.mp (payload.bytes_length.trans some_there)
    refine ⟨[], ?_, .silent silent_nil ?_ ?_⟩
    · rw [dispatchMessage, if_pos (by omega), List.append_nil]
    · rw [none_there]
      exact batchEntries_of_ne (Option.some_ne_none _).symm
    · rw [none_there]
      exact pingStamp_of_ne (Option.some_ne_none _).symm
  · exact dispatchMessage_switch os payload can some_there

theorem Extends.silent {effects : List NetEffect}
    (trace : net'.trace = net.trace ++ effects)
    (silent : ∀ effect ∈ effects, effect.Silent) : Extends [] net net' :=
  ⟨effects, trace,
    List.filterMap_eq_nil_iff.mpr fun effect held => (silent effect held).2.1,
    .silent silent⟩

theorem Extends.handing {opcode : UInt8} {bytes : List UInt8}
    {effects : List NetEffect}
    (trace : net'.trace = net.trace ++ .handed opcode bytes :: effects)
    (handed : effects.filterMap NetEffect.handedFrame = [])
    (confirmed : effects.filterMap NetEffect.confirmed =
      confirms (opcode, bytes))
    (answered : List.Forall₂ IsPong (effects.filterMap NetEffect.sentFrame)
      (stamp (opcode, bytes)).toList)
    (accepted : opcode ≠ 0x09 → effects.flatMap NetEffect.accepted =
      (effects.filterMap NetEffect.sentFrame).flatMap
        fun sent => sent.bytes.take sent.accepted) :
    Extends [(opcode, bytes)] net net' := by
  have all_handed : (NetEffect.handed opcode bytes :: effects).filterMap
      NetEffect.handedFrame = [(opcode, bytes)] :=
    congrArg ((opcode, bytes) :: ·) handed
  have all_confirmed : (NetEffect.handed opcode bytes :: effects).filterMap
      NetEffect.confirmed = effects.filterMap NetEffect.confirmed :=
    List.filterMap_cons_none rfl
  have all_sent : (NetEffect.handed opcode bytes :: effects).filterMap
      NetEffect.sentFrame = effects.filterMap NetEffect.sentFrame :=
    List.filterMap_cons_none rfl
  refine ⟨_, trace, all_handed, ?_, ?_, ?_⟩
  · rw [all_confirmed, all_handed, confirmed, List.flatMap_singleton]
  · rw [all_sent, all_handed]
    have only : [(opcode, bytes)].filterMap stamp =
        (stamp (opcode, bytes)).toList := by
      cases found : stamp (opcode, bytes) with
      | none => exact List.filterMap_cons_none found
      | some stamp => exact List.filterMap_cons_some found
    rw [only]
    exact answered
  · rw [all_handed, all_sent, List.flatMap_cons]
    intro noPing
    exact accepted (noPing _ List.mem_cons_self)

theorem Replies.dispatched {bytes : List UInt8} {effects : List NetEffect}
    (replies : Replies bytes effects) :
    Replies bytes (.dispatched bytes :: effects) where
  handed := (List.filterMap_cons_none rfl).trans replies.handed
  confirmed := (List.filterMap_cons_none rfl).trans replies.confirmed
  answered := by
    rw [List.filterMap_cons_none rfl]
    exact replies.answered
  accepted := by
    rw [List.filterMap_cons_none rfl, List.flatMap_cons]
    exact replies.accepted

theorem handleFrame_extends (os : Os) (opcode : UInt8) (payload : Payload)
    (can : net.CanSend) :
    Extends [(opcode, payload.bytes)] net
      (net.handleFrame os opcode payload) := by
  have ignored {after : Net} {effects : List NetEffect}
      (trace : after.trace =
        net.trace ++ .handed opcode payload.bytes :: effects)
      (other : ¬ isMessage (opcode, payload.bytes))
      (silent : ∀ effect ∈ effects, effect.Silent) :
      Extends [(opcode, payload.bytes)] net after := by
    have no_inputs : confirms (opcode, payload.bytes) = [] := if_neg other
    have no_stamp : stamp (opcode, payload.bytes) = none := if_neg other
    have serves := Serves.silent silent
    have handed : effects.filterMap NetEffect.handedFrame = [] :=
      List.filterMap_eq_nil_iff.mpr fun effect held =>
        (silent effect held).2.1
    have confirmed := serves.confirmed
    have answered := serves.answered
    have accepted := serves.accepted
    rw [handed] at confirmed answered accepted
    refine .handing trace handed ?_ ?_ fun _ => accepted nofun
    · rw [confirmed, no_inputs]
      rfl
    · rw [no_stamp]
      exact answered
  rw [handleFrame]
  split
  next message =>
    have canThen : (net.effect (.handed opcode payload.bytes)).CanSend :=
      ⟨can.hasFd, can.hs⟩
    obtain ⟨effects, trace, replies⟩ :=
      dispatchMessage_replies os payload canThen
    have whole := replies.dispatched
    have inputs : confirms (opcode, payload.bytes) =
        batchEntries payload.bytes := if_pos message
    have stamped : stamp (opcode, payload.bytes) = pingStamp payload.bytes :=
      if_pos message
    refine .handing ?_ whole.handed (whole.confirmed.trans inputs.symm) ?_
      fun _ => whole.accepted
    · rw [trace, effect_trace, effect_trace, List.append_assoc,
        List.append_assoc]
      rfl
    · rw [stamped]
      exact whole.answered
  next other =>
    split
    next =>
      refine ignored ?_ other (silent_state .error)
      rw [setState_trace, effect_trace, List.append_assoc]
      rfl
    next =>
      split
      next isPing =>
        have no_inputs : confirms (opcode, payload.bytes) = [] := if_neg other
        have no_stamp : stamp (opcode, payload.bytes) = none := if_neg other
        rw [send]
        cases os.send (net.effect (.handed opcode payload.bytes)).calls with
        | accepted more =>
            refine .handing (List.append_assoc _ _ _) rfl no_inputs.symm ?_ ?_
            · rw [no_stamp]
              exact .nil
            · exact fun other => absurd isPing other
        | again => exact ignored rfl other silent_nil
        | failed => exact ignored rfl other silent_nil
      next => exact ignored rfl other silent_nil

theorem parsing_extends (net : Net) (rbuf : RecvBuf) :
    Extends [] net (net.parsing rbuf) :=
  .silent rfl (List.forall_mem_singleton.mpr ⟨rfl, rfl, rfl, rfl⟩)

theorem parsing_canSend (can : net.CanSend) (rbuf : RecvBuf) :
    (net.parsing rbuf).CanSend := ⟨can.hasFd, can.hs⟩

theorem sliding_extends (os : Os) (opcode : UInt8)
    (offset plen consumed : Nat) (rbuf : RecvBuf) (can : net.CanSend) :
    Extends [(opcode, (payloadAt rbuf offset plen).bytes)] net
        (net.sliding os opcode offset plen consumed rbuf) ∧
      (net.sliding os opcode offset plen consumed rbuf).CanSend := by
  have parsed := parsing_canSend can rbuf
  have handled := handleFrame_extends os opcode (payloadAt rbuf offset plen)
    parsed
  have within := handling_within os net opcode offset plen rbuf
  have slid : Extends [] (net.handling os opcode offset plen rbuf)
      (net.sliding os opcode offset plen consumed rbuf) := .of_trace rfl
  constructor
  · exact ((parsing_extends net rbuf).trans handled).trans slid
  · exact ⟨within.hasFd.trans can.hasFd, within.hs.trans can.hs⟩

theorem frameLoop_extends (os : Os) (turns : Nat) (can : net.CanSend) :
    (∃ handed, Extends handed net (net.frameLoop os turns)) ∧
      (net.frameLoop os turns).CanSend := by
  induction turns generalizing net with
  | zero => exact ⟨⟨[], .of_trace rfl⟩, can⟩
  | succ turns ih =>
      have turned := frameLoop_turned os net turns
      generalize net.frameLoop os (turns + 1) = after at turned ⊢
      cases turned with
      | empty => exact ⟨⟨[], .of_trace rfl⟩, can⟩
      | incomplete rbuf =>
          exact ⟨⟨_, parsing_extends net rbuf⟩, parsing_canSend can rbuf⟩
      | refused rbuf =>
          have refused : Extends [] (net.parsing rbuf)
              ((net.parsing rbuf).setState .error) :=
            .silent rfl (silent_state .error)
          exact ⟨⟨_, (parsing_extends net rbuf).trans refused⟩,
            can.hasFd, can.hs⟩
      | stopped opcode offset plen consumed rbuf =>
          obtain ⟨slid, canThen⟩ :=
            sliding_extends os opcode offset plen consumed rbuf can
          exact ⟨⟨_, slid⟩, canThen⟩
      | next opcode offset plen consumed rbuf =>
          obtain ⟨slid, canThen⟩ :=
            sliding_extends os opcode offset plen consumed rbuf can
          obtain ⟨⟨handed, rest⟩, canLast⟩ := ih canThen
          exact ⟨⟨_, slid.trans rest⟩, canLast⟩

theorem receive_extends (os : Os) (can : net.CanSend) :
    (∃ handed, Extends handed net (net.receive os)) ∧
      (net.receive os).CanSend := by
  have way := receive_cases os net
  generalize net.receive os = after at way ⊢
  cases way with
  | absent => exact ⟨⟨[], .of_trace rfl⟩, can⟩
  | connecting connecting => cases can.hs.symm.trans connecting
  | full => exact ⟨⟨[], .of_trace rfl⟩, can.hasFd, can.hs⟩
  | quiet => exact ⟨⟨[], .of_trace rfl⟩, can.hasFd, can.hs⟩
  | lost =>
      exact ⟨⟨[], .silent rfl (silent_state .error)⟩, can.hasFd, can.hs⟩
  | data data =>
      have filled : ((net.taking data).setRbuf
          (net.ws.rbuf.append data)).CanSend := ⟨can.hasFd, can.hs⟩
      have taken : Extends [] net
          ((net.taking data).setRbuf (net.ws.rbuf.append data)) :=
        .of_trace rfl
      obtain ⟨⟨handed, looped⟩, canThen⟩ := frameLoop_extends os _ filled
      have same : (net.taking data).receiveData os data =
          ((net.taking data).setRbuf
            (net.ws.rbuf.append data)).processFrames os := by
        rw [receiveData, if_neg]
        · rfl
        · intro httpSent
          cases can.hs.symm.trans httpSent
      rw [same, processFrames, if_neg (not_not.mpr filled.hs)]
      exact ⟨⟨_, taken.trans looped⟩, canThen⟩

structure Writes (new : List SentFrame) (net net' : Net) : Prop where
  sentFrames : net'.sentFrames = net.sentFrames ++ new
  accepted : net'.accepted =
    net.accepted ++ new.flatMap fun sent => sent.bytes.take sent.accepted

theorem Writes.of_trace (trace : net'.trace = net.trace) :
    Writes [] net net' where
  sentFrames := by
    rw [Net.sentFrames, trace, List.append_nil]
    rfl
  accepted := by
    rw [Net.accepted, trace, List.flatMap_nil, List.append_nil]
    rfl

theorem Writes.of_effects {effects : List NetEffect}
    (trace : net'.trace = net.trace ++ effects)
    (accepted : effects.flatMap NetEffect.accepted =
      (effects.filterMap NetEffect.sentFrame).flatMap
        fun sent => sent.bytes.take sent.accepted) :
    Writes (effects.filterMap NetEffect.sentFrame) net net' where
  sentFrames := by
    rw [Net.sentFrames, trace, List.filterMap_append]
    rfl
  accepted := by
    rw [Net.accepted, trace, List.flatMap_append, accepted]
    rfl

theorem Writes.wsSend (os : Os) (net : Net) (bytes : List UInt8) :
    ∃ new, Writes new net (net.wsSend os bytes) ∧ new.length ≤ 1 ∧
      ∀ sent ∈ new, ∃ ticks, sent.bytes = wsEncodeFrame ticks bytes := by
  by_cases sends : net.Sends bytes
  · obtain ⟨taken, call⟩ := wsSend_sendsFrame os sends
    refine ⟨[⟨net.frameOf os bytes, taken⟩], ⟨call.sentFrames, ?_⟩,
      Nat.le_refl 1, ?_⟩
    · rw [call.accepted, List.flatMap_singleton]
    · exact List.forall_mem_singleton.mpr ⟨_, rfl⟩
  · rw [wsSend_of_not_sends sends]
    exact ⟨[], .of_trace rfl, Nat.zero_le 1, nofun⟩

/-- Between two calls: the inputs of the frames that are done are confirmed. -/
structure Reading (done todo : List WireFrame) (net : Net) : Prop where
  opened : net.Opened (done ++ todo) done todo
  short : Short WireFrame.bytes todo net.ws.rbuf.bytes
  confirmed : net.confirmed = (done.map WireFrame.message).flatMap confirms
  plain : ∀ frame ∈ done ++ todo, frame.Harmless ∧ frame.opcode = 0x02

variable {done todo : List WireFrame}

theorem Reading.canSend (reading : net.Reading done todo) : net.CanSend :=
  ⟨reading.opened.hasFd, reading.opened.hs⟩

theorem Reading.within (reading : net.Reading done todo)
    (within : Within net net') (alive : net'.ws.state ≠ .error)
    (confirmed : net'.confirmed = net.confirmed) :
    net'.Reading done todo where
  opened := reading.opened.within within alive
  short := by
    rw [within.rbuf]
    exact reading.short
  confirmed := confirmed.trans reading.confirmed
  plain := reading.plain

theorem Reading.extend (reading : net.Reading done todo)
    {more : List WireFrame}
    (plain : ∀ frame ∈ more, frame.Harmless ∧ frame.opcode = 0x02) :
    ({ net with incoming := net.incoming ++
      more.flatMap WireFrame.bytes } : Net).Reading done (todo ++ more) where
  opened := by
    have framed := reading.opened.framed.extend more
    rw [List.append_assoc] at framed
    exact ⟨reading.opened.configured, reading.opened.hasFd,
      reading.opened.hs, reading.opened.alive, framed,
      reading.opened.handed⟩
  short := by
    cases todo with
    | nil =>
        have none_held :=
          (List.append_eq_nil_iff.mp reading.opened.framed.bytes).1
        change Short _ _ net.ws.rbuf.bytes
        rw [none_held]
        exact short_nil _
    | cons frame later => exact reading.short
  confirmed := reading.confirmed
  plain frame held := by
    rw [← List.append_assoc] at held
    rcases List.mem_append.mp held with before | isMore
    · exact reading.plain frame before
    · exact plain frame isMore

theorem pingStamp_length {bytes stamp : List UInt8}
    (ping : pingStamp bytes = some stamp) : stamp.length = 8 := by
  rw [pingStamp] at ping
  split at ping
  next long =>
    cases ping
    rw [List.length_take, List.length_drop]
    omega
  next => cases ping

theorem stamp_length {handed : UInt8 × List UInt8} {bytes : List UInt8}
    (found : stamp handed = some bytes) : bytes.length = 8 := by
  rw [stamp] at found
  split at found
  next => exact pingStamp_length found
  next => cases found

theorem mem_of_forall₂ {sent : List SentFrame} {stamps : List (List UInt8)}
    (answered : List.Forall₂ IsPong sent stamps) :
    ∀ frame ∈ sent, ∃ stamp ∈ stamps, IsPong frame stamp := by
  induction answered with
  | nil => exact nofun
  | cons pong _ ih =>
      rw [List.forall_mem_cons]
      constructor
      · exact ⟨_, List.mem_cons_self, pong⟩
      · intro frame held
        obtain ⟨stamp, isStamp, pong⟩ := ih frame held
        exact ⟨stamp, List.mem_cons_of_mem _ isStamp, pong⟩

/-- However much a call of `net_client_receive` takes, it goes on through the
frames, and writes nothing but the answers to pings. -/
theorem Reading.receive (works : os.Works)
    (reading : net.Reading done todo) :
    ∃ done' todo' new, done' ++ todo' = done ++ todo ∧
      (net.receive os).Reading done' todo' ∧
      Writes new net (net.receive os) ∧
      ∀ sent ∈ new, ∃ stamp, stamp.length = 8 ∧ IsPong sent stamp := by
  have steady : net.Steady shortResponse (done ++ todo) :=
    .inr ⟨done, todo, reading.opened, reading.short⟩
  have is101 : Is101 shortResponse :=
    ⟨by decide, by decide, by decide⟩
  have after := steady.receive works is101
    fun frame held => (reading.plain frame held).1
  obtain ⟨⟨handed, effects, trace, all_handed, serves⟩, can⟩ :=
    receive_extends os reading.canSend
  rcases after with waiting | ⟨done', todo', opened, short⟩
  · cases waiting.hs.symm.trans can.hs
  have same : done ++ todo = done' ++ todo' := opened.framed.frames
  have all : (net.receive os).handed = net.handed ++ handed := by
    rw [Net.handed, trace, List.filterMap_append, all_handed]
    rfl
  rw [opened.handed, reading.opened.handed] at all
  have binary : ∀ message ∈ effects.filterMap NetEffect.handedFrame,
      message.1 ≠ 0x09 := by
    intro message held
    rw [all_handed] at held
    have inDone : message ∈ done'.map WireFrame.message := by
      rw [all]
      exact List.mem_append_right _ held
    obtain ⟨frame, isDone, rfl⟩ := List.mem_map.mp inDone
    have plain := (reading.plain frame
      (same ▸ List.mem_append_left _ isDone)).2
    change frame.opcode ≠ 0x09
    rw [plain]
    decide
  refine ⟨done', todo', _, same.symm, ⟨?_, short, ?_, ?_⟩,
    .of_effects trace (serves.accepted binary), ?_⟩
  · rw [← same]
    exact opened
  · rw [Net.confirmed, trace, List.filterMap_append, serves.confirmed,
      all_handed, ← Net.confirmed, reading.confirmed, all,
      List.flatMap_append]
  · rw [← same]
    exact reading.plain
  · intro sent isNew
    obtain ⟨bytes, isStamp, pong⟩ := mem_of_forall₂ serves.answered sent isNew
    obtain ⟨message, _, found⟩ := List.mem_filterMap.mp isStamp
    exact ⟨bytes, stamp_length found, pong⟩

end Net

end FuryClash.Client
