import FuryClash.Client.WsClient

namespace FuryClash.Client

namespace Os

/-- The first result other than accepted bytes that the sends of one call get
before `length` bytes are taken; `free` of them already are. -/
def refusal (os : Os) : (length free calls : Nat) → Option SendResult
  | 0, _, _ => none
  | length + 1, free + 1, calls => os.refusal length free calls
  | length + 1, 0, calls =>
      match os.send calls with
      | .accepted more => os.refusal length more (calls + 1)
      | result => some result

variable {os : Os} {calls more : Nat}

theorem refusal_free (length free calls : Nat) :
    os.refusal length free calls = os.refusal (length - free) 0 calls := by
  induction length generalizing free with
  | zero => rw [Nat.zero_sub, refusal, refusal]
  | succ length ih =>
      cases free with
      | zero => rfl
      | succ free => rw [refusal, ih, Nat.add_sub_add_right]

theorem refusal_accepted {length : Nat} (positive : 0 < length)
    (accepted : os.send calls = .accepted more) :
    os.refusal length 0 calls =
      os.refusal (length - (more + 1)) 0 (calls + 1) := by
  cases length with
  | zero => exact absurd positive (Nat.lt_irrefl 0)
  | succ length =>
      rw [refusal, accepted, Nat.add_sub_add_right]
      exact refusal_free length more (calls + 1)

theorem refusal_refused {length : Nat} {result : SendResult}
    (positive : 0 < length) (refused : os.send calls = result)
    (none_taken : ∀ more, result ≠ .accepted more) :
    os.refusal length 0 calls = some result := by
  cases length with
  | zero => exact absurd positive (Nat.lt_irrefl 0)
  | succ length =>
      rw [refusal, refused]
      split
      next more => exact absurd rfl (none_taken more)
      next => rfl

end Os

structure SentFrame where
  bytes : List UInt8
  accepted : Nat
  deriving DecidableEq

namespace NetEffect

def accepted : NetEffect → List UInt8
  | .sent bytes => bytes
  | _ => []

def sentFrame : NetEffect → Option SentFrame
  | .frame bytes accepted => some ⟨bytes, accepted⟩
  | _ => none

end NetEffect

namespace Net

variable {os : Os} {net : Net} {bytes : List UInt8}

@[simp] theorem effect_ws (effect : NetEffect) :
    (net.effect effect).ws = net.ws := rfl

@[simp] theorem effect_trace (effect : NetEffect) :
    (net.effect effect).trace = net.trace ++ [effect] := rfl

@[simp] theorem setState_trace (state : NetState) :
    (net.setState state).trace = net.trace ++ [.state state] := rfl

@[simp] theorem setRbuf_trace (rbuf : RecvBuf) :
    (net.setRbuf rbuf).trace = net.trace := rfl

@[simp] theorem setRbuf_ws (rbuf : RecvBuf) :
    (net.setRbuf rbuf).ws = { net.ws with rbuf := rbuf } := rfl

@[simp] theorem setRbuf_incoming (rbuf : RecvBuf) :
    (net.setRbuf rbuf).incoming = net.incoming := rfl

/-- After `calls` sends that have taken the chunks. -/
def wrote (calls : Nat) (chunks : List (List UInt8)) (net : Net) : Net :=
  { net with
    calls := net.calls + calls
    trace := net.trace ++ chunks.map .sent }

inductive Wrote (os : Os) (net : Net) (bytes : List UInt8) :
    List UInt8 × Net → Prop
  | whole (calls : Nat) (chunks : List (List UInt8))
      (all : chunks.flatten = bytes)
      (refusal : os.refusal bytes.length 0 net.calls = none) :
      Wrote os net bytes ([], net.wrote calls chunks)
  | again (calls : Nat) (chunks : List (List UInt8)) (rest : List UInt8)
      (split : chunks.flatten ++ rest = bytes) (left : rest ≠ [])
      (refusal : os.refusal bytes.length 0 net.calls = some .again) :
      Wrote os net bytes (rest, net.wrote calls chunks)
  | failed (calls : Nat) (chunks : List (List UInt8)) (rest : List UInt8)
      (split : chunks.flatten ++ rest = bytes) (left : rest ≠ [])
      (refusal : os.refusal bytes.length 0 net.calls = some .failed) :
      Wrote os net bytes (rest, (net.wrote calls chunks).setState .error)

theorem wrote_nothing (calls : Nat) :
    net.wrote calls [] = { net with calls := net.calls + calls } := by
  rw [wrote, List.map_nil, List.append_nil]

theorem wrote_more {calls : Nat} {chunk : List UInt8}
    {chunks : List (List UInt8)} :
    (net.call.effect (.sent chunk)).wrote calls chunks =
      net.wrote (calls + 1) (chunk :: chunks) := by
  simp [wrote, effect, call, Nat.add_assoc, Nat.add_comm 1]

/-- A send that takes bytes, and then the rest of the loop. -/
theorem Wrote.more {more : Nat} {result : List UInt8 × Net}
    (some_left : bytes ≠ []) (accepted : os.send net.calls = .accepted more)
    (rest : Wrote os
      (net.call.effect (.sent (bytes.take (min (more + 1) bytes.length))))
      (bytes.drop (min (more + 1) bytes.length)) result) :
    Wrote os net bytes result := by
  have positive : 0 < bytes.length := List.length_pos_iff.mpr some_left
  have refusal :
      os.refusal bytes.length 0 net.calls =
        os.refusal (bytes.drop (min (more + 1) bytes.length)).length 0
          (net.calls + 1) := by
    rw [Os.refusal_accepted positive accepted, List.length_drop]
    congr 1
    omega
  have joined := List.take_append_drop (min (more + 1) bytes.length) bytes
  cases rest with
  | whole calls chunks all none =>
      rw [wrote_more]
      refine .whole (calls + 1) _ ?_ (refusal.trans none)
      rw [List.flatten_cons, all, joined]
  | again calls chunks rest split left again =>
      rw [wrote_more]
      refine .again (calls + 1) _ rest ?_ left (refusal.trans again)
      rw [List.flatten_cons, List.append_assoc, split, joined]
  | failed calls chunks rest split left failed =>
      rw [wrote_more]
      refine .failed (calls + 1) _ rest ?_ left (refusal.trans failed)
      rw [List.flatten_cons, List.append_assoc, split, joined]

theorem sendLoop_wrote (os : Os) (net : Net) (turns : Nat)
    (enough : bytes.length ≤ turns) :
    Wrote os net bytes (net.sendLoop os turns bytes) := by
  induction turns generalizing bytes net with
  | zero =>
      obtain rfl : bytes = [] := List.length_eq_zero_iff.mp (by omega)
      have whole : Wrote os net [] _ := .whole 0 [] rfl rfl
      rwa [wrote_nothing] at whole
  | succ turns ih =>
      rw [sendLoop]
      split
      next none_left =>
        subst none_left
        have whole : Wrote os net [] _ := .whole 0 [] rfl rfl
        rwa [wrote_nothing] at whole
      next some_left =>
        have positive : 0 < bytes.length := List.length_pos_iff.mpr some_left
        rw [send]
        cases sent : os.send net.calls with
        | accepted more =>
            refine Wrote.more some_left sent (ih _ ?_)
            rw [List.length_drop]
            omega
        | again =>
            have again : Wrote os net bytes _ :=
              .again 1 [] bytes rfl some_left
                (Os.refusal_refused positive sent nofun)
            rwa [wrote_nothing] at again
        | failed =>
            have failed : Wrote os net bytes _ :=
              .failed 1 [] bytes rfl some_left
                (Os.refusal_refused positive sent nofun)
            rwa [wrote_nothing] at failed

theorem Wrote.left_le {rest : List UInt8} {net' : Net}
    (wrote : Wrote os net bytes (rest, net')) :
    rest.length ≤ bytes.length := by
  cases wrote with
  | whole => exact Nat.zero_le _
  | again _ chunks _ split =>
      rw [← split, List.length_append]
      exact Nat.le_add_left _ _
  | failed _ chunks _ split =>
      rw [← split, List.length_append]
      exact Nat.le_add_left _ _

theorem sendLoop_begins (os : Os) (net : Net) {turns : Nat} (enough : bytes.length ≤ turns)
    (some_left : bytes ≠ []) :
    (net.sendLoop os turns bytes).1.length < bytes.length ↔
      ∃ more, os.send net.calls = .accepted more := by
  have positive : 0 < bytes.length := List.length_pos_iff.mpr some_left
  cases turns with
  | zero => omega
  | succ turns =>
      rw [sendLoop, if_neg some_left, send]
      cases sent : os.send net.calls with
      | accepted more =>
          refine iff_of_true ?_ ⟨more, rfl⟩
          refine Nat.lt_of_le_of_lt
            (sendLoop_wrote os _ turns ?_).left_le ?_
          · rw [List.length_drop]
            omega
          · rw [List.length_drop]
            omega
      | again => exact iff_of_false (Nat.lt_irrefl _) nofun
      | failed => exact iff_of_false (Nat.lt_irrefl _) nofun

/-- Each turn of the loop sends a byte at least, so it ends by itself. -/
theorem sendLoop_turns (os : Os) (net : Net) (first second : Nat)
    (enough : bytes.length ≤ first) (enough' : bytes.length ≤ second) :
    net.sendLoop os first bytes = net.sendLoop os second bytes := by
  induction first generalizing net bytes second with
  | zero =>
      obtain rfl : bytes = [] := List.length_eq_zero_iff.mp (by omega)
      cases second with
      | zero => rfl
      | succ second => rfl
  | succ first ih =>
      cases second with
      | zero =>
          obtain rfl : bytes = [] := List.length_eq_zero_iff.mp (by omega)
          rfl
      | succ second =>
          rw [sendLoop, sendLoop]
          split
          next => rfl
          next some_left =>
            have positive := List.length_pos_iff.mpr some_left
            rw [send]
            cases os.send net.calls with
            | accepted more =>
                apply ih
                · rw [List.length_drop]
                  omega
                · rw [List.length_drop]
                  omega
            | again => rfl
            | failed => rfl

def accepted (net : Net) : List UInt8 := net.trace.flatMap NetEffect.accepted

def sentFrames (net : Net) : List SentFrame :=
  net.trace.filterMap NetEffect.sentFrame

section

variable (os : Os)

def Sends (net : Net) (payload : List UInt8) : Prop :=
  net.ws.hasFd = true ∧ net.ws.hs = .opened ∧ payload.length ≤ wsSendBuf

def frameOf (net : Net) (payload : List UInt8) : List UInt8 :=
  wsEncodeFrame (os.ticks net.calls) payload

def Begins (net : Net) : Prop := ∃ more, os.send net.calls = .accepted more

inductive Ended (net : Net) (frame : List UInt8) (net' : Net) (taken : Nat) :
    Prop
  | whole (all : taken = frame.length)
      (state : net'.ws.state = net.ws.state)
      (refusal : os.refusal frame.length 0 net.calls = none)
  | again (short : taken < frame.length)
      (state : net'.ws.state = net.ws.state)
      (refusal : os.refusal frame.length 0 net.calls = some .again)
  | failed (short : taken < frame.length) (state : net'.ws.state = .error)
      (refusal : os.refusal frame.length 0 net.calls = some .failed)

/-- What a call that sends does. -/
structure SendsFrame (net : Net) (payload : List UInt8) (net' : Net)
    (taken : Nat) : Prop where
  accepted : net'.accepted =
    net.accepted ++ (net.frameOf os payload).take taken
  sentFrames : net'.sentFrames =
    net.sentFrames ++ [⟨net.frameOf os payload, taken⟩]
  begins : 0 < taken ↔ net.Begins os
  ended : Ended os net (net.frameOf os payload) net' taken

end

variable {net' : Net} {payload rest : List UInt8} {taken : Nat}

theorem wrote_accepted (calls : Nat) (chunks : List (List UInt8)) :
    (net.wrote calls chunks).accepted = net.accepted ++ chunks.flatten := by
  have taken : (chunks.map NetEffect.sent).flatMap NetEffect.accepted =
      chunks.flatten := by
    rw [List.flatMap_map]
    exact List.flatMap_id'
  rw [accepted, wrote, List.flatMap_append, taken, accepted]

theorem wrote_sentFrames (calls : Nat) (chunks : List (List UInt8)) :
    (net.wrote calls chunks).sentFrames = net.sentFrames := by
  have none_sent : (chunks.map NetEffect.sent).filterMap
      NetEffect.sentFrame = [] := by
    rw [List.filterMap_map]
    exact List.filterMap_eq_nil_iff.mpr fun _ _ => rfl
  rw [sentFrames, wrote, List.filterMap_append, none_sent, List.append_nil,
    sentFrames]

theorem Wrote.accepted (wrote : Wrote os net bytes (rest, net')) :
    net'.accepted =
      net.accepted ++ bytes.take (bytes.length - rest.length) := by
  have prefix_taken {calls : Nat} {chunks : List (List UInt8)}
      {left : List UInt8} (split : chunks.flatten ++ left = bytes) :
      (net.wrote calls chunks).accepted =
        net.accepted ++ bytes.take (bytes.length - left.length) := by
    rw [wrote_accepted, ← split, List.length_append, Nat.add_sub_cancel,
      List.take_left]
  cases wrote with
  | whole _ chunks all =>
      exact prefix_taken ((List.append_nil _).trans all)
  | again _ chunks _ split => exact prefix_taken split
  | failed _ chunks _ split =>
      have unchanged (net : Net) :
          (net.setState .error).accepted = net.accepted := by
        simp [Net.accepted, NetEffect.accepted]
      exact (unchanged _).trans (prefix_taken split)

theorem Wrote.sentFrames (wrote : Wrote os net bytes (rest, net')) :
    net'.sentFrames = net.sentFrames := by
  cases wrote with
  | whole _ chunks => exact wrote_sentFrames _ chunks
  | again _ chunks => exact wrote_sentFrames _ chunks
  | failed _ chunks =>
      have unchanged (net : Net) :
          (net.setState .error).sentFrames = net.sentFrames := by
        simp [Net.sentFrames, NetEffect.sentFrame]
      exact (unchanged _).trans (wrote_sentFrames _ chunks)

theorem wsEncodeFrame_ne_nil (ticks : UInt32) (payload : List UInt8) :
    wsEncodeFrame ticks payload ≠ [] := by
  simp [wsEncodeFrame]

theorem wsSend_sendsFrame (os : Os) (sends : net.Sends payload) :
    ∃ taken, SendsFrame os net payload (net.wsSend os payload) taken := by
  obtain ⟨hasFd, opened, fits⟩ := sends
  rw [wsSend, if_neg (by simp [hasFd, opened]), if_neg (by omega)]
  have wrote := sendLoop_wrote os net
    (net.frameOf os payload).length (Nat.le_refl _)
  have begins := sendLoop_begins os net
    (Nat.le_refl (net.frameOf os payload).length)
    (wsEncodeFrame_ne_nil _ payload)
  rw [← frameOf]
  dsimp only
  generalize net.sendLoop os (net.frameOf os payload).length
    (net.frameOf os payload) = result at wrote begins
  obtain ⟨rest, after⟩ := result
  have left := wrote.left_le
  refine ⟨(net.frameOf os payload).length - rest.length, ?_⟩
  constructor
  case accepted =>
    rw [← wrote.accepted]
    simp [accepted, NetEffect.accepted]
  case sentFrames =>
    rw [← wrote.sentFrames]
    simp [sentFrames, NetEffect.sentFrame]
  case begins =>
    rw [Begins, ← begins]
    dsimp only
    omega
  case ended =>
    have some_sent (some_left : rest ≠ []) :
        (net.frameOf os payload).length - rest.length <
          (net.frameOf os payload).length := by
      have positive := List.length_pos_iff.mpr some_left
      omega
    cases wrote with
    | whole _ _ _ refusal => exact .whole rfl rfl refusal
    | again _ _ _ _ some_left refusal =>
        exact .again (some_sent some_left) rfl refusal
    | failed _ _ _ _ some_left refusal =>
        exact .failed (some_sent some_left) rfl refusal

theorem wsSend_of_not_sends (quiet : ¬ net.Sends payload) :
    net.wsSend os payload = net := by
  rw [wsSend]
  split
  next => rfl
  next opened =>
    rw [not_or, Bool.not_eq_false, not_not] at opened
    split
    next => rfl
    next fits => exact absurd ⟨opened.1, opened.2, by omega⟩ quiet

def FailsToSend (os : Os) (net : Net) (payload : List UInt8) : Prop :=
  net.Sends payload ∧
    os.refusal (net.frameOf os payload).length 0 net.calls = some .failed

theorem wsSend_of_failsToSend (fails : net.FailsToSend os payload) :
    (net.wsSend os payload).ws.state = .error := by
  obtain ⟨sends, refusal⟩ := fails
  obtain ⟨_, call⟩ := wsSend_sendsFrame os sends
  cases call.ended with
  | whole _ _ none => cases none.symm.trans refusal
  | again _ _ again => cases again.symm.trans refusal
  | failed _ state => exact state

theorem wsSend_state (works : ¬ net.FailsToSend os payload) :
    (net.wsSend os payload).ws.state = net.ws.state := by
  by_cases sends : net.Sends payload
  · obtain ⟨_, call⟩ := wsSend_sendsFrame os sends
    cases call.ended with
    | whole _ state => exact state
    | again _ state => exact state
    | failed _ _ refusal => exact absurd ⟨sends, refusal⟩ works
  · rw [wsSend_of_not_sends sends]

end Net

end FuryClash.Client
