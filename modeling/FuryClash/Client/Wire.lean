import FuryClash.Client.Sending

namespace FuryClash.Client

open FuryClash.Data

/-! What a session of `ws_send` calls leaves on the wire, whatever the socket
does with the single `send` calls. -/

namespace SentFrame

/-- All of the frame is on the wire, or nothing of it. -/
def Whole (sent : SentFrame) : Prop :=
  sent.accepted = 0 ∨ sent.accepted = sent.bytes.length

instance (sent : SentFrame) : Decidable sent.Whole :=
  inferInstanceAs (Decidable (_ ∨ _))

end SentFrame

namespace Net

structure OnlyWholeFrames (net : Net) : Prop where
  bytes : net.accepted =
    net.sentFrames.flatMap fun sent => sent.bytes.take sent.accepted
  encoded : ∀ sent ∈ net.sentFrames, ∃ ticks payload,
    sent.bytes = wsEncodeFrame ticks payload
  error : ∀ sent ∈ net.sentFrames, sent.Whole ∨ net.ws.state = .error
  silent : net.sentFrames.Pairwise fun sent later =>
    sent.Whole ∨ later.accepted = 0

def sendStep (os : Os) : Machine Net (List UInt8) := fun net payload =>
  net.wsSend os payload

structure Uncut (os : Os) (net : Net) (payload : List UInt8) : Prop where
  /-- `EAGAIN` comes at the first byte of a frame or not at all, or in a state
  that is an error already. -/
  again : net.Sends payload → net.Begins os →
    os.refusal (net.frameOf os payload).length 0 net.calls = some .again →
      net.ws.state = .error
  /-- Behind a cut frame the socket takes no more. -/
  behind : net.Sends payload →
    (∃ sent ∈ net.sentFrames, ¬ sent.Whole) → ¬ net.Begins os

variable {os : Os} {net net' : Net} {payload : List UInt8} {taken : Nat}

theorem SendsFrame.onlyWholeFrames (call : SendsFrame os net payload net' taken)
    (whole : net.OnlyWholeFrames)
    (cut_fails : 0 < taken → taken < (net.frameOf os payload).length →
      net'.ws.state = .error)
    (silent : (∃ sent ∈ net.sentFrames, ¬ sent.Whole) → taken = 0) :
    net'.OnlyWholeFrames := by
  have still_error (error : net.ws.state = .error) :
      net'.ws.state = .error := by
    cases call.ended with
    | whole _ state => exact state.trans error
    | again _ state => exact state.trans error
    | failed _ state => exact state
  constructor
  case bytes =>
    rw [call.accepted, call.sentFrames, List.flatMap_append, whole.bytes,
      List.flatMap_singleton]
  case encoded =>
    rw [call.sentFrames, List.forall_mem_append]
    refine ⟨whole.encoded, ?_⟩
    intro sent isNew
    obtain rfl := List.mem_singleton.mp isNew
    exact ⟨_, payload, rfl⟩
  case error =>
    rw [call.sentFrames, List.forall_mem_append]
    constructor
    · intro sent held
      exact (whole.error sent held).imp_right still_error
    · intro sent isNew
      obtain rfl := List.mem_singleton.mp isNew
      cases call.ended with
      | whole all => exact .inl (.inr all)
      | again short =>
          rcases Nat.eq_zero_or_pos taken with none_taken | some_taken
          · exact .inl (.inl none_taken)
          · exact .inr (cut_fails some_taken short)
      | failed _ state => exact .inr state
  case silent =>
    rw [call.sentFrames, List.pairwise_append]
    refine ⟨whole.silent, List.pairwise_singleton _ _, ?_⟩
    intro sent held later isNew
    obtain rfl := List.mem_singleton.mp isNew
    by_cases isWhole : sent.Whole
    · exact .inl isWhole
    · exact .inr (silent ⟨sent, held, isWhole⟩)

theorem Uncut.onlyWholeFrames (whole : net.OnlyWholeFrames)
    (uncut : net.Uncut os payload) :
    (net.wsSend os payload).OnlyWholeFrames := by
  by_cases sends : net.Sends payload
  · obtain ⟨taken, call⟩ := wsSend_sendsFrame os sends
    refine call.onlyWholeFrames whole ?_ ?_
    · intro some_taken short
      cases call.ended with
      | whole all => omega
      | again _ state refusal =>
          exact state.trans
            (uncut.again sends (call.begins.mp some_taken) refusal)
      | failed _ state => exact state
    · intro cut
      have stays := uncut.behind sends cut
      rw [← call.begins] at stays
      omega
  · rwa [wsSend_of_not_sends sends]

theorem uncut_of_onlyWholeFrames
    (whole : (net.wsSend os payload).OnlyWholeFrames) :
    net.Uncut os payload := by
  constructor
  case again =>
    intro sends begins refusal
    obtain ⟨taken, call⟩ := wsSend_sendsFrame os sends
    have some_taken := call.begins.mpr begins
    have sent := whole.error ⟨net.frameOf os payload, taken⟩
      (by rw [call.sentFrames]; exact List.mem_concat_self)
    cases call.ended with
    | again short state =>
        rw [state] at sent
        refine sent.resolve_left ?_
        rintro (none_taken | all)
        · exact absurd none_taken (Nat.ne_of_gt some_taken)
        · exact absurd all (Nat.ne_of_lt short)
    | whole _ _ none => cases none.symm.trans refusal
    | failed _ _ failed => cases failed.symm.trans refusal
  case behind =>
    rintro sends ⟨sent, held, cut⟩ begins
    obtain ⟨taken, call⟩ := wsSend_sendsFrame os sends
    have some_taken := call.begins.mpr begins
    have silent := whole.silent
    rw [call.sentFrames, List.pairwise_append] at silent
    rcases silent.2.2 sent held _ (List.mem_singleton.mpr rfl) with all | none
    · exact cut all
    · exact absurd none (Nat.ne_of_gt some_taken)

/-- Only whole frames are on the wire, and a cut one is the last and an error,
exactly as long as no call gets `EAGAIN` inside its frame and the socket takes
nothing behind a frame that an error has cut. -/
theorem onlyWholeFrames_iff_uncut (os : Os) (net : Net)
    (payloads : List (List UInt8)) :
    (sendStep os).Always OnlyWholeFrames { net with trace := [] } payloads ↔
      (sendStep os).Along (Uncut os) { net with trace := [] } payloads := by
  refine Machine.always_iff_along OnlyWholeFrames ?_ ?_ ?_ ?_
  · intro net payload whole uncut
    exact uncut.onlyWholeFrames whole
  · intro net whole
    exact whole
  · intro net payload _ cut whole
    exact cut (uncut_of_onlyWholeFrames whole)
  · exact ⟨rfl, nofun, nofun, .nil⟩

end Net

def fullOnce : Os where
  send call := match call with
    | 0 => .accepted 2
    | 1 => .again
    | _ => .accepted 4095
  recv _ := .again
  dial _ := .connected
  tcp _ := .writable
  stream _ := []
  ticks _ := 0
  allocates _ := true

def openNet : Net := { Net.initial with ws := { Ws.zero with hs := .opened } }

def twoInputs : List (List UInt8) :=
  [Net.inputPayload 10 1, Net.inputPayload 11 1]

theorem not_onlyWholeFrames_fullOnce :
    ¬ (Net.sendStep fullOnce).Always Net.OnlyWholeFrames openNet twoInputs := by
  rintro ⟨_, _, whole⟩
  have cut : ¬ ((Net.sendStep fullOnce).run openNet twoInputs).sentFrames.Pairwise
      fun sent later => sent.Whole ∨ later.accepted = 0 := by
    decide +kernel
  exact cut whole.silent

end FuryClash.Client
