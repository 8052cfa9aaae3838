import FuryClash.Client.Dispatch
import FuryClash.Server.WireFormat

namespace FuryClash.Client

open FuryClash.Data

/-! The input messages between the two languages: what the client encodes and
the relay decodes, and what the relay encodes and the client decodes. -/

def clientInput (frame : Nat) (input : UInt16) : Server.DecodedMsg :=
  [("type", .nat Server.MsgType.clientInput.code),
    ("seq", .nat (frame % 2 ^ 16)),
    ("frame", .nat frame),
    ("input", .nat input.toNat)]

theorem ofNat_congr {first second : Nat}
    (same : first % 256 = second % 256) :
    UInt8.ofNat first = UInt8.ofNat second := by
  apply UInt8.toNat_inj.mp
  rw [UInt8.toNat_ofNat', UInt8.toNat_ofNat']
  exact same

theorem inputPayload_eq {frame : Nat} (fits : frame < 2 ^ 32)
    (input : UInt16) :
    Net.inputPayload frame input =
      [0x02] ++ (leBytes 2 (frame % 2 ^ 16) ++ (leBytes 4 frame ++
        (leBytes 2 input.toNat ++ []))) := by
  have same : ((frame : Int) % 2 ^ 32).toNat = frame := by omega
  have input_lt := input.toNat_lt
  rw [Net.inputPayload, same]
  simp only [leBytes, msgInput, List.cons_append, List.nil_append,
    List.cons.injEq, and_true, true_and]
  refine ⟨?_, ?_, ?_, ?_, ?_, ?_⟩ <;>
    exact ofNat_congr (by omega)

theorem inputPayload_windows {frame : Nat} (fits : frame < 2 ^ 32)
    (input : UInt16) :
    leWindow (Net.inputPayload frame input) 1 2 = frame % 2 ^ 16 ∧
      leWindow (Net.inputPayload frame input) 3 4 = frame ∧
      leWindow (Net.inputPayload frame input) 7 2 = input.toNat := by
  rw [inputPayload_eq fits input]
  refine ⟨?_, ?_, ?_⟩
  · rw [leWindow_append _ _ _ (by simp) (leBytes_length _ _)]
    exact leNat_leBytes (by omega)
  · rw [← List.append_assoc,
      leWindow_append _ _ _ (by simp) (leBytes_length _ _)]
    exact leNat_leBytes fits
  · rw [← List.append_assoc, ← List.append_assoc,
      leWindow_append _ _ _ (by simp) (leBytes_length _ _)]
    exact leNat_leBytes input.toNat_lt

theorem decodeClientMsg_inputPayload (runtime : JsRuntime) {frame : Nat}
    (fits : frame < 2 ^ 32) (input : UInt16) :
    Server.decodeClientMsg runtime (Net.inputPayload frame input) =
      .ok (some (clientInput frame input)) := by
  obtain ⟨seq, framed, inputs⟩ := inputPayload_windows fits input
  have decoded := Server.decodeClientMsg_input runtime
    (Net.inputPayload frame input).tail
  rw [if_neg (by simp [Net.inputPayload])] at decoded
  refine decoded.trans ?_
  have msg : Server.inputMsg (Net.inputPayload frame input) =
      clientInput frame input := by
    rw [Server.inputMsg, seq, framed, inputs, clientInput]
  exact congrArg (fun msg => Except.ok (some msg)) msg

def relayEntry (entry : Nat × UInt16) : Server.RelayEntry :=
  ⟨some (.nat entry.1), some (.nat entry.2.toNat)⟩

def entryBytes (entry : Nat × UInt16) : List UInt8 :=
  leBytes 4 entry.1 ++ leBytes 2 entry.2.toNat

def batchBytes (seq : Nat) (entries : List (Nat × UInt16)) : List UInt8 :=
  leBytes 1 Server.MsgType.serverRelay.code ++
    (leBytes 2 seq ++ (leBytes 1 entries.length ++
      entries.flatMap entryBytes))

@[simp] theorem entryBytes_length (entry : Nat × UInt16) :
    (entryBytes entry).length = 6 := by
  simp [entryBytes]

theorem batchBytes_length (seq : Nat) (entries : List (Nat × UInt16)) :
    (batchBytes seq entries).length = 4 + entries.length * 6 := by
  have sizes : (entries.map fun entry => (entryBytes entry).length).sum =
      entries.length * 6 := by
    simp
  rw [batchBytes, List.length_append, List.length_append,
    List.length_append, List.length_flatMap, sizes, leBytes_length,
    leBytes_length, leBytes_length]
  omega

theorem mapM_encodeRelayEntry (runtime : JsRuntime)
    {entries : List (Nat × UInt16)}
    (fit : ∀ entry ∈ entries, entry.1 < 2 ^ 32) :
    (entries.map relayEntry).mapM (Server.encodeRelayEntry runtime) =
      .ok (entries.map entryBytes) := by
  induction entries with
  | nil => rfl
  | cons entry rest ih =>
      obtain ⟨first, others⟩ := List.forall_mem_cons.mp fit
      have encoded : Server.encodeRelayEntry runtime (relayEntry entry) =
          .ok (entryBytes entry) :=
        Server.encodeRelayEntry_nat runtime first entry.2.toNat_lt
      rw [List.map_cons, List.mapM_cons, encoded, ih others]
      rfl

theorem encodeRelayBatch_entries (runtime : JsRuntime) {seq : Nat}
    {entries : List (Nat × UInt16)} (seqFits : seq < 2 ^ 16)
    (few : entries.length ≤ 255)
    (fit : ∀ entry ∈ entries, entry.1 < 2 ^ 32) :
    Server.encodeRelayBatch runtime seq (entries.map relayEntry) =
      .ok (batchBytes seq entries) := by
  have type := Server.writeUIntLE_nat runtime
    (show Server.MsgType.serverRelay.code < 256 ^ 1 by decide) (by decide)
  have seqBytes := Server.writeUIntLE_nat runtime
    (show seq < 256 ^ 2 by omega) (by decide)
  have count := Server.writeUIntLE_nat runtime
    (show entries.length < 256 ^ 1 by omega) (by decide)
  have all : min (entries.map relayEntry).length 255 = entries.length := by
    rw [List.length_map]
    omega
  have taken : (entries.map relayEntry).take entries.length =
      entries.map relayEntry :=
    List.take_of_length_le (by simp)
  rw [Server.encodeRelayBatch, all, type, seqBytes, count, taken,
    mapM_encodeRelayEntry runtime fit]
  simp [batchBytes, Bind.bind, Except.bind, Pure.pure, Except.pure,
    List.flatMap_def]

namespace Payload

def HoldsAt (payload : Payload) (p : Nat) (bytes : List UInt8) : Prop :=
  ∀ i byte, bytes[i]? = some byte → payload.memory (p + i) = byte

variable {payload : Payload} {p : Nat}

theorem holdsAt_append {first second : List UInt8}
    (holds : payload.HoldsAt p (first ++ second)) :
    payload.HoldsAt p first ∧ payload.HoldsAt (p + first.length) second := by
  constructor
  · intro i byte held
    have within := (List.getElem?_eq_some_iff.mp held).1
    exact holds i byte ((List.getElem?_append_left within).trans held)
  · intro i byte held
    rw [Nat.add_assoc]
    apply holds
    rw [List.getElem?_append_right (Nat.le_add_right _ _),
      Nat.add_sub_cancel_left]
    exact held

theorem bytes_length (payload : Payload) :
    payload.bytes.length = payload.plen := by
  rw [bytes, List.length_map, List.length_range]

theorem holdsAt_bytes (payload : Payload) :
    payload.HoldsAt 0 payload.bytes := by
  intro i byte held
  rw [bytes, List.getElem?_map] at held
  obtain ⟨j, at_i, rfl⟩ := Option.map_eq_some_iff.mp held
  obtain ⟨_, rfl⟩ := List.getElem?_eq_some_iff.mp at_i
  rw [List.getElem_range, Nat.zero_add]

theorem toNat_word (b0 b1 b2 b3 : UInt8) :
    (b0.toUInt32 ||| b1.toUInt32 <<< 8 ||| b2.toUInt32 <<< 16 |||
      b3.toUInt32 <<< 24).toNat = leNat [b0, b1, b2, b3] := by
  have small0 := b0.toNat_lt
  have small1 := b1.toNat_lt
  have small2 := b2.toNat_lt
  have small3 := b3.toNat_lt
  have no_wrap1 : b1.toNat <<< 8 % 4294967296 = b1.toNat <<< 8 :=
    Nat.mod_eq_of_lt (by rw [Nat.shiftLeft_eq]; omega)
  have no_wrap2 : b2.toNat <<< 16 % 4294967296 = b2.toNat <<< 16 :=
    Nat.mod_eq_of_lt (by rw [Nat.shiftLeft_eq]; omega)
  have no_wrap3 : b3.toNat <<< 24 % 4294967296 = b3.toNat <<< 24 :=
    Nat.mod_eq_of_lt (by rw [Nat.shiftLeft_eq]; omega)
  simp only [UInt32.toNat_or, UInt32.toNat_shiftLeft, UInt8.toNat_toUInt32,
    UInt32.toNat_ofNat, leNat, Nat.reducePow, Nat.reduceMod]
  have small01 : b0.toNat + b1.toNat * 2 ^ 8 < 2 ^ 16 := by omega
  have small012 : b0.toNat + b1.toNat * 2 ^ 8 + b2.toNat * 2 ^ 16 < 2 ^ 24 := by
    omega
  rw [no_wrap1, no_wrap2, no_wrap3, or_shiftLeft small0,
    or_shiftLeft small01, or_shiftLeft small012]
  omega

theorem toNat_half (b0 b1 : UInt8) :
    (b0.toUInt16 ||| b1.toUInt16 <<< 8).toNat = leNat [b0, b1] := by
  have small0 := b0.toNat_lt
  have small1 := b1.toNat_lt
  have no_wrap : b1.toNat <<< 8 % 2 ^ 16 = b1.toNat <<< 8 :=
    Nat.mod_eq_of_lt (by rw [Nat.shiftLeft_eq]; omega)
  have shift : UInt16.toNat 8 % 16 = 8 := rfl
  rw [UInt16.toNat_or, UInt16.toNat_shiftLeft, UInt8.toNat_toUInt16,
    UInt8.toNat_toUInt16, shift, no_wrap, or_shiftLeft small0, leNat, leNat,
    leNat]
  omega

theorem memory_of_prefix {bytes : List UInt8} {i : Nat} {byte : UInt8}
    (front : payload.bytes <+: bytes) (within : i < payload.plen)
    (held : bytes[i]? = some byte) : payload.memory i = byte := by
  obtain ⟨rest, rfl⟩ := front
  rw [List.getElem?_append_left (payload.bytes_length ▸ within)] at held
  have holds := payload.holdsAt_bytes i byte held
  rwa [Nat.zero_add] at holds

theorem entry_of_holdsAt {entry : Nat × UInt16} (fits : entry.1 < 2 ^ 31)
    (holds : payload.HoldsAt p (entryBytes entry)) :
    payload.entry p = ((entry.1 : Int), entry.2) := by
  have b0 := holds 0 _ rfl
  have b1 := holds 1 _ rfl
  have b2 := holds 2 _ rfl
  have b3 := holds 3 _ rfl
  have b4 := holds 4 _ rfl
  have b5 := holds 5 _ rfl
  have frame : leNat (leBytes 4 entry.1) = entry.1 :=
    leNat_leBytes (by omega)
  have input : leNat (leBytes 2 entry.2.toNat) = entry.2.toNat :=
    leNat_leBytes entry.2.toNat_lt
  simp only [Payload.entry, b0, b1, b2, b3, b4, b5]
  apply Prod.ext
  · rw [toNat_word]
    change toInt (leNat (leBytes 4 entry.1)) = _
    rw [frame, toInt, if_pos (by omega), Nat.mod_eq_of_lt (by omega)]
  · apply UInt16.toNat_inj.mp
    rw [toNat_half]
    exact input

end Payload

def NetEffect.confirmed : NetEffect → Option (Int × UInt16)
  | .confirmRemote number input => some (number, input)
  | _ => none

namespace Net

def confirmed (net : Net) : List (Int × UInt16) :=
  net.trace.filterMap NetEffect.confirmed

variable {os : Os} {net : Net} {payload : Payload}

@[simp] theorem effect_confirmed (net : Net) (effect : NetEffect) :
    (net.effect effect).confirmed =
      net.confirmed ++ effect.confirmed.toList := by
  rw [confirmed, effect_trace, List.filterMap_append, confirmed]
  cases found : effect.confirmed with
  | none => simp [found]
  | some entry => simp [found]

theorem confirmEntries_confirmed {entries : List (Nat × UInt16)} {p : Nat}
    (fit : ∀ entry ∈ entries, entry.1 < 2 ^ 31)
    (holds : payload.HoldsAt p (entries.flatMap entryBytes)) :
    (net.confirmEntries payload entries.length p).confirmed =
      net.confirmed ++
        entries.map fun entry => ((entry.1 : Int), entry.2) := by
  induction entries generalizing net p with
  | nil => exact (List.append_nil _).symm
  | cons entry rest ih =>
      obtain ⟨first, others⟩ := List.forall_mem_cons.mp fit
      obtain ⟨here, behind⟩ := Payload.holdsAt_append holds
      rw [entryBytes_length] at behind
      rw [List.length_cons, confirmEntries]
      dsimp only
      rw [ih others behind, effect_confirmed,
        Payload.entry_of_holdsAt first here, List.append_assoc]
      rfl

theorem dispatchMessage_batch (some_there : 1 ≤ payload.plen)
    (type : payload.memory 0 = msgInputBatch) :
    net.dispatchMessage os payload =
      let net := net.effect (.dispatched payload.bytes)
      if payload.plen < 4 then net
      else if payload.plen < 4 + (payload.memory 3).toNat * 6 then net
      else net.confirmEntries payload (payload.memory 3).toNat 4 := by
  have first : ¬ payload.plen < 1 := by omega
  rw [dispatchMessage, if_neg first, type]
  rfl

variable {seq : Nat} {entries : List (Nat × UInt16)}

/-- As many of the bytes of a batch as are there, as `dispatch_message` reads
them. -/
theorem dispatchMessage_front (few : entries.length ≤ 255)
    (front : payload.bytes <+: batchBytes seq entries) :
    net.dispatchMessage os payload =
      let net := net.effect (.dispatched payload.bytes)
      if payload.plen < 4 + entries.length * 6 then net
      else net.confirmEntries payload entries.length 4 := by
  dsimp only
  by_cases some_there : 1 ≤ payload.plen
  · have type := Payload.memory_of_prefix front some_there rfl
    rw [dispatchMessage_batch some_there type]
    dsimp only
    split
    next short => rw [if_pos (by omega)]
    next long =>
      have count : payload.memory 3 = UInt8.ofNat entries.length :=
        Payload.memory_of_prefix front (by omega) rfl
      have same : (payload.memory 3).toNat = entries.length := by
        rw [count, UInt8.toNat_ofNat']
        omega
      rw [same]
  · rw [dispatchMessage, if_pos (by omega), if_pos (by omega)]

theorem dispatchMessage_confirms (few : entries.length ≤ 255)
    (fit : ∀ entry ∈ entries, entry.1 < 2 ^ 31)
    (whole : payload.bytes = batchBytes seq entries) :
    (net.dispatchMessage os payload).confirmed =
      net.confirmed ++
        entries.map fun entry => ((entry.1 : Int), entry.2) := by
  have length : payload.plen = 4 + entries.length * 6 := by
    rw [← payload.bytes_length, whole, batchBytes_length]
  have holds : payload.HoldsAt 4 (entries.flatMap entryBytes) := by
    have all := payload.holdsAt_bytes
    rw [whole, batchBytes] at all
    have behind := (Payload.holdsAt_append (Payload.holdsAt_append
      (Payload.holdsAt_append all).2).2).2
    simpa using behind
  have front : payload.bytes <+: batchBytes seq entries :=
    whole ▸ List.prefix_refl payload.bytes
  rw [dispatchMessage_front few front]
  dsimp only
  rw [if_neg (by omega), confirmEntries_confirmed fit holds,
    effect_confirmed]
  exact congrArg (· ++ _) (List.append_nil _)

theorem dispatchMessage_cut (few : entries.length ≤ 255)
    (front : payload.bytes <+: batchBytes seq entries)
    (proper : payload.bytes ≠ batchBytes seq entries) :
    (net.dispatchMessage os payload).confirmed = net.confirmed := by
  have short : payload.plen < 4 + entries.length * 6 := by
    rw [← payload.bytes_length, ← batchBytes_length seq entries]
    refine Nat.lt_of_le_of_ne front.length_le ?_
    intro same
    exact proper (front.eq_of_length same)
  rw [dispatchMessage_front few front]
  dsimp only
  rw [if_pos short, effect_confirmed]
  exact List.append_nil _

/-- What one client sends reaches the other's rollback engine. -/
structure InputCodec (runtime : JsRuntime) : Prop where
  decodes : ∀ frame : Nat, frame < 2 ^ 31 → ∀ input : UInt16,
    (inputPayload frame input).length = 9 ∧
      Server.decodeClientMsg runtime (inputPayload frame input) =
        .ok (some (clientInput frame input))
  confirms : ∀ seq < 2 ^ 16, ∀ entries : List (Nat × UInt16),
    entries.length ≤ 255 → (∀ entry ∈ entries, entry.1 < 2 ^ 31) →
      ∃ bytes,
        Server.encodeRelayBatch runtime seq (entries.map relayEntry) =
          .ok bytes ∧
        (∀ os net payload, payload.bytes = bytes →
          (dispatchMessage os payload net).confirmed = net.confirmed ++
            entries.map fun entry => ((entry.1 : Int), entry.2)) ∧
        ∀ os net payload, payload.bytes <+: bytes → payload.bytes ≠ bytes →
          (dispatchMessage os payload net).confirmed = net.confirmed
  reaches : ∀ frame : Nat, frame < 2 ^ 31 → ∀ input : UInt16,
    ∀ seq < 2 ^ 16, ∃ msg bytes,
    Server.decodeClientMsg runtime (inputPayload frame input) =
      .ok (some msg) ∧
    Server.encodeRelayBatch runtime seq
      [⟨Json.get "frame" msg, Json.get "input" msg⟩] =
        .ok bytes ∧
    ∀ os net payload, payload.bytes = bytes →
      (dispatchMessage os payload net).confirmed =
        net.confirmed ++ [((frame : Int), input)]

theorem inputPayload_reaches (runtime : JsRuntime) {frame seq : Nat}
    (fits : frame < 2 ^ 31) (input : UInt16) (seqFits : seq < 2 ^ 16) :
    ∃ msg bytes,
      Server.decodeClientMsg runtime (inputPayload frame input) =
        .ok (some msg) ∧
      Server.encodeRelayBatch runtime seq
        [⟨Json.get "frame" msg, Json.get "input" msg⟩] = .ok bytes ∧
      ∀ os net payload, payload.bytes = bytes →
        (dispatchMessage os payload net).confirmed =
          net.confirmed ++ [((frame : Int), input)] := by
  have fit : ∀ entry ∈ [(frame, input)], entry.1 < 2 ^ 31 :=
    List.forall_mem_singleton.mpr fits
  have frameFits : frame < 2 ^ 32 := by omega
  have few : [(frame, input)].length ≤ 255 := by simp
  have encoded := encodeRelayBatch_entries runtime seqFits few
    (List.forall_mem_singleton.mpr frameFits)
  refine ⟨clientInput frame input, batchBytes seq [(frame, input)],
    decodeClientMsg_inputPayload runtime frameFits input, encoded, ?_⟩
  intro os net payload whole
  exact dispatchMessage_confirms few fit whole

theorem inputCodec (runtime : JsRuntime) : InputCodec runtime where
  decodes frame fits input := by
    have frameFits : frame < 2 ^ 32 := by omega
    exact ⟨rfl, decodeClientMsg_inputPayload runtime frameFits input⟩
  confirms seq seqFits entries few fit := by
    have framesFit : ∀ entry ∈ entries, entry.1 < 2 ^ 32 := by
      intro entry held
      have small := fit entry held
      omega
    refine ⟨_, encodeRelayBatch_entries runtime seqFits few framesFit,
      ?_, ?_⟩
    · intro os net payload whole
      exact dispatchMessage_confirms few fit whole
    · intro os net payload front proper
      exact dispatchMessage_cut few front proper
  reaches frame fits input seq seqFits :=
    inputPayload_reaches runtime fits input seqFits

end Net

end FuryClash.Client
