import FuryClash.Client.WireFrame
import Mathlib.Data.Set.Basic

namespace FuryClash.Client

open FuryClash.Data

/-! What `ws_parse_frame` returns lies inside the buffer, up to the wrapping of
`size_t`; and it takes back what `ws_encode_frame` has written. -/

/-- `b[hdr + j] ^= mk[j & 3]`, with `mk` in front of `hdr`. -/
def unmaskTurn (hdr j : Nat) (memory : Nat → UInt8) : Nat → UInt8 :=
  Function.update memory (hdr + j)
    (memory (hdr + j) ^^^ memory (hdr - 4 + j % 4))

def unmaskLoop (hdr : Nat) : (len : Nat) → (Nat → UInt8) → Nat → UInt8
  | 0, memory => memory
  | len + 1, memory => unmaskTurn hdr len (unmaskLoop hdr len memory)

def unmaskWrites (buf : RecvBuf) : Set Nat :=
  { i | ∃ header, frameHeader buf.bytes = some header ∧
    header.masked = true ∧ ∃ j < header.len, i = header.hdr + j }

/-- A frame that is returned lies inside of what has been received, and so does
what has been unmasked. -/
def FrameInside (buf : RecvBuf) : Prop :=
  ∀ opcode payload plen n buf',
    wsParseFrame buf = (.frame opcode payload plen n, buf') →
      payload + plen = n ∧ n ≤ buf.bytes.length ∧
        ∀ i ∈ unmaskWrites buf, i < n

/-- `hdr + len` is beyond 2^64, and what is left of it is not more than has
been received. -/
def WrapsIntoBuffer (buf : RecvBuf) : Prop :=
  ∃ header, frameHeader buf.bytes = some header ∧
    2 ^ 64 < header.hdr + header.len ∧
      header.hdr + header.len - 2 ^ 64 ≤ buf.bytes.length

theorem unmaskLoop_apply {hdr : Nat} (behind_key : 4 ≤ hdr) (len : Nat)
    (memory : Nat → UInt8) (i : Nat) :
    unmaskLoop hdr len memory i =
      if hdr ≤ i ∧ i < hdr + len then
        memory i ^^^ memory (hdr - 4 + (i - hdr) % 4)
      else memory i := by
  induction len generalizing i with
  | zero => exact (if_neg (by omega)).symm
  | succ len ih =>
      rw [unmaskLoop, unmaskTurn]
      by_cases here : i = hdr + len
      · have key_kept := ih (hdr - 4 + len % 4)
        rw [if_neg (by omega)] at key_kept
        have byte_kept := ih (hdr + len)
        rw [if_neg (by omega)] at byte_kept
        rw [here, Function.update_self, key_kept, byte_kept,
          if_pos (by omega), Nat.add_sub_cancel_left]
      · rw [Function.update_of_ne here, ih]
        by_cases within : hdr ≤ i ∧ i < hdr + len
        · rw [if_pos within, if_pos (by omega)]
        · rw [if_neg within, if_neg (by omega)]

theorem RecvBuf.maskKey_byteAt (buf : RecvBuf) (offset j : Nat) :
    (buf.maskKey offset).byteAt j = buf.memory (offset + j % 4) := by
  have cases : j % 4 = 0 ∨ j % 4 = 1 ∨ j % 4 = 2 ∨ j % 4 = 3 := by omega
  rw [MaskKey.byteAt]
  rcases cases with zero | one | two | three
  · rw [zero]
    rfl
  · rw [one]
    rfl
  · rw [two]
    rfl
  · rw [three]
    rfl

theorem RecvBuf.unmask_memory {hdr : Nat} (behind_key : 4 ≤ hdr) (len : Nat)
    (buf : RecvBuf) :
    (buf.unmask hdr len).memory = unmaskLoop hdr len buf.memory := by
  funext i
  rw [unmaskLoop_apply behind_key, ← maskKey_byteAt]
  have same_length : (buf.unmask hdr len).bytes.length = buf.bytes.length :=
    List.length_mapIdx
  by_cases there : i < buf.bytes.length
  · have held : (buf.unmask hdr len).bytes[i]? = some
        (if hdr ≤ i ∧ i < hdr + len then
          buf.memory i ^^^ (buf.maskKey (hdr - 4)).byteAt (i - hdr)
        else buf.memory i) := by
      have byte := List.getElem?_eq_getElem there
      rw [memory_of_getElem? byte, unmask]
      dsimp only
      rw [List.getElem?_mapIdx, byte]
      rfl
    exact memory_of_getElem? held
  · have index : buf.bytes.length + (i - buf.bytes.length) = i := by omega
    rw [memory, memory, same_length, if_neg there, if_neg there, unmask]
    dsimp only
    rw [index]

theorem bigEndian_lt (bytes : List UInt8) :
    bigEndian bytes < 256 ^ bytes.length := by
  rw [← List.reverse_reverse bytes, bigEndian_reverse, List.length_reverse]
  exact leNat_lt _

/-- The length fits its field, and no header is longer than 14 bytes. -/
theorem frameHeader_bounds {b : List UInt8} {header : FrameHeader}
    (parsed : frameHeader b = some header) :
    header.len < 2 ^ 64 ∧ header.hdr ≤ 14 := by
  have field (from_two width : Nat) (short : width ≤ 8) :
      bigEndian ((b.drop from_two).take width) < 2 ^ 64 := by
    refine Nat.lt_of_lt_of_le (bigEndian_lt _) ?_
    refine (Nat.pow_le_pow_right (by decide) (?_ : _ ≤ 8)).trans (by decide)
    exact (List.length_take_le _ _).trans short
  have mask_four (masked : Bool) : (if masked then 4 else 0) ≤ 4 := by
    cases masked <;> decide
  rw [frameHeader] at parsed
  split at parsed
  next => cases parsed
  next =>
    have key := mask_four (decide ((b.getD 1 0 >>> 7) &&& 1 = 1))
    dsimp only at parsed
    split at parsed
    next =>
      split at parsed
      next => cases parsed
      next =>
        cases parsed
        exact ⟨field 2 2 (by decide), by dsimp only; omega⟩
    next =>
      split at parsed
      next =>
        split at parsed
        next => cases parsed
        next =>
          cases parsed
          exact ⟨field 2 8 (by decide), by dsimp only; omega⟩
      next =>
        cases parsed
        have byte := (b.getD 1 0 &&& 0x7F).toNat_lt
        exact ⟨by dsimp only; omega, by dsimp only; omega⟩

/-- A frame that is returned, by its header. -/
theorem wsParseFrame_frame {buf buf' : RecvBuf} {opcode : UInt8}
    {payload plen n : Nat}
    (parsed : wsParseFrame buf = (.frame opcode payload plen n, buf')) :
    ∃ header, frameHeader buf.bytes = some header ∧ payload = header.hdr ∧
      plen = header.len ∧ n = sizeT (header.hdr + header.len) := by
  rw [wsParseFrame] at parsed
  split at parsed
  next => cases parsed
  next header read =>
    dsimp only at parsed
    split at parsed
    next => cases parsed
    next =>
      split at parsed
      next => cases parsed
      next =>
        split at parsed
        next => cases parsed
        next =>
          cases parsed
          exact ⟨header, read, rfl, rfl, rfl⟩

theorem wsParseFrame_of_total {buf : RecvBuf} {header : FrameHeader}
    (read : frameHeader buf.bytes = some header)
    (positive : 0 < sizeT (header.hdr + header.len))
    (there : sizeT (header.hdr + header.len) ≤ buf.bytes.length) :
    ∃ buf', wsParseFrame buf = (.frame header.opcode header.hdr header.len
      (sizeT (header.hdr + header.len)), buf') := by
  have room := buf.fits
  rw [wsRecvBuf] at room
  rw [wsParseFrame, read]
  dsimp only
  rw [toInt_small (by omega), if_neg (by omega),
    if_neg (by rw [wsRecvBuf]; omega), if_neg (by omega)]
  exact ⟨_, rfl⟩

theorem frameInside_iff_not_wraps (buf : RecvBuf) :
    FrameInside buf ↔ ¬ WrapsIntoBuffer buf := by
  constructor
  · rintro inside ⟨header, read, beyond, small⟩
    obtain ⟨len_lt, hdr_le⟩ := frameHeader_bounds read
    have total : sizeT (header.hdr + header.len) =
        header.hdr + header.len - 2 ^ 64 := by
      rw [sizeT]
      omega
    obtain ⟨buf', parsed⟩ :=
      wsParseFrame_of_total read (by omega) (by omega)
    have whole := (inside _ _ _ _ _ parsed).1
    omega
  · intro unwrapped opcode payload plen n buf' parsed
    obtain ⟨positive, there, _⟩ := wsParseFrame_consumed parsed
    obtain ⟨header, read, rfl, rfl, rfl⟩ := wsParseFrame_frame parsed
    obtain ⟨len_lt, hdr_le⟩ := frameHeader_bounds read
    have exact_sum : sizeT (header.hdr + header.len) =
        header.hdr + header.len := by
      by_contra wrapped
      apply unwrapped
      rw [sizeT] at wrapped positive there
      exact ⟨header, read, by omega, by omega⟩
    refine ⟨exact_sum.symm, there, ?_⟩
    rintro i ⟨same, read_again, _, j, within, rfl⟩
    cases read.symm.trans read_again
    omega

def longestFrame : RecvBuf where
  bytes := [0x82, 127, 255, 255, 255, 255, 255, 255, 255, 255]
  beyond _ := 0
  fits := by decide

theorem not_frameInside_longestFrame : ¬ FrameInside longestFrame := by
  intro inside
  have parsed : wsParseFrame longestFrame =
      (.frame 2 10 (2 ^ 64 - 1) 9, longestFrame) := by
    rw [wsParseFrame]
    rfl
  exact absurd (inside _ _ _ _ _ parsed).1 (by decide)

/-- The shortest form that announces the length. -/
def encodedForm (plen : Nat) : LengthForm :=
  if plen ≤ 125 then .short
  else if plen ≤ 65535 then .medium
  else .long

theorem encodedForm_fits {plen : Nat} (small : plen < 2 ^ 32) :
    plen < (encodedForm plen).bound := by
  rw [encodedForm]
  split
  next short => exact Nat.lt_succ_of_le short
  next =>
    split
    next medium => exact Nat.lt_succ_of_le medium
    next => exact Nat.lt_of_lt_of_le small (by decide)

def encodedFrame (ticks : UInt32) (payload : List UInt8)
    (small : payload.length < 2 ^ 32) : WireFrame where
  first := 0x82
  form := encodedForm payload.length
  mask := some (.ofTicks ticks)
  payload := payload
  fits := encodedForm_fits small

/-- The length field of the encoder is that of the frame. -/
theorem lengthField_eq {plen : Nat} (small : plen < 2 ^ 32) :
    lengthField plen =
      (0x80 ||| .ofNat ((encodedForm plen).code plen)) ::
        beBytes (encodedForm plen).width plen := by
  have low : UInt8.ofNat (plen &&& 0xFF) = UInt8.ofNat plen := by
    apply UInt8.toNat.inj
    rw [show (0xFF : Nat) = 2 ^ 8 - 1 from rfl, Nat.and_two_pow_sub_one_eq_mod]
    simp
  rw [lengthField, encodedForm]
  split
  next => rfl
  next =>
    split
    next =>
      rw [low, Nat.shiftRight_eq_div_pow]
      rfl
    next =>
      have top : plen / 256 / 256 / 256 / 256 = 0 := by omega
      have second : plen >>> 16 = plen / 256 / 256 := by
        rw [Nat.shiftRight_eq_div_pow, Nat.div_div_eq_div_mul]
      have third : plen >>> 24 = plen / 256 / 256 / 256 := by
        rw [Nat.shiftRight_eq_div_pow, Nat.div_div_eq_div_mul,
          Nat.div_div_eq_div_mul]
      rw [low, second, third, Nat.shiftRight_eq_div_pow]
      simp only [LengthForm.code, LengthForm.width, beBytes, leBytes, top]
      rfl

theorem encodedFrame_bytes (ticks : UInt32) {payload : List UInt8}
    (small : payload.length < 2 ^ 32) :
    (encodedFrame ticks payload small).bytes = wsEncodeFrame ticks payload := by
  rw [wsEncodeFrame, lengthField_eq small]
  simp only [WireFrame.bytes, WireFrame.head, WireFrame.second,
    WireFrame.maskBytes, WireFrame.masked, encodedFrame]
  simp

theorem length_le_wsEncodeFrame (ticks : UInt32) (payload : List UInt8) :
    payload.length ≤ (wsEncodeFrame ticks payload).length := by
  simp [wsEncodeFrame]
  omega

/-- The parser takes back what the encoder has written, whatever follows it,
and waits for it as long as a byte is missing. -/
theorem wsParseFrame_wsEncodeFrame (ticks : UInt32) (payload : List UInt8)
    (fits : (wsEncodeFrame ticks payload).length ≤ wsRecvBuf) :
    (∀ buf rest, buf.bytes = wsEncodeFrame ticks payload ++ rest →
      ∃ offset buf', wsParseFrame buf = (.frame 2 offset payload.length
          (wsEncodeFrame ticks payload).length, buf') ∧
        (Net.payloadAt buf' offset payload.length).bytes = payload) ∧
    ∀ buf missing, missing ≠ [] →
      buf.bytes ++ missing = wsEncodeFrame ticks payload →
        wsParseFrame buf = (.incomplete, buf) := by
  have within := length_le_wsEncodeFrame ticks payload
  have small : payload.length < 2 ^ 32 := by
    rw [wsRecvBuf] at fits
    omega
  rw [← encodedFrame_bytes ticks small] at fits ⊢
  constructor
  · intro buf rest whole
    have binary : (encodedFrame ticks payload small).opcode = 2 :=
      (by decide : (0x82 &&& 0x0F : UInt8) = 2)
    have parsed := WireFrame.wsParseFrame_whole _ whole fits
    rw [binary] at parsed
    exact ⟨_, _, parsed, WireFrame.unmaskIn_payload _ whole⟩
  · intro buf missing some_missing cut
    refine WireFrame.wsParseFrame_waits _ some_missing cut ?_
    exact Nat.lt_of_le_of_lt fits (by decide)

def longMessage : List UInt8 := List.replicate 300 7

theorem wsParseFrame_wsEncodeFrame_longMessage :
    (∀ buf rest, buf.bytes = wsEncodeFrame 1 longMessage ++ rest →
      ∃ offset buf', wsParseFrame buf = (.frame 2 offset longMessage.length
          (wsEncodeFrame 1 longMessage).length, buf') ∧
        (Net.payloadAt buf' offset longMessage.length).bytes = longMessage) ∧
    ∀ buf missing, missing ≠ [] →
      buf.bytes ++ missing = wsEncodeFrame 1 longMessage →
        wsParseFrame buf = (.incomplete, buf) :=
  wsParseFrame_wsEncodeFrame 1 longMessage (by decide +kernel)

end FuryClash.Client
