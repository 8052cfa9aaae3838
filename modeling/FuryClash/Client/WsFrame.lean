import Mathlib.Algebra.Ring.Int.Defs
import Mathlib.Algebra.Ring.Nat
import Mathlib.Data.List.Basic

namespace FuryClash.Client

/-! The WebSocket frames of `net_client.c`: the encoder of `ws_send`, and the
parser of the receive buffer. `size_t` has 64 bits and wraps. -/

def wsRecvBuf : Nat := 65536

def wsSendBuf : Nat := 4096

def sizeT (value : Nat) : Nat := value % 2 ^ 64

/-- `(int)` of a `size_t`. -/
def toInt (value : Nat) : Int :=
  if value % 2 ^ 32 < 2 ^ 31 then (value % 2 ^ 32 : Nat)
  else (value % 2 ^ 32 : Nat) - 2 ^ 32

structure MaskKey where
  b0 : UInt8
  b1 : UInt8
  b2 : UInt8
  b3 : UInt8
  deriving DecidableEq

namespace MaskKey

/-- `mask[j & 3]`. -/
def byteAt (key : MaskKey) (j : Nat) : UInt8 :=
  match j % 4 with
  | 0 => key.b0
  | 1 => key.b1
  | 2 => key.b2
  | _ => key.b3

def bytes (key : MaskKey) : List UInt8 := [key.b0, key.b1, key.b2, key.b3]

def apply (key : MaskKey) (payload : List UInt8) : List UInt8 :=
  payload.mapIdx fun j byte => byte ^^^ key.byteAt j

/-- The xorshift of `ws_encode_frame`, on the low 32 bits of the clock. -/
def ofTicks (ticks : UInt32) : MaskKey :=
  let r := ticks ^^^ (ticks <<< 13)
  let r := r ^^^ (r >>> 17)
  let r := r ^^^ (r <<< 5)
  ⟨(r >>> 24).toUInt8, (r >>> 16).toUInt8, (r >>> 8).toUInt8, r.toUInt8⟩

@[simp] theorem apply_length (key : MaskKey) (payload : List UInt8) :
    (key.apply payload).length = payload.length := by
  rw [apply, List.length_mapIdx]

@[simp] theorem bytes_length (key : MaskKey) : key.bytes.length = 4 := rfl

@[simp] theorem apply_apply (key : MaskKey) (payload : List UInt8) :
    key.apply (key.apply payload) = payload := by
  apply List.ext_getElem?
  intro j
  rw [apply, apply, List.getElem?_mapIdx, List.getElem?_mapIdx]
  cases payload[j]? with
  | none => rfl
  | some byte =>
      simp only [Option.map_some, UInt8.xor_assoc, UInt8.xor_self,
        UInt8.xor_zero]

end MaskKey

/-- The length field of the encoder; above 65535 only the low 32 bits of the
length are written. -/
def lengthField (plen : Nat) : List UInt8 :=
  if plen ≤ 125 then [0x80 ||| .ofNat plen]
  else if plen ≤ 65535 then
    [0x80 ||| 126, .ofNat (plen >>> 8), .ofNat (plen &&& 0xFF)]
  else
    [0x80 ||| 127, 0, 0, 0, 0, .ofNat (plen >>> 24), .ofNat (plen >>> 16),
      .ofNat (plen >>> 8), .ofNat (plen &&& 0xFF)]

def wsEncodeFrame (ticks : UInt32) (payload : List UInt8) : List UInt8 :=
  let mask := MaskKey.ofTicks ticks
  0x82 :: lengthField payload.length ++ mask.bytes ++ mask.apply payload

/-- `rbuf` and `rbuf_head`: the bytes that have not been consumed, and what the
memory behind them holds. -/
structure RecvBuf where
  bytes : List UInt8
  beyond : Nat → UInt8
  fits : bytes.length ≤ wsRecvBuf

namespace RecvBuf

def empty : RecvBuf := ⟨[], fun _ => 0, Nat.zero_le _⟩

def memory (buf : RecvBuf) (i : Nat) : UInt8 :=
  if i < buf.bytes.length then buf.bytes.getD i 0
  else buf.beyond (i - buf.bytes.length)

def avail (buf : RecvBuf) : Nat := wsRecvBuf - buf.bytes.length

/-- `recv` behind the bytes that are there, of as many as there is room for. -/
def append (data : List UInt8) (buf : RecvBuf) : RecvBuf where
  bytes := buf.bytes ++ data.take buf.avail
  beyond i := buf.beyond (i + (data.take buf.avail).length)
  fits := by
    have room := buf.fits
    simp only [List.length_append, List.length_take, avail]
    omega

/-- The `memmove` of the leftover to the front: the bytes behind it stay. -/
def consume (consumed : Nat) (buf : RecvBuf) : RecvBuf where
  bytes := buf.bytes.drop consumed
  beyond i := buf.memory ((buf.bytes.drop consumed).length + i)
  fits := by
    have room := buf.fits
    rw [List.length_drop]
    omega

/-- `rbuf_head = 0`. -/
def reset (buf : RecvBuf) : RecvBuf := ⟨[], buf.memory, Nat.zero_le _⟩

def maskKey (offset : Nat) (buf : RecvBuf) : MaskKey :=
  ⟨buf.memory offset, buf.memory (offset + 1), buf.memory (offset + 2),
    buf.memory (offset + 3)⟩

/-- The loop that unmasks `len` bytes from `hdr` on, with the key in front of
them. -/
def unmask (hdr len : Nat) (buf : RecvBuf) : RecvBuf where
  bytes := buf.bytes.mapIdx fun i byte =>
    if hdr ≤ i ∧ i < hdr + len then
      byte ^^^ (buf.maskKey (hdr - 4)).byteAt (i - hdr)
    else byte
  beyond j :=
    let i := buf.bytes.length + j
    if hdr ≤ i ∧ i < hdr + len then
      buf.beyond j ^^^ (buf.maskKey (hdr - 4)).byteAt (i - hdr)
    else buf.beyond j
  fits := by
    rw [List.length_mapIdx]
    exact buf.fits

end RecvBuf

/-- `len = (len << 8) | b[k]` over the bytes of the field. -/
def bigEndian (bytes : List UInt8) : Nat :=
  bytes.foldl (fun len byte => len * 256 + byte.toNat) 0

structure FrameHeader where
  opcode : UInt8
  masked : Bool
  hdr : Nat
  len : Nat
  deriving DecidableEq

/-- The header as far as the length; `none` when the buffer ends before it. -/
def frameHeader (b : List UInt8) : Option FrameHeader :=
  if b.length < 2 then none
  else
    let opcode := b.getD 0 0 &&& 0x0F
    let masked := decide ((b.getD 1 0 >>> 7) &&& 1 = 1)
    let maskLen := if masked then 4 else 0
    let len := (b.getD 1 0 &&& 0x7F).toNat
    if len = 126 then
      if b.length < 4 then none
      else
        some ⟨opcode, masked, 4 + maskLen, bigEndian ((b.drop 2).take 2)⟩
    else if len = 127 then
      if b.length < 10 then none
      else
        some ⟨opcode, masked, 10 + maskLen, bigEndian ((b.drop 2).take 8)⟩
    else some ⟨opcode, masked, 2 + maskLen, len⟩

/-- The value of `ws_parse_frame` and what it has written to: `incomplete` is 0,
`protocolError` is -1. -/
inductive ParseResult where
  | incomplete
  | protocolError
  | frame (opcode : UInt8) (payload plen consumed : Nat)
  deriving DecidableEq

def wsParseFrame (buf : RecvBuf) : ParseResult × RecvBuf :=
  match frameHeader buf.bytes with
  | none => (.incomplete, buf)
  | some header =>
      let total := sizeT (header.hdr + header.len)
      if (buf.bytes.length : Int) < toInt total then (.incomplete, buf)
      else if wsRecvBuf < total then (.protocolError, buf)
      else
        let buf :=
          if header.masked then buf.unmask header.hdr header.len else buf
        -- A length that wraps to 0 is returned like an incomplete frame.
        if total = 0 then (.incomplete, buf)
        else (.frame header.opcode header.hdr header.len total, buf)

theorem bytes_ne_nil_of_frame {buf buf' : RecvBuf} {opcode : UInt8}
    {payload plen consumed : Nat}
    (parsed : wsParseFrame buf = (.frame opcode payload plen consumed, buf')) :
    buf.bytes ≠ [] := by
  intro none_there
  rw [wsParseFrame, none_there] at parsed
  cases parsed

theorem toInt_small {value : Nat} (small : value < 2 ^ 31) :
    toInt value = value := by
  rw [toInt, Nat.mod_eq_of_lt (by omega), if_pos small]

theorem wsParseFrame_consumed {buf buf' : RecvBuf} {opcode : UInt8}
    {payload plen consumed : Nat}
    (parsed : wsParseFrame buf = (.frame opcode payload plen consumed, buf')) :
    0 < consumed ∧ consumed ≤ buf.bytes.length ∧
      buf'.bytes.length = buf.bytes.length := by
  rw [wsParseFrame] at parsed
  split at parsed
  next => cases parsed
  next header _ =>
    dsimp only at parsed
    split at parsed
    next => cases parsed
    next announced =>
      split at parsed
      next => cases parsed
      next small =>
        split at parsed
        next => cases parsed
        next positive =>
          cases parsed
          have fits : sizeT (header.hdr + header.len) < 2 ^ 31 := by
            rw [wsRecvBuf] at small
            omega
          rw [toInt_small fits] at announced
          refine ⟨Nat.pos_of_ne_zero positive, by omega, ?_⟩
          split
          next => exact List.length_mapIdx
          next => rfl

end FuryClash.Client
