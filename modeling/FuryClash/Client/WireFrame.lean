import FuryClash.Client.Dispatch
import FuryClash.Data.LittleEndian
import Mathlib.Data.List.GetD

namespace FuryClash.Client

open FuryClash.Data

/-! The frames that a server may send, and what `ws_parse_frame` makes of a
buffer that begins with one, whole or cut anywhere. -/

inductive LengthForm where
  | short
  | medium
  | long
  deriving DecidableEq

namespace LengthForm

/-- The lengths that the form can announce; it need not be the shortest. -/
def bound : LengthForm → Nat
  | short => 126
  | medium => 2 ^ 16
  | long => 2 ^ 64

def code (len : Nat) : LengthForm → Nat
  | short => len
  | medium => 126
  | long => 127

def width : LengthForm → Nat
  | short => 0
  | medium => 2
  | long => 8

end LengthForm

structure WireFrame where
  first : UInt8
  form : LengthForm
  mask : Option MaskKey
  payload : List UInt8
  fits : payload.length < form.bound

def beBytes (width value : Nat) : List UInt8 := (leBytes width value).reverse

namespace WireFrame

def opcode (frame : WireFrame) : UInt8 := frame.first &&& 0x0F

def second (frame : WireFrame) : UInt8 :=
  (if frame.mask.isSome then 0x80 else 0) |||
    .ofNat (frame.form.code frame.payload.length)

def head (frame : WireFrame) : List UInt8 :=
  frame.first :: frame.second :: beBytes frame.form.width frame.payload.length

def maskBytes (frame : WireFrame) : List UInt8 :=
  match frame.mask with
  | none => []
  | some key => key.bytes

def masked (frame : WireFrame) : List UInt8 :=
  match frame.mask with
  | none => frame.payload
  | some key => key.apply frame.payload

def bytes (frame : WireFrame) : List UInt8 :=
  frame.head ++ (frame.maskBytes ++ frame.masked)

/-- Where the payload begins. -/
def offset (frame : WireFrame) : Nat :=
  frame.head.length + frame.maskBytes.length

theorem head_length (frame : WireFrame) :
    frame.head.length = 2 + frame.form.width := by
  simp only [head, beBytes, List.length_cons, List.length_reverse,
    leBytes_length]
  omega

theorem bytes_length (frame : WireFrame) :
    frame.bytes.length = frame.offset + frame.payload.length := by
  have same : frame.masked.length = frame.payload.length := by
    rw [masked]
    split
    next => rfl
    next key _ => exact key.apply_length _
  rw [bytes, offset, List.length_append, List.length_append, same,
    Nat.add_assoc]

end WireFrame

theorem bigEndian_reverse (bytes : List UInt8) :
    bigEndian bytes.reverse = leNat bytes := by
  rw [bigEndian, List.foldl_reverse]
  induction bytes with
  | nil => rfl
  | cons byte rest ih =>
      rw [List.foldr_cons, ih, leNat]
      omega

theorem bigEndian_beBytes {width value : Nat} (fits : value < 256 ^ width) :
    bigEndian (beBytes width value) = value :=
  (bigEndian_reverse _).trans (leNat_leBytes fits)

theorem second_bits (bit : Bool) {code : Nat} (small : code < 128) :
    let byte : UInt8 := (if bit then 0x80 else 0) ||| .ofNat code
    decide ((byte >>> 7) &&& 1 = 1) = bit ∧ (byte &&& 0x7F).toNat = code := by
  have all : ∀ code < 128, ∀ bit : Bool,
      let byte : UInt8 := (if bit then 0x80 else 0) ||| .ofNat code
      decide ((byte >>> 7) &&& 1 = 1) = bit ∧
        (byte &&& 0x7F).toNat = code := by
    decide +kernel
  exact all code small bit

namespace WireFrame

variable (frame : WireFrame) {b missing tail : List UInt8}

theorem code_lt : frame.form.code frame.payload.length < 128 := by
  have fits := frame.fits
  cases form : frame.form with
  | short =>
      rw [form] at fits
      exact fits.trans (by decide)
  | medium => exact (by decide : 126 < 128)
  | long => exact (by decide : 127 < 128)

theorem second_masked :
    decide ((frame.second >>> 7) &&& 1 = 1) = frame.mask.isSome :=
  (second_bits frame.mask.isSome frame.code_lt).1

theorem second_code :
    (frame.second &&& 0x7F).toNat = frame.form.code frame.payload.length :=
  (second_bits frame.mask.isSome frame.code_lt).2

theorem offset_eq : frame.offset =
    2 + frame.form.width + if frame.mask.isSome then 4 else 0 := by
  rw [offset, head_length, maskBytes]
  cases frame.mask with
  | none => rfl
  | some key => rfl

theorem frameHeader_head (tail : List UInt8) :
    frameHeader (frame.head ++ tail) =
      some ⟨frame.opcode, frame.mask.isSome, frame.offset,
        frame.payload.length⟩ := by
  have length : (frame.head ++ tail).length =
      2 + frame.form.width + tail.length := by
    rw [List.length_append, head_length]
  have long : ¬ (frame.head ++ tail).length < 2 := by omega
  have field : ((frame.head ++ tail).drop 2).take frame.form.width =
      beBytes frame.form.width frame.payload.length := by
    refine List.take_left' ?_
    simp [beBytes]
  have getFirst : (frame.head ++ tail).getD 0 0 = frame.first := rfl
  have getSecond : (frame.head ++ tail).getD 1 0 = frame.second := rfl
  have fits := frame.fits
  rw [frameHeader, if_neg long]
  simp only [getFirst, getSecond, second_masked, second_code]
  rw [offset_eq]
  cases form : frame.form with
  | short =>
      rw [form] at fits
      have plain : frame.payload.length < 126 := fits
      rw [LengthForm.code, if_neg (by omega), if_neg (by omega)]
      rfl
  | medium =>
      rw [form] at fits
      simp only [form, LengthForm.width] at field length
      rw [LengthForm.code, if_pos rfl, if_neg (by omega), field,
        bigEndian_beBytes fits]
      rfl
  | long =>
      rw [form] at fits
      simp only [form, LengthForm.width] at field length
      rw [LengthForm.code, if_neg (by decide), if_pos rfl,
        if_neg (by omega), field, bigEndian_beBytes fits]
      rfl

theorem frameHeader_cut (some_missing : missing ≠ [])
    (cut : b ++ missing = frame.head) : frameHeader b = none := by
  have positive : 0 < missing.length := List.length_pos_iff.mpr some_missing
  have length : b.length + missing.length = 2 + frame.form.width := by
    rw [← head_length, ← cut, List.length_append]
  rw [frameHeader]
  split
  next => rfl
  next long =>
    have getSecond : b.getD 1 0 = frame.second := by
      have at_one : (b ++ missing).getD 1 0 = frame.second := by
        rw [cut]
        rfl
      rwa [List.getD_append _ _ _ _ (by omega)] at at_one
    simp only [getSecond, second_code]
    cases form : frame.form with
    | short =>
        rw [form, LengthForm.width] at length
        omega
    | medium =>
        rw [form, LengthForm.width] at length
        rw [LengthForm.code, if_pos rfl, if_pos (by omega)]
    | long =>
        rw [form, LengthForm.width] at length
        rw [LengthForm.code, if_neg (by decide), if_pos rfl,
          if_pos (by omega)]

end WireFrame

theorem mapIdx_eq_self (bytes : List UInt8) {f : Nat → UInt8 → UInt8}
    (same : ∀ i < bytes.length, ∀ byte, f i byte = byte) :
    bytes.mapIdx f = bytes := by
  apply List.ext_getElem?
  intro i
  rw [List.getElem?_mapIdx]
  cases held : bytes[i]? with
  | none => rfl
  | some byte =>
      have within := (List.getElem?_eq_some_iff.mp held).1
      exact congrArg some (same i within byte)

namespace RecvBuf

variable {buf : RecvBuf} {head payload rest : List UInt8} {key : MaskKey}

theorem memory_of_getElem? {i : Nat} {byte : UInt8}
    (held : buf.bytes[i]? = some byte) : buf.memory i = byte := by
  have within := (List.getElem?_eq_some_iff.mp held).1
  rw [memory, if_pos within, List.getD_eq_getElem?_getD, held]
  rfl

theorem maskKey_eq
    (holds : buf.bytes = head ++ (key.bytes ++ rest)) :
    buf.maskKey head.length = key := by
  have at_key (j : Nat) (byte : UInt8) (held : key.bytes[j]? = some byte) :
      buf.memory (head.length + j) = byte := by
    apply memory_of_getElem?
    have within := (List.getElem?_eq_some_iff.mp held).1
    rw [holds, List.getElem?_append_right (Nat.le_add_right _ _),
      Nat.add_sub_cancel_left, List.getElem?_append_left within]
    exact held
  rw [maskKey, at_key 1 _ rfl, at_key 2 _ rfl, at_key 3 _ rfl]
  have first := at_key 0 _ rfl
  rw [Nat.add_zero] at first
  rw [first]

/-- The payload is unmasked where it lies. -/
theorem unmask_bytes (holds : buf.bytes =
      head ++ (key.bytes ++ (key.apply payload ++ rest))) :
    (buf.unmask (head.length + 4) payload.length).bytes =
      head ++ (key.bytes ++ (payload ++ rest)) := by
  have unmasked : (key.apply payload).mapIdx
      (fun j byte => byte ^^^ key.byteAt j) = payload := key.apply_apply payload
  have four : key.bytes.length = 4 := key.bytes_length
  simp only [unmask, Nat.add_sub_cancel, maskKey_eq holds]
  rw [holds, List.mapIdx_append, List.mapIdx_append, List.mapIdx_append,
    mapIdx_eq_self head, mapIdx_eq_self key.bytes, mapIdx_eq_self rest]
  · congr 3
    refine Eq.trans (List.mapIdx_eq_mapIdx_iff.mpr ?_) unmasked
    intro i within
    rw [MaskKey.apply_length] at within
    rw [if_pos (by omega)]
    congr 2
    omega
  · intro i _ byte
    exact if_neg (by rw [MaskKey.apply_length]; omega)
  · intro i _ byte
    exact if_neg (by omega)
  · intro i _ byte
    exact if_neg (by omega)

end RecvBuf

namespace WireFrame

variable (frame : WireFrame) {buf : RecvBuf} {rest missing : List UInt8}

def unmaskIn (buf : RecvBuf) : RecvBuf :=
  if frame.mask.isSome then buf.unmask frame.offset frame.payload.length
  else buf

theorem unmaskIn_bytes (whole : buf.bytes = frame.bytes ++ rest) :
    (frame.unmaskIn buf).bytes =
      frame.head ++ (frame.maskBytes ++ (frame.payload ++ rest)) := by
  rw [unmaskIn, offset]
  rw [bytes, maskBytes, masked] at whole
  rw [maskBytes]
  cases masked : frame.mask with
  | none =>
      rw [masked] at whole
      simpa using whole
  | some key =>
      rw [masked] at whole
      have holds : buf.bytes = frame.head ++
          (key.bytes ++ (key.apply frame.payload ++ rest)) := by
        rw [whole, List.append_assoc, List.append_assoc]
      exact RecvBuf.unmask_bytes holds

theorem unmaskIn_payload (whole : buf.bytes = frame.bytes ++ rest) :
    (Net.payloadAt (frame.unmaskIn buf) frame.offset
      frame.payload.length).bytes = frame.payload := by
  have holds := frame.unmaskIn_bytes whole
  rw [← List.append_assoc] at holds
  apply List.ext_getElem?
  intro i
  rw [Payload.bytes, List.getElem?_map, Net.payloadAt]
  dsimp only
  by_cases within : i < frame.payload.length
  · have held := List.getElem?_eq_getElem within
    rw [List.getElem?_range within, Option.map_some, held]
    apply congrArg some
    apply RecvBuf.memory_of_getElem?
    rw [holds, offset, ← List.length_append,
      List.getElem?_append_right (Nat.le_add_right _ _),
      Nat.add_sub_cancel_left, List.getElem?_append_left within]
    exact held
  · rw [List.getElem?_eq_none (by simpa using within),
      List.getElem?_eq_none (by simpa using within)]
    rfl

theorem two_le_length : 2 ≤ frame.bytes.length := by
  rw [bytes, List.length_append, head_length]
  omega

theorem wsParseFrame_whole (whole : buf.bytes = frame.bytes ++ rest)
    (fits : frame.bytes.length ≤ wsRecvBuf) :
    wsParseFrame buf = (.frame frame.opcode frame.offset frame.payload.length
      frame.bytes.length, frame.unmaskIn buf) := by
  have header : frameHeader buf.bytes = some ⟨frame.opcode,
      frame.mask.isSome, frame.offset, frame.payload.length⟩ := by
    rw [whole, bytes, List.append_assoc]
    exact frame.frameHeader_head _
  have small : frame.bytes.length < 2 ^ 31 :=
    Nat.lt_of_le_of_lt fits (by decide)
  have total : sizeT (frame.offset + frame.payload.length) =
      frame.bytes.length := by
    rw [← bytes_length, sizeT, Nat.mod_eq_of_lt (by omega)]
  have length : buf.bytes.length = frame.bytes.length + rest.length := by
    rw [whole, List.length_append]
  have two := frame.two_le_length
  rw [wsParseFrame, header]
  dsimp only
  rw [total, toInt_small small, if_neg (by omega), if_neg (by omega),
    if_neg (by omega)]
  rfl

/-- A frame that is not all there is waited for, however large it is; it is
refused only when its length is negative as an `int`, or small. -/
theorem wsParseFrame_cut (some_missing : missing ≠ [])
    (cut : buf.bytes ++ missing = frame.bytes)
    (fits : frame.bytes.length < 2 ^ 64) :
    wsParseFrame buf = (.incomplete, buf) ∨
      wsParseFrame buf = (.protocolError, buf) ∧
        2 ^ 31 ≤ frame.bytes.length := by
  have positive : 0 < missing.length := List.length_pos_iff.mpr some_missing
  have length : buf.bytes.length + missing.length = frame.bytes.length := by
    rw [← cut, List.length_append]
  have parsed (tail : List UInt8) (there : buf.bytes = frame.head ++ tail) :
      wsParseFrame buf = (.incomplete, buf) ∨
        wsParseFrame buf = (.protocolError, buf) ∧
          2 ^ 31 ≤ frame.bytes.length := by
    have total : sizeT (frame.offset + frame.payload.length) =
        frame.bytes.length := by
      rw [← bytes_length, sizeT, Nat.mod_eq_of_lt fits]
    rw [wsParseFrame, there, frameHeader_head, ← there]
    dsimp only
    rw [total]
    split
    next => exact .inl rfl
    next announced =>
      have wide : 2 ^ 31 ≤ frame.bytes.length := by
        by_contra small
        rw [toInt_small (Nat.lt_of_not_le small)] at announced
        omega
      have large : wsRecvBuf < frame.bytes.length :=
        Nat.lt_of_lt_of_le (by decide) wide
      rw [if_pos large]
      exact .inr ⟨rfl, wide⟩
  have split := cut
  rw [bytes] at split
  rcases List.append_eq_append_iff.mp split with
    ⟨behind, shorter, _⟩ | ⟨tail, longer, _⟩
  · by_cases none_behind : behind = []
    · rw [none_behind, List.append_nil] at shorter
      exact parsed [] (shorter.symm.trans (List.append_nil _).symm)
    · rw [wsParseFrame, frame.frameHeader_cut none_behind shorter.symm]
      exact .inl rfl
  · exact parsed tail longer

theorem wsParseFrame_waits (some_missing : missing ≠ [])
    (cut : buf.bytes ++ missing = frame.bytes)
    (small : frame.bytes.length < 2 ^ 31) :
    wsParseFrame buf = (.incomplete, buf) := by
  have fits : frame.bytes.length < 2 ^ 64 :=
    Nat.lt_of_lt_of_le small (by decide)
  refine (frame.wsParseFrame_cut some_missing cut fits).resolve_right ?_
  rintro ⟨_, wide⟩
  omega

end WireFrame

end FuryClash.Client
