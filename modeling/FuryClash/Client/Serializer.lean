import FuryClash.Data.LittleEndian
import Mathlib.Logic.Function.Basic

namespace FuryClash.Client

open FuryClash.Data

/-! `serializer.c`. A buffer is the memory from `data` on, of which `cap` bytes
may be written and `len` bytes may be read. -/

structure ByteBuf where
  data : Nat → UInt8
  len : Nat
  cap : Nat
  pos : Nat

namespace ByteBuf

def bbufInitWrite (buf : Nat → UInt8) (cap : Nat) : ByteBuf :=
  ⟨buf, 0, cap, 0⟩

def bbufInitRead (buf : Nat → UInt8) (len : Nat) : ByteBuf :=
  ⟨buf, len, len, 0⟩

def bbufWriteU8 (v : UInt8) (b : ByteBuf) : ByteBuf :=
  if b.len < b.cap then
    { b with data := Function.update b.data b.len v, len := b.len + 1 }
  else b

def bbufWriteU16 (v : UInt16) (b : ByteBuf) : ByteBuf :=
  (b.bbufWriteU8 v.toUInt8).bbufWriteU8 (v >>> 8).toUInt8

def bbufWriteU32 (v : UInt32) (b : ByteBuf) : ByteBuf :=
  (b.bbufWriteU16 v.toUInt16).bbufWriteU16 (v >>> 16).toUInt16

def bbufReadU8 (b : ByteBuf) : UInt8 × ByteBuf :=
  if b.pos < b.len then (b.data b.pos, { b with pos := b.pos + 1 })
  else (0, b)

def bbufReadU16 (b : ByteBuf) : UInt16 × ByteBuf :=
  let (lo, b) := b.bbufReadU8
  let (hi, b) := b.bbufReadU8
  (lo.toUInt16 ||| (hi.toUInt16 <<< 8), b)

def bbufReadU32 (b : ByteBuf) : UInt32 × ByteBuf :=
  let (lo, b) := b.bbufReadU16
  let (hi, b) := b.bbufReadU16
  (lo.toUInt32 ||| (hi.toUInt32 <<< 16), b)

end ByteBuf

inductive WireType where
  | u8
  | u16
  | u32
  deriving DecidableEq

inductive WireValue where
  | u8 (v : UInt8)
  | u16 (v : UInt16)
  | u32 (v : UInt32)
  deriving DecidableEq

namespace WireValue

def type : WireValue → WireType
  | u8 _ => .u8
  | u16 _ => .u16
  | u32 _ => .u32

def zero : WireType → WireValue
  | .u8 => u8 0
  | .u16 => u16 0
  | .u32 => u32 0

def bytes16 (v : UInt16) : List UInt8 := [v.toUInt8, (v >>> 8).toUInt8]

/-- The bytes of a value, in the order in which they are written. -/
def bytes : WireValue → List UInt8
  | u8 v => [v]
  | u16 v => bytes16 v
  | u32 v => bytes16 v.toUInt16 ++ bytes16 (v >>> 16).toUInt16

end WireValue

def WireType.size : WireType → Nat
  | .u8 => 1
  | .u16 => 2
  | .u32 => 4

namespace ByteBuf

def write : WireValue → ByteBuf → ByteBuf
  | .u8 v, b => b.bbufWriteU8 v
  | .u16 v, b => b.bbufWriteU16 v
  | .u32 v, b => b.bbufWriteU32 v

def read : WireType → ByteBuf → WireValue × ByteBuf
  | .u8, b => (.u8 b.bbufReadU8.1, b.bbufReadU8.2)
  | .u16, b => (.u16 b.bbufReadU16.1, b.bbufReadU16.2)
  | .u32, b => (.u32 b.bbufReadU32.1, b.bbufReadU32.2)

def writeAll (values : List WireValue) (b : ByteBuf) : ByteBuf :=
  values.foldl (fun b value => b.write value) b

def readAll : List WireType → ByteBuf → List WireValue × ByteBuf
  | [], b => ([], b)
  | type :: rest, b =>
      ((b.read type).1 :: (readAll rest (b.read type).2).1,
        (readAll rest (b.read type).2).2)

def sizeOf (values : List WireValue) : Nat :=
  (values.map fun value => value.type.size).sum

/-- The values are read back, and behind them nothing but zeros. -/
def ReadsBack (values : List WireValue) (b : ByteBuf) : Prop :=
  ∀ more : List WireType,
    readAll (values.map WireValue.type ++ more) b =
      (values ++ more.map WireValue.zero, { b with pos := b.len })

theorem join16 (v : UInt16) :
    v.toUInt8.toUInt16 ||| ((v >>> 8).toUInt8.toUInt16 <<< 8) = v := by
  apply UInt16.toNat_inj.mp
  have joined := @or_halves 8 v.toNat v.toNat_lt
  simpa using joined

theorem join32 (v : UInt32) :
    v.toUInt16.toUInt32 ||| ((v >>> 16).toUInt16.toUInt32 <<< 16) = v := by
  apply UInt32.toNat_inj.mp
  have joined := @or_halves 16 v.toNat v.toNat_lt
  simpa using joined

def contents (b : ByteBuf) : List UInt8 := (List.range b.len).map b.data

@[simp] theorem length_contents (b : ByteBuf) :
    b.contents.length = b.len := by
  rw [contents, List.length_map, List.length_range]

structure Wrote (b b' : ByteBuf) (bytes : List UInt8) : Prop where
  contents : b'.contents = b.contents ++ bytes
  cap : b'.cap = b.cap
  pos : b'.pos = b.pos

variable {b b' b'' : ByteBuf} {bytes bytes' : List UInt8}

theorem Wrote.len (wrote : Wrote b b' bytes) :
    b'.len = b.len + bytes.length := by
  rw [← length_contents, wrote.contents, List.length_append, length_contents]

theorem Wrote.trans (first : Wrote b b' bytes)
    (second : Wrote b' b'' bytes') : Wrote b b'' (bytes ++ bytes') where
  contents := by
    rw [second.contents, first.contents, List.append_assoc]
  cap := second.cap.trans first.cap
  pos := second.pos.trans first.pos

theorem bbufWriteU8_wrote (v : UInt8) (room : b.len + 1 ≤ b.cap) :
    Wrote b (b.bbufWriteU8 v) [v] := by
  rw [bbufWriteU8, if_pos (Nat.lt_of_succ_le room)]
  refine ⟨?_, rfl, rfl⟩
  rw [contents, contents, List.range_succ, List.map_append,
    List.map_singleton]
  dsimp only
  rw [Function.update_self]
  congr 1
  refine List.map_congr_left fun i mem => Function.update_of_ne ?_ ..
  exact Nat.ne_of_lt (List.mem_range.mp mem)

theorem bbufWriteU16_wrote (v : UInt16) (room : b.len + 2 ≤ b.cap) :
    Wrote b (b.bbufWriteU16 v) (WireValue.bytes16 v) := by
  have first := bbufWriteU8_wrote (b := b) v.toUInt8 (by omega)
  have length := first.len
  have cap := first.cap
  rw [List.length_singleton] at length
  exact first.trans (bbufWriteU8_wrote _ (by omega))

theorem bbufWriteU32_wrote (v : UInt32) (room : b.len + 4 ≤ b.cap) :
    Wrote b (b.bbufWriteU32 v) (WireValue.u32 v).bytes := by
  have first := bbufWriteU16_wrote (b := b) v.toUInt16 (by omega)
  have length : _ = b.len + 2 := first.len
  have cap := first.cap
  exact first.trans (bbufWriteU16_wrote _ (by omega))

theorem write_wrote (value : WireValue)
    (room : b.len + value.type.size ≤ b.cap) :
    Wrote b (b.write value) value.bytes := by
  cases value with
  | u8 v => exact bbufWriteU8_wrote v room
  | u16 v => exact bbufWriteU16_wrote v room
  | u32 v => exact bbufWriteU32_wrote v room

theorem length_bytes (value : WireValue) :
    value.bytes.length = value.type.size := by
  cases value <;> rfl

theorem writeAll_wrote (values : List WireValue)
    (room : b.len + sizeOf values ≤ b.cap) :
    Wrote b (writeAll values b) (values.flatMap WireValue.bytes) := by
  induction values generalizing b with
  | nil => exact ⟨(List.append_nil _).symm, rfl, rfl⟩
  | cons value rest ih =>
      rw [sizeOf, List.map_cons, List.sum_cons, ← sizeOf] at room
      have first := write_wrote (b := b) value (by omega)
      have length := first.len
      have cap := first.cap
      rw [length_bytes] at length
      exact first.trans (ih (by omega))

def unread (b : ByteBuf) : List UInt8 := b.contents.drop b.pos

theorem unread_advance (b : ByteBuf) (count : Nat) :
    unread { b with pos := b.pos + count } = b.unread.drop count := by
  rw [unread, unread, List.drop_drop]
  rfl

theorem bbufReadU8_of_unread {byte : UInt8} {rest : List UInt8}
    (left : b.unread = byte :: rest) :
    b.bbufReadU8 = (byte, { b with pos := b.pos + 1 }) := by
  have first := congrArg (·[0]?) left
  simp only [unread, contents, List.getElem?_drop, List.getElem?_map,
    Nat.add_zero, List.getElem?_cons_zero] at first
  obtain ⟨pos, at_pos, rfl⟩ := Option.map_eq_some_iff.mp first
  obtain ⟨inside, same⟩ := List.getElem?_eq_some_iff.mp at_pos
  rw [List.length_range] at inside
  rw [List.getElem_range] at same
  rw [bbufReadU8, if_pos inside, same]

theorem bbufReadU16_of_unread {v : UInt16} {rest : List UInt8}
    (left : b.unread = WireValue.bytes16 v ++ rest) :
    b.bbufReadU16 = (v, { b with pos := b.pos + 2 }) := by
  have next := unread_advance b 1
  rw [left] at next
  rw [bbufReadU16, bbufReadU8_of_unread left]
  dsimp only
  rw [bbufReadU8_of_unread next]
  dsimp only
  rw [join16]

theorem bbufReadU32_of_unread {v : UInt32} {rest : List UInt8}
    (left : b.unread = (WireValue.u32 v).bytes ++ rest) :
    b.bbufReadU32 = (v, { b with pos := b.pos + 4 }) := by
  have next := unread_advance b 2
  rw [left] at next
  rw [WireValue.bytes, List.append_assoc] at left
  rw [bbufReadU32, bbufReadU16_of_unread left]
  dsimp only
  rw [bbufReadU16_of_unread next]
  dsimp only
  rw [join32]

theorem read_of_unread (value : WireValue) {rest : List UInt8}
    (left : b.unread = value.bytes ++ rest) :
    b.read value.type =
      (value, { b with pos := b.pos + value.type.size }) := by
  cases value with
  | u8 v =>
      rw [WireValue.type, read, bbufReadU8_of_unread left]
      rfl
  | u16 v =>
      rw [WireValue.type, read, bbufReadU16_of_unread left]
      rfl
  | u32 v =>
      rw [WireValue.type, read, bbufReadU32_of_unread left]
      rfl

theorem readAll_of_unread (values : List WireValue) {rest : List UInt8}
    (left : b.unread = values.flatMap WireValue.bytes ++ rest)
    (more : List WireType) :
    readAll (values.map WireValue.type ++ more) b =
      (values ++ (readAll more { b with pos := b.pos + sizeOf values }).1,
        (readAll more { b with pos := b.pos + sizeOf values }).2) := by
  induction values generalizing b with
  | nil => rfl
  | cons value rest' ih =>
      rw [List.flatMap_cons, List.append_assoc] at left
      have next := unread_advance b value.bytes.length
      rw [left, List.drop_left, length_bytes] at next
      have sum : sizeOf (value :: rest') = value.type.size + sizeOf rest' :=
        List.sum_cons
      rw [List.map_cons, List.cons_append, readAll, read_of_unread value left,
        ih next, sum, ← Nat.add_assoc]
      rfl

theorem read_at_end (type : WireType) (atEnd : b.pos = b.len) :
    b.read type = (WireValue.zero type, b) := by
  have byte : b.bbufReadU8 = (0, b) := if_neg (by omega)
  have half : b.bbufReadU16 = (0, b) := by
    rw [bbufReadU16, byte]
    dsimp only
    rw [byte]
    exact congrArg (·, b) (join16 0)
  cases type with
  | u8 => rw [read, byte]; rfl
  | u16 => rw [read, half]; rfl
  | u32 =>
      rw [read, bbufReadU32, half]
      dsimp only
      rw [half]
      exact congrArg (fun v => (WireValue.u32 v, b)) (join32 0)

theorem readAll_at_end (types : List WireType) (atEnd : b.pos = b.len) :
    readAll types b = (types.map WireValue.zero, b) := by
  induction types with
  | nil => rfl
  | cons type rest ih =>
      rw [readAll, read_at_end type atEnd, ih]
      rfl

theorem length_flatMap_bytes (values : List WireValue) :
    (values.flatMap WireValue.bytes).length = sizeOf values := by
  rw [List.length_flatMap, sizeOf]
  simp only [length_bytes]

theorem readsBack_of_contents {values : List WireValue}
    (contents : b.contents = values.flatMap WireValue.bytes)
    (start : b.pos = 0) : ReadsBack values b := by
  intro more
  have length : b.len = sizeOf values := by
    rw [← length_contents, contents, length_flatMap_bytes]
  have left : b.unread = values.flatMap WireValue.bytes ++ [] := by
    rw [unread, start, List.drop_zero, contents, List.append_nil]
  have atEnd : b.pos + sizeOf values = b.len := by
    rw [start, Nat.zero_add, length]
  rw [readAll_of_unread values left more, atEnd, readAll_at_end more rfl]

theorem writeAll_readsBack (values : List WireValue) (buf : Nat → UInt8)
    (cap : Nat) (room : sizeOf values ≤ cap) :
    (writeAll values (bbufInitWrite buf cap)).len = sizeOf values ∧
      ReadsBack values (writeAll values (bbufInitWrite buf cap)) ∧
      ReadsBack values
        (bbufInitRead (writeAll values (bbufInitWrite buf cap)).data
          (writeAll values (bbufInitWrite buf cap)).len) := by
  have fits : (bbufInitWrite buf cap).len + sizeOf values ≤ cap := by
    rwa [bbufInitWrite, Nat.zero_add]
  have wrote := writeAll_wrote values fits
  have contents := wrote.contents
  have length := wrote.len
  rw [length_flatMap_bytes] at length
  refine ⟨length.trans (Nat.zero_add _), ?_, ?_⟩
  · exact readsBack_of_contents contents wrote.pos
  · exact readsBack_of_contents contents rfl

theorem writeAll_readsBack_mixed :
    ReadsBack [.u16 513, .u8 7, .u32 67305985]
      (writeAll [.u16 513, .u8 7, .u32 67305985]
        (bbufInitWrite (fun _ => 0) 8)) :=
  (writeAll_readsBack [.u16 513, .u8 7, .u32 67305985] (fun _ => 0) 8
    (by decide)).2.1

end ByteBuf

end FuryClash.Client
