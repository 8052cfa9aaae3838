import FuryClash.Data.JsValue
import FuryClash.Data.JsonText
import FuryClash.Data.LittleEndian

namespace FuryClash.Server

open FuryClash.Data

/-! `protocol.ts`: a client's message comes as the bytes of a `Buffer`, and
what is decoded from it is an object whose fields may hold any JSON value. -/

inductive MsgType where
  | clientJoin
  | clientInput
  | clientPong
  | clientLoadout
  | serverWaiting
  | serverStart
  | serverRelay
  | serverEnd
  | serverPing
  | serverError
  | serverReconnect
  | serverOpponentDisconnect
  | serverLoadout
  deriving DecidableEq

def MsgType.code : MsgType → Nat
  | clientJoin => 0x01
  | clientInput => 0x02
  | clientPong => 0x03
  | clientLoadout => 0x04
  | serverWaiting => 0x10
  | serverStart => 0x11
  | serverRelay => 0x12
  | serverEnd => 0x13
  | serverPing => 0x14
  | serverError => 0x15
  | serverReconnect => 0x16
  | serverOpponentDisconnect => 0x17
  | serverLoadout => 0x20

def clientInputMsgSize : Nat := 9

/-- `INVALID_MASKS`: up with down, left with right. -/
def invalidMasks : List Nat := [0b0011, 0b1100]

abbrev DecodedMsg := List (String × Json)

def readUIntLE (width : Nat) (data : List UInt8) (offset : Nat) :
    Except JsError Nat :=
  if offset + width ≤ data.length then
    .ok (leWindow data offset width)
  else .error .rangeError

/-- `writeUInt8`, `writeUInt16LE` and `writeUInt32LE`. Only a value beyond the
bounds throws: `NaN` is written as zero and a fraction is cut off. -/
def writeUIntLE (runtime : JsRuntime) (width : Nat) (value : JsVal) :
    Except JsError (List UInt8) := do
  let number ← value.toNumber runtime
  if number.exceeds (256 ^ width - 1) || number.negative then
    .error .rangeError
  else
    return leBytes width number.toUint32

def decodeClientMsg (runtime : JsRuntime) (data : List UInt8) :
    Except JsError (Option DecodedMsg) :=
  if data.length < 1 then .ok none
  else do
    let type ← readUIntLE 1 data 0
    if type = MsgType.clientJoin.code then
      match runtime.jsonParse (data.drop 1) with
      | none => return none
      | some json =>
          -- The properties of `json` come last and win.
          return some (("type", .nat MsgType.clientJoin.code) :: json.spread)
    else if type = MsgType.clientInput.code then
      if data.length < clientInputMsgSize then return none
      else
        return some
          [("type", .nat MsgType.clientInput.code),
            ("seq", .nat (← readUIntLE 2 data 1)),
            ("frame", .nat (← readUIntLE 4 data 3)),
            ("input", .nat (← readUIntLE 2 data 7))]
    else if type = MsgType.clientPong.code then
      return some [("type", .nat MsgType.clientPong.code)]
    else if type = MsgType.clientLoadout.code then
      if data.length < 2 then return none
      else
        return some
          [("type", .nat MsgType.clientLoadout.code),
            ("loadout", .nat (← readUIntLE 1 data 1))]
    else return none

structure RelayEntry where
  frame : JsVal
  input : JsVal

def encodeRelayEntry (runtime : JsRuntime) (entry : RelayEntry) :
    Except JsError (List UInt8) :=
  return (← writeUIntLE runtime 4 entry.frame) ++
    (← writeUIntLE runtime 2 entry.input)

def encodeRelayBatch (runtime : JsRuntime) (seq : Nat)
    (frames : List RelayEntry) : Except JsError (List UInt8) := do
  let count := min frames.length 255
  let type ← writeUIntLE runtime 1 (some (.nat MsgType.serverRelay.code))
  let seqBytes ← writeUIntLE runtime 2 (some (.nat seq))
  let countByte ← writeUIntLE runtime 1 (some (.nat count))
  let entries ← (frames.take count).mapM (encodeRelayEntry runtime)
  return type ++ seqBytes ++ countByte ++ entries.flatten

def encodeLoadout (runtime : JsRuntime) (loadoutByte : JsVal) :
    Except JsError (List UInt8) := do
  let number ← loadoutByte.toNumber runtime
  return leBytes 1 MsgType.serverLoadout.code ++ leBytes 1 number.toUint32

def encodeJson (type : MsgType) (payload : List (String × JsonField)) :
    List UInt8 :=
  leBytes 1 type.code ++ utf8 (stringify payload)

structure StartFields where
  yourSlot : Int
  p1Id : List UInt16
  p2Id : List UInt16
  p1Fighter : Int
  p2Fighter : Int
  roomId : List UInt16

def encodeMatchStart (payload : StartFields) : List UInt8 :=
  encodeJson .serverStart
    [("yourSlot", .integer payload.yourSlot),
      ("p1Id", .text payload.p1Id),
      ("p2Id", .text payload.p2Id),
      ("p1Fighter", .integer payload.p1Fighter),
      ("p2Fighter", .integer payload.p2Fighter),
      ("roomId", .text payload.roomId)]

structure EndFields where
  winnerSlot : Int
  reason : List UInt16
  p1RoundsWon : Int
  p2RoundsWon : Int
  durationFrames : Int

def encodeMatchEnd (payload : EndFields) : List UInt8 :=
  encodeJson .serverEnd
    [("winnerSlot", .integer payload.winnerSlot),
      ("reason", .text payload.reason),
      ("p1RoundsWon", .integer payload.p1RoundsWon),
      ("p2RoundsWon", .integer payload.p2RoundsWon),
      ("durationFrames", .integer payload.durationFrames)]

def isValidInput (runtime : JsRuntime) (input : JsVal) :
    Except JsError Bool := do
  let number ← input.toNumber runtime
  return invalidMasks.all fun mask => number.toUint32 &&& mask != mask

theorem readUIntLE_of_le {width offset : Nat} {data : List UInt8}
    (fits : offset + width ≤ data.length) :
    readUIntLE width data offset = .ok (leWindow data offset width) :=
  if_pos fits

theorem writeUIntLE_nat (runtime : JsRuntime) {width value : Nat}
    (fits : value < 256 ^ width) (narrow : width ≤ 4) :
    writeUIntLE runtime width (some (.nat value)) =
      .ok (leBytes width value) := by
  have word : 256 ^ width ≤ 2 ^ 32 :=
    (Nat.pow_le_pow_right (by decide) narrow).trans (by decide)
  have within : ¬ 256 ^ width - 1 < value := by omega
  have same := JsNumber.toUint32_natCast (fits.trans_le word)
  simp [writeUIntLE, Bind.bind, Except.bind, Pure.pure, Except.pure, within,
    same]

theorem writeUIntLE_nat_of_ge (runtime : JsRuntime) {width value : Nat}
    (large : 256 ^ width ≤ value) :
    writeUIntLE runtime width (some (.nat value)) = .error .rangeError := by
  have positive : 0 < 256 ^ width := Nat.pow_pos (by decide)
  have beyond : 256 ^ width - 1 < value := by omega
  simp [writeUIntLE, Bind.bind, Except.bind, beyond]

theorem encodeRelayEntry_nat (runtime : JsRuntime) {frame input : Nat}
    (frameFits : frame < 256 ^ 4) (inputFits : input < 256 ^ 2) :
    encodeRelayEntry runtime ⟨some (.nat frame), some (.nat input)⟩ =
      .ok (leBytes 4 frame ++ leBytes 2 input) := by
  rw [encodeRelayEntry, writeUIntLE_nat runtime frameFits (by decide),
    writeUIntLE_nat runtime inputFits (by decide)]
  rfl

theorem isValidInput_nat (runtime : JsRuntime) {input : Nat}
    (fits : input < 2 ^ 32) :
    isValidInput runtime (some (.nat input)) =
      .ok (invalidMasks.all fun mask => input &&& mask != mask) := by
  simp only [isValidInput, JsVal.toNumber_nat, Bind.bind, Except.bind,
    JsNumber.toUint32_natCast fits]
  rfl

end FuryClash.Server
