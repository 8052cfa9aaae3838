import FuryClash.Data.JsValue

namespace FuryClash.Client

open FuryClash.Data

/-! The texts of the messages, as `net_client.c` reads them: C strings, which
end at the first zero byte wherever that is. -/

/-- The string at the start of `memory`, of which `room` bytes belong to the
array it lies in. -/
def cString (memory : Nat → UInt8) : (room : Nat) → List UInt8
  | 0 => []
  | room + 1 =>
      if memory 0 = 0 then []
      else memory 0 :: cString (fun i => memory (i + 1)) room

def afterPattern (pattern : List UInt8) : List UInt8 → Option (List UInt8)
  | [] => if pattern = [] then some [] else none
  | byte :: rest =>
      if pattern.isPrefixOf (byte :: rest) then
        some ((byte :: rest).drop pattern.length)
      else afterPattern pattern rest

def isDigit (byte : UInt8) : Bool := decide (48 ≤ byte ∧ byte ≤ 57)

/-- The digits at the front; an `int` holds the value as long as it is below
2^31. -/
def digits (val : Int) : List UInt8 → Int
  | [] => val
  | byte :: rest =>
      if isDigit byte then digits (val * 10 + (byte.toNat - 48 : Int)) rest
      else val

def jsonInt (json : List UInt8) (key : String) (default : Int) : Int :=
  match afterPattern (asciiBytes ("\"" ++ key ++ "\":")) json with
  | none => default
  | some found =>
      let p := found.dropWhile fun byte => byte = 32 || byte = 9
      let (sign, p) := if p.head? = some 45 then ((-1 : Int), p.drop 1)
        else (1, p)
      if (p.head?.map isDigit).getD false then digits 0 p * sign
      else default

/-- The `roomId` of `SERVER_START`, cut to 63 bytes. -/
def jsonRoomId (json : List UInt8) : Option (List UInt8) :=
  match afterPattern (asciiBytes "\"roomId\":\"") json with
  | none => none
  | some found =>
      if 34 ∈ found then some ((found.takeWhile (· ≠ 34)).take 63) else none

end FuryClash.Client
