import FuryClash.Data.Doubles
import FuryClash.Data.JsValue
import FuryClash.Data.JsonText

namespace FuryClash.Data

/-! `buffer.toString('utf8')` and `JSON.parse`. -/

/-- The bytes that can follow the first one of a letter, and those that can be
the second. -/
def trailCount (lead : UInt8) : Nat :=
  if 0xC2 ≤ lead ∧ lead ≤ 0xDF then 1
  else if 0xE0 ≤ lead ∧ lead ≤ 0xEF then 2
  else if 0xF0 ≤ lead ∧ lead ≤ 0xF4 then 3
  else 0

def isSecond (lead byte : UInt8) : Bool :=
  let low := if lead = 0xE0 then 0xA0 else if lead = 0xF0 then 0x90 else 0x80
  let high := if lead = 0xED then 0x9F else if lead = 0xF4 then 0x8F else 0xBF
  decide (low ≤ byte ∧ byte ≤ high)

/-- How many bytes behind the first one go with it into one U+FFFD: as long as
they could still make a letter. -/
def malformedTrail (lead : UInt8) : List UInt8 → Nat
  | [] => 0
  | second :: rest =>
      if isSecond lead second then
        let trail := rest.takeWhile fun byte =>
          decide (0x80 ≤ byte ∧ byte ≤ 0xBF)
        min (trailCount lead) (1 + trail.length)
      else 0

def decodeUtf8From : (skip : Nat) → List UInt8 → List Char
  | _, [] => []
  | skip + 1, _ :: rest => decodeUtf8From skip rest
  | 0, byte :: rest =>
      match ((byte :: rest).take 4).toByteArray.utf8DecodeChar? 0 with
      | some letter => letter :: decodeUtf8From (letter.utf8Size - 1) rest
      | none =>
          '\uFFFD' :: decodeUtf8From (malformedTrail byte rest) rest

/-- `toString('utf8')`. -/
def decodeUtf8 (bytes : List UInt8) : List Char := decodeUtf8From 0 bytes

theorem decodeUtf8From_skip (front rest : List UInt8) :
    decodeUtf8From front.length (front ++ rest) = decodeUtf8 rest := by
  induction front with
  | nil => rfl
  | cons byte front ih => exact ih

theorem decodeUtf8_utf8 (text : List Char) : decodeUtf8 (utf8 text) = text := by
  induction text with
  | nil => rfl
  | cons letter text ih =>
      obtain ⟨byte, trail, bytes⟩ :=
        List.exists_cons_of_ne_nil (String.utf8EncodeChar_ne_nil (c := letter))
      have size : trail.length = letter.utf8Size - 1 := by
        rw [← String.length_utf8EncodeChar, bytes, List.length_cons,
          Nat.add_sub_cancel]
      have fits : (String.utf8EncodeChar letter).length ≤ 4 := by
        rw [String.length_utf8EncodeChar]
        exact letter.utf8Size_le_four
      have decoded : ByteArray.utf8DecodeChar?
          ((byte :: (trail ++ utf8 text)).take 4).toByteArray 0 =
            some letter := by
        rw [← List.cons_append, ← bytes, List.take_append,
          List.take_of_length_le fits, List.toByteArray_append]
        exact ByteArray.utf8DecodeChar?_utf8EncodeChar_append
      rw [utf8_cons, bytes, List.cons_append, decodeUtf8, decodeUtf8From,
        decoded]
      dsimp only
      rw [← size, decodeUtf8From_skip, ih]

/-- The letters of a string; a lone surrogate, which no text of this model can
hold, is the replacement character. -/
def CodePoint.toLetter : CodePoint → Char
  | .char letter => letter
  | .lone _ => '\uFFFD'

def unitLetters (units : List UInt16) : List Char :=
  (codePoints units).map CodePoint.toLetter

def ofUnits (units : List UInt16) : String := String.ofList (unitLetters units)

def letterUnits (letter : Char) : List UInt16 :=
  if letter.toNat < 0x10000 then [UInt16.ofNat letter.toNat]
  else
    [UInt16.ofNat (0xD800 + (letter.toNat - 0x10000) / 0x400),
      UInt16.ofNat (0xDC00 + (letter.toNat - 0x10000) % 0x400)]

def hexValue (letter : Char) : Option Nat :=
  if '0' ≤ letter ∧ letter ≤ '9' then some (letter.toNat - 48)
  else if 'a' ≤ letter ∧ letter ≤ 'f' then some (letter.toNat - 87)
  else if 'A' ≤ letter ∧ letter ≤ 'F' then some (letter.toNat - 55)
  else none

def hexUnit (a b c d : Char) : Option UInt16 := do
  let high := 4096 * (← hexValue a) + 256 * (← hexValue b)
  return UInt16.ofNat (high + 16 * (← hexValue c) + (← hexValue d))

def escapeUnit (letter : Char) : Option UInt16 :=
  if letter = '\x22' then some 34
  else if letter = '\\' then some 92
  else if letter = '/' then some 47
  else if letter = 'b' then some 8
  else if letter = 'f' then some 12
  else if letter = 'n' then some 10
  else if letter = 'r' then some 13
  else if letter = 't' then some 9
  else none

def stringBody : List Char → Option (List UInt16 × List Char)
  | [] => none
  | '\x22' :: rest => some ([], rest)
  | '\\' :: 'u' :: a :: b :: c :: d :: rest => do
      let unit ← hexUnit a b c d
      let (units, rest) ← stringBody rest
      return (unit :: units, rest)
  | '\\' :: letter :: rest => do
      let unit ← escapeUnit letter
      let (units, rest) ← stringBody rest
      return (unit :: units, rest)
  | letter :: rest =>
      if letter.toNat < 32 ∨ letter = '\\' then none
      else do
        let (units, rest) ← stringBody rest
        return (letterUnits letter ++ units, rest)

/-- The value of a binary64, of which zero has no sign here. -/
def JsNumber.ofRat (value : Rat) : JsNumber :=
  let rounded := roundDouble value
  if 2 ^ 1024 ≤ rounded ∨ rounded ≤ -2 ^ 1024 then
    .infinite (decide (value < 0))
  else .finite rounded

def someDigits (text : List Char) : Option (List Char × List Char) :=
  match text.takeWhile Char.isDigit with
  | [] => none
  | digit :: others => some (digit :: others, text.dropWhile Char.isDigit)

def jsonWhole : List Char → Option (List Char × List Char)
  | '0' :: rest => some (['0'], rest)
  | text => someDigits text

def jsonFraction : List Char → Option (List Char × List Char)
  | '.' :: rest => someDigits rest
  | text => some ([], text)

def jsonSign : List Char → Int × List Char
  | '-' :: rest => (-1, rest)
  | '+' :: rest => (1, rest)
  | text => (1, text)

def jsonExponent : List Char → Option (Int × List Char)
  | [] => some (0, [])
  | letter :: rest =>
      if letter = 'e' ∨ letter = 'E' then do
        let (sign, rest) := jsonSign rest
        let (digits, rest) ← someDigits rest
        return (sign * Nat.ofDigitChars 10 digits 0, rest)
      else some (0, letter :: rest)

def jsonNumber (text : List Char) : Option (JsNumber × List Char) := do
  let negative := text.head? = some '-'
  let (whole, rest) ← jsonWhole (if negative then text.tail else text)
  let (fraction, rest) ← jsonFraction rest
  let (exponent, rest) ← jsonExponent rest
  let digits : Rat := Nat.ofDigitChars 10 (whole ++ fraction) 0
  let magnitude := digits * 10 ^ (exponent - fraction.length)
  return (.ofRat (if negative then -magnitude else magnitude), rest)

namespace JsonParser

def isBlank (letter : Char) : Bool :=
  letter = ' ' || letter = '\t' || letter = '\n' || letter = '\r'

def skipBlanks (text : List Char) : List Char := text.dropWhile isBlank

def expect (letter : Char) (text : List Char) : Option (List Char) :=
  match skipBlanks text with
  | [] => none
  | first :: rest => if first = letter then some rest else none

def word (word : String) (json : Json) (text : List Char) :
    Option (Json × List Char) :=
  if word.toList.isPrefixOf text then
    some (json, text.drop word.toList.length)
  else none

def literal (text : List Char) : Option (Json × List Char) :=
  (word "null" .null text).or ((word "true" (.bool true) text).or
    ((word "false" (.bool false) text).or
      ((jsonNumber text).map fun (value, rest) => (.number value, rest))))

mutual

/-- A value and what is behind it; two turns take a letter at least. -/
def value : (turns : Nat) → List Char → Option (Json × List Char)
  | 0, _ => none
  | turns + 1, text =>
      match skipBlanks text with
      | [] => none
      | first :: rest =>
          if first = '\x22' then
            (stringBody rest).map fun (units, rest) =>
              (.string (ofUnits units), rest)
          else if first = '\x7b' then
            match expect '\x7d' rest with
            | some rest => some (.object [], rest)
            | none =>
                (members turns rest).map fun (members, rest) =>
                  (.object members, rest)
          else if first = '[' then
            match expect ']' rest with
            | some rest => some (.array [], rest)
            | none =>
                (items turns rest).map fun (items, rest) =>
                  (.array items, rest)
          else literal (first :: rest)

def members : (turns : Nat) → List Char →
    Option (List (String × Json) × List Char)
  | 0, _ => none
  | turns + 1, text => do
      let rest ← expect '\x22' text
      let (name, rest) ← stringBody rest
      let rest ← expect ':' rest
      let (json, rest) ← value turns rest
      match expect ',' rest with
      | some rest =>
          let (others, rest) ← members turns rest
          return ((ofUnits name, json) :: others, rest)
      | none =>
          let rest ← expect '\x7d' rest
          return ([(ofUnits name, json)], rest)

def items : (turns : Nat) → List Char → Option (List Json × List Char)
  | 0, _ => none
  | turns + 1, text => do
      let (json, rest) ← value turns text
      match expect ',' rest with
      | some rest =>
          let (others, rest) ← items turns rest
          return (json :: others, rest)
      | none =>
          let rest ← expect ']' rest
          return ([json], rest)

end

end JsonParser

/-- `JSON.parse`; a text that it refuses gives `none`. -/
def jsonParse (text : List Char) : Option Json :=
  match JsonParser.value (2 * text.length + 1) text with
  | none => none
  | some (json, rest) =>
      if JsonParser.skipBlanks rest = [] then some json else none

/-- With the parser in the place of `JSON.parse`. -/
def JsRuntime.withParser (runtime : JsRuntime) : JsRuntime :=
  { runtime with jsonParse := fun bytes => Data.jsonParse (decodeUtf8 bytes) }

end FuryClash.Data
