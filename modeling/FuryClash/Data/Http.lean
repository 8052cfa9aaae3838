import FuryClash.Data.JsValue

namespace FuryClash.Data

namespace Http

/-! HTTP/1.1 requests with a body of a known length: their text, and how a
server reads it. -/

structure Request where
  method : List UInt8
  url : List UInt8
  body : List UInt8
  deriving DecidableEq

structure Field where
  name : List UInt8
  value : List UInt8

def Field.line (field : Field) : List UInt8 :=
  field.name ++ 58 :: 32 :: field.value

def requestLine (request : Request) : List UInt8 :=
  request.method ++ 32 :: (request.url ++ asciiBytes " HTTP/1.1")

def ended (line : List UInt8) : List UInt8 := line ++ [13, 10]

def text (request : Request) (fields : List Field) : List UInt8 :=
  ended (requestLine request) ++ fields.flatMap (ended ·.line) ++ ended [] ++
    request.body

/-- A line and what is behind its end. -/
def takeLine : List UInt8 → Option (List UInt8 × List UInt8)
  | [] => none
  | [_] => none
  | first :: second :: rest =>
      if first = 13 ∧ second = 10 then some ([], rest)
      else if first = 13 ∨ first = 10 then none
      else (takeLine (second :: rest)).map fun (line, behind) =>
        (first :: line, behind)

/-- The lines up to the empty one, and what is behind that. -/
def headerLines :
    (turns : Nat) → List UInt8 → Option (List (List UInt8) × List UInt8)
  | 0, _ => none
  | turns + 1, text =>
      match takeLine text with
      | none => none
      | some ([], behind) => some ([], behind)
      | some (line, behind) =>
          (headerLines turns behind).map fun (lines, body) =>
            (line :: lines, body)

def lowerCase (byte : UInt8) : UInt8 :=
  if 65 ≤ byte ∧ byte ≤ 90 then byte + 32 else byte

/-- The value of the first field of the name, in whatever case it is written. -/
def fieldValue (name : String) (lines : List (List UInt8)) :
    Option (List UInt8) :=
  lines.findSome? fun line =>
    let field := line.takeWhile fun byte => byte != 58
    if field.map lowerCase = asciiBytes name then
      some ((line.drop (field.length + 1)).dropWhile fun byte => byte == 32)
    else none

def isDecimal (byte : UInt8) : Bool := decide (48 ≤ byte ∧ byte ≤ 57)

def decimal (digits : List UInt8) : Option Nat :=
  if digits ≠ [] ∧ digits.all isDecimal then
    some (digits.foldl (fun number byte => 10 * number + (byte.toNat - 48)) 0)
  else none

/-- The length of the body; without the field there is none. -/
def contentLength (lines : List (List UInt8)) : Option Nat :=
  match fieldValue "content-length" lines with
  | none => some 0
  | some value => decimal value

def splitLine (line : List UInt8) : List UInt8 × List UInt8 :=
  let target := (line.dropWhile fun byte => byte != 32).drop 1
  (line.takeWhile fun byte => byte != 32,
    target.takeWhile fun byte => byte != 32)

/-- `none` as long as the request has not arrived, or when it is malformed. -/
def readRequest (bytes : List UInt8) : Option Request :=
  match takeLine bytes with
  | none => none
  | some (line, behind) =>
      match headerLines behind.length behind with
      | none => none
      | some (lines, body) =>
          match contentLength lines with
          | none => none
          | some length =>
              if body.length < length then none
              else
                some ⟨(splitLine line).1, (splitLine line).2, body.take length⟩

def OneLine (line : List UInt8) : Prop := 13 ∉ line ∧ 10 ∉ line

structure Field.Plain (field : Field) : Prop where
  named : field.name ≠ []
  name : OneLine field.name
  value : OneLine field.value

variable {line rest : List UInt8} {fields : List Field}

theorem OneLine.append {second : List UInt8} (first : OneLine line)
    (behind : OneLine second) : OneLine (line ++ second) :=
  ⟨List.mem_append.not.mpr (not_or.mpr ⟨first.1, behind.1⟩),
    List.mem_append.not.mpr (not_or.mpr ⟨first.2, behind.2⟩)⟩

theorem OneLine.cons {byte : UInt8} (carriage : byte ≠ 13) (feed : byte ≠ 10)
    (behind : OneLine line) : OneLine (byte :: line) :=
  ⟨List.not_mem_cons_of_ne_of_not_mem carriage.symm behind.1,
    List.not_mem_cons_of_ne_of_not_mem feed.symm behind.2⟩

theorem takeLine_ended (plain : OneLine line) (rest : List UInt8) :
    takeLine (ended line ++ rest) = some (line, rest) := by
  rw [ended, List.append_assoc]
  induction line with
  | nil => rfl
  | cons byte line ih =>
      obtain ⟨carriage, behind⟩ := List.ne_and_not_mem_of_not_mem_cons plain.1
      obtain ⟨feed, behind'⟩ := List.ne_and_not_mem_of_not_mem_cons plain.2
      have tail := ih ⟨behind, behind'⟩
      obtain ⟨second, others, shape⟩ := List.exists_cons_of_ne_nil
        (show line ++ ([13, 10] ++ rest) ≠ [] by simp)
      rw [List.cons_append]
      rw [shape] at tail ⊢
      rw [takeLine, if_neg fun both => carriage both.1.symm,
        if_neg (not_or.mpr ⟨Ne.symm carriage, Ne.symm feed⟩), tail]
      rfl

theorem Field.line_ne_nil {field : Field} : field.line ≠ [] := by
  simp [Field.line]

theorem Field.Plain.oneLine {field : Field} (plain : field.Plain) :
    OneLine field.line :=
  plain.name.append
    (.cons (by decide) (by decide) (.cons (by decide) (by decide) plain.value))

theorem headerLines_fields (plain : ∀ field ∈ fields, field.Plain)
    {turns : Nat} (enough : fields.length < turns) (body : List UInt8) :
    headerLines turns
        (fields.flatMap (ended ·.line) ++ (ended [] ++ body)) =
      some (fields.map Field.line, body) := by
  induction fields generalizing turns with
  | nil =>
      cases turns with
      | zero => cases enough
      | succ turns => rfl
  | cons field fields ih =>
      obtain ⟨first, others⟩ := List.forall_mem_cons.mp plain
      cases turns with
      | zero => cases enough
      | succ turns =>
          rw [List.flatMap_cons, List.append_assoc, headerLines,
            takeLine_ended first.oneLine]
          dsimp only
          split
          next none_read => cases none_read
          next behind empty =>
            have isEmpty := (Prod.mk.inj (Option.some.inj empty)).1
            exact absurd isEmpty Field.line_ne_nil
          next line behind _ read =>
            obtain ⟨rfl, rfl⟩ := Prod.mk.inj (Option.some.inj read)
            rw [ih others (Nat.lt_of_succ_lt_succ enough)]
            rfl

theorem length_le_fields (fields : List Field) :
    fields.length ≤ (fields.flatMap (ended ·.line)).length := by
  induction fields with
  | nil => exact Nat.le_refl 0
  | cons field fields ih =>
      rw [List.flatMap_cons, List.length_append, ended, List.length_append]
      simp only [List.length_cons, List.length_nil]
      omega

theorem takeWhile_front {front : List UInt8} {byte : UInt8}
    (plain : byte ∉ front) (rest : List UInt8) :
    (front ++ byte :: rest).takeWhile (fun other => other != byte) = front ∧
      (front ++ byte :: rest).dropWhile (fun other => other != byte) =
        byte :: rest := by
  have passes : ∀ other ∈ front, (other != byte) = true := by
    intro other within
    rw [bne_iff_ne]
    rintro rfl
    exact plain within
  constructor
  · rw [List.takeWhile_append_of_pos passes, List.takeWhile_cons_of_neg,
      List.append_nil]
    simp
  · rw [List.dropWhile_append_of_pos passes, List.dropWhile_cons_of_neg]
    simp

theorem isDecimal_ascii {letter : Char} (digit : letter.isDigit = true) :
    isDecimal (UInt8.ofNat letter.toNat) = true ∧
      (UInt8.ofNat letter.toNat).toNat = letter.toNat := by
  rw [Char.isDigit_iff_toNat] at digit
  change 48 ≤ letter.toNat ∧ letter.toNat ≤ 57 at digit
  have same : (UInt8.ofNat letter.toNat).toNat = letter.toNat := by
    rw [UInt8.toNat_ofNat']
    omega
  refine ⟨?_, same⟩
  rw [isDecimal, decide_eq_true_eq, UInt8.le_iff_toNat_le,
    UInt8.le_iff_toNat_le, same]
  exact digit

theorem foldl_digits {letters : List Char}
    (all : ∀ letter ∈ letters, letter.isDigit = true) (number : Nat) :
    (letters.map fun letter => UInt8.ofNat letter.toNat).foldl
        (fun number byte => 10 * number + (byte.toNat - 48)) number =
      Nat.ofDigitChars 10 letters number := by
  induction letters generalizing number with
  | nil => rfl
  | cons letter letters ih =>
      obtain ⟨digit, others⟩ := List.forall_mem_cons.mp all
      rw [List.map_cons, List.foldl_cons, (isDecimal_ascii digit).2, ih others,
        Nat.ofDigitChars_cons]
      rfl

theorem decimal_toString (number : Nat) :
    decimal (asciiBytes (toString number)) = some number := by
  have digits : ∀ letter ∈ Nat.toDigits 10 number, letter.isDigit = true :=
    fun letter within =>
      Nat.isDigit_of_mem_toDigits (by decide) (by decide) within
  have bytes : asciiBytes (toString number) =
      (Nat.toDigits 10 number).map fun letter => UInt8.ofNat letter.toNat := by
    rw [asciiBytes, Nat.toString_eq_repr, Nat.toList_repr]
  rw [decimal, bytes, if_pos, foldl_digits digits,
    Nat.ofDigitChars_ten_toDigits]
  refine ⟨List.map_eq_nil_iff.not.mpr Nat.toDigits_ne_nil, ?_⟩
  rw [List.all_map, List.all_eq_true]
  exact fun letter within => (isDecimal_ascii (digits letter within)).1

theorem fieldValue_cons {field : Field} {name : String}
    (plain : 58 ∉ field.name) (lines : List (List UInt8)) :
    fieldValue name (field.line :: lines) =
      if field.name.map lowerCase = asciiBytes name then
        some (field.value.dropWhile fun byte => byte == 32)
      else fieldValue name lines := by
  have front := (takeWhile_front plain (32 :: field.value)).1
  have value : (field.line.drop (field.name.length + 1)).dropWhile
      (fun byte => byte == 32) =
        field.value.dropWhile fun byte => byte == 32 := by
    have behind : field.line.drop (field.name.length + 1) =
        32 :: field.value := by
      rw [Field.line, ← List.drop_drop, List.drop_left]
      rfl
    rw [behind, List.dropWhile_cons_of_pos (by decide)]
  rw [fieldValue, List.findSome?_cons]
  dsimp only
  rw [Field.line] at value ⊢
  rw [front, value]
  split
  next same =>
    split at same
    next isName =>
      cases same
      rw [if_pos isName]
    next => cases same
  next none_here =>
    split at none_here
    next => cases none_here
    next other =>
      rw [if_neg other]
      rfl

theorem dropWhile_toString (number : Nat) :
    (asciiBytes (toString number)).dropWhile (fun byte => byte == 32) =
      asciiBytes (toString number) := by
  have read := decimal_toString number
  cases shape : asciiBytes (toString number) with
  | nil => rfl
  | cons byte rest =>
      rw [shape, decimal] at read
      split at read
      next digits =>
        have first := List.all_eq_true.mp digits.2 byte List.mem_cons_self
        refine List.dropWhile_cons_of_neg ?_
        rintro blank
        rw [eq_of_beq blank] at first
        cases first
      next => cases read

structure Request.Plain (request : Request) : Prop where
  method : OneLine request.method
  word : 32 ∉ request.method
  url : OneLine request.url
  target : 32 ∉ request.url

/-- A server reads the request that the text was made of. -/
theorem readRequest_text {request : Request} (plain : request.Plain)
    (fieldsPlain : ∀ field ∈ fields, field.Plain)
    (length : fieldValue "content-length" (fields.map Field.line) =
      some (asciiBytes (toString request.body.length))) (rest : List UInt8) :
    readRequest (text request fields ++ rest) = some request := by
  have first : OneLine (requestLine request) :=
    plain.method.append (.cons (by decide) (by decide)
      (plain.url.append ⟨by decide, by decide⟩))
  have lines : takeLine (text request fields ++ rest) =
      some (requestLine request, fields.flatMap (ended ·.line) ++
        (ended [] ++ (request.body ++ rest))) := by
    have line := takeLine_ended first (fields.flatMap (ended ·.line) ++
      (ended [] ++ (request.body ++ rest)))
    rw [← line, text]
    simp only [List.append_assoc]
  have enough : fields.length < (fields.flatMap (ended ·.line) ++
      (ended [] ++ (request.body ++ rest))).length := by
    have short := length_le_fields fields
    rw [List.length_append, List.length_append, ended]
    simp only [List.nil_append, List.length_cons]
    omega
  have words : splitLine (requestLine request) =
      (request.method, request.url) := by
    obtain ⟨method, behind⟩ := takeWhile_front plain.word
      (request.url ++ asciiBytes " HTTP/1.1")
    have url := (takeWhile_front plain.target (asciiBytes "HTTP/1.1")).1
    rw [splitLine, requestLine, method, behind]
    exact congrArg (Prod.mk request.method) url
  rw [readRequest, lines]
  dsimp only
  rw [headerLines_fields fieldsPlain enough]
  dsimp only
  rw [contentLength, length]
  dsimp only
  rw [decimal_toString]
  dsimp only
  rw [if_neg (by rw [List.length_append]; omega), List.take_left, words]

end Http

end FuryClash.Data
