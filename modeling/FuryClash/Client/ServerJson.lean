import FuryClash.Client.OwnBytes

namespace FuryClash.Client

open FuryClash.Data

/-! The texts of `encodeJson` as `json_int` searches them: the first occurrence
of a key between quotes and before a colon is the key itself. -/

def terminated (bytes behind : List UInt8) : Payload where
  memory i := (bytes ++ 0 :: behind).getD i 0
  room := bytes.length + 1 + behind.length
  plen := bytes.length

/-- Every value that the digits go through is an `int`. -/
def DigitsFit (val : Int) : List UInt8 → Prop
  | [] => True
  | byte :: rest =>
      isDigit byte = true →
        val * 10 + (byte.toNat - 48 : Int) < 2 ^ 31 ∧
          DigitsFit (val * 10 + (byte.toNat - 48 : Int)) rest

def afterSign (found : List UInt8) : List UInt8 :=
  let p := found.dropWhile isBlank
  if p.head? = some 45 then p.drop 1 else p

/-- `json_int` gives the value of the key, without an overflow on the way. -/
structure ReadsBack (json : List UInt8) (key : String) (value : Int) :
    Prop where
  result : ∀ default, jsonInt json key default = value
  fits : ∀ found, afterPattern (keyPattern key) json = some found →
    DigitsFit 0 (afterSign found)

theorem asciiBytes_word {word : String} (plain : Word word) :
    asciiBytes word ≠ [] ∧ ∀ byte ∈ asciiBytes word,
      48 ≤ byte.toNat ∧ byte.toNat < 123 ∧ byte ≠ 92 ∧ byte ≠ 58 := by
  constructor
  · intro none_there
    exact plain.1 (String.toList_eq_nil_iff.mp (List.map_eq_nil_iff.mp
      none_there))
  · intro byte within
    obtain ⟨letter, there, rfl⟩ := List.mem_map.mp within
    obtain ⟨digit, small, backslash, colon⟩ :=
      isAlphanum_bounds (plain.isAlphanum letter there)
    have same : (UInt8.ofNat letter.toNat).toNat = letter.toNat := by
      rw [UInt8.toNat_ofNat']
      omega
    rw [same]
    refine ⟨digit, small, ?_, ?_⟩
    · intro equal
      exact backslash (same.symm.trans (congrArg UInt8.toNat equal))
    · intro equal
      exact colon (same.symm.trans (congrArg UInt8.toNat equal))

theorem quote_not_mem_asciiBytes {word : String} (plain : Word word) :
    34 ∉ asciiBytes word := by
  intro within
  exact absurd ((asciiBytes_word plain).2 34 within).1 (by decide)

theorem asciiBytes_injective {word other : String} (plain : Word word)
    (other_plain : Word other) (same : asciiBytes word = asciiBytes other) :
    word = other := by
  have letters {text : String} (plain : Word text) :
      (asciiBytes text).map (fun byte => Char.ofNat byte.toNat) =
        text.toList := by
    rw [asciiBytes, List.map_map]
    refine (List.map_congr_left fun letter there => ?_).trans (List.map_id _)
    have small := (isAlphanum_bounds (plain.isAlphanum letter there)).2.1
    rw [Function.comp_apply, UInt8.toNat_ofNat',
      Nat.mod_eq_of_lt (by omega), Char.ofNat_toNat]
    rfl
  rw [← String.toList_inj, ← letters plain, ← letters other_plain, same]

theorem keyPattern_eq (key : String) :
    keyPattern key = 34 :: (asciiBytes key ++ [34, 58]) := by
  rw [keyPattern, asciiBytes, asciiBytes, String.toList_append,
    String.toList_append, List.map_append, List.map_append]
  rfl

section

variable {key body rest : List UInt8} {after : UInt8}

/-- The key cannot lie in a string that is no key: the quote behind it would
close the string, with the colon behind. -/
theorem not_prefix_value (quote : 34 ∉ key) (backslash : 92 ∉ key)
    (escaped : EscapedText body) (apart : after ≠ 58) :
    ¬ key ++ [34, 58] <+: body ++ 34 :: after :: rest := by
  induction escaped generalizing key with
  | nil =>
      intro front
      cases key with
      | nil =>
          have next := (List.cons_prefix_cons.mp front).2
          exact apart (List.cons_prefix_cons.mp next).1.symm
      | cons letter letters =>
          exact quote ((List.cons_prefix_cons.mp front).1 ▸
            List.mem_cons_self)
  | plain visible no_quote no_backslash others ih =>
      intro front
      cases key with
      | nil => exact no_quote (List.cons_prefix_cons.mp front).1.symm
      | cons letter letters =>
          exact ih (List.not_mem_of_not_mem_cons quote)
            (List.not_mem_of_not_mem_cons backslash)
            (List.cons_prefix_cons.mp front).2
  | pair visible others ih =>
      intro front
      cases key with
      | nil => exact absurd (List.cons_prefix_cons.mp front).1 (by decide)
      | cons letter letters =>
          exact backslash ((List.cons_prefix_cons.mp front).1 ▸
            List.mem_cons_self)

theorem not_prefix_name {name : List UInt8} (quote : 34 ∉ key)
    (name_quote : 34 ∉ name) (other : name ≠ key) :
    ¬ key ++ [34, 58] <+: name ++ 34 :: rest := by
  induction key generalizing name with
  | nil =>
      intro front
      cases name with
      | nil => exact other rfl
      | cons letter letters =>
          exact name_quote ((List.cons_prefix_cons.mp front).1 ▸
            List.mem_cons_self)
  | cons first key ih =>
      intro front
      cases name with
      | nil =>
          exact quote ((List.cons_prefix_cons.mp front).1 ▸
            List.mem_cons_self)
      | cons letter letters =>
          obtain ⟨same, behind⟩ := List.cons_prefix_cons.mp front
          refine ih (List.not_mem_of_not_mem_cons quote)
            (List.not_mem_of_not_mem_cons name_quote) ?_ behind
          rintro rfl
          exact other (congrArg (· :: letters) same.symm)

end

section

variable {key : String} {rest : List UInt8}

theorem afterPattern_skip_byte {byte : UInt8} (other : byte ≠ 34) :
    afterPattern (keyPattern key) (byte :: rest) =
      afterPattern (keyPattern key) rest := by
  refine afterPattern_skip fun front => ?_
  rw [keyPattern_eq] at front
  exact other (List.cons_prefix_cons.mp front).1.symm

theorem afterPattern_skip_text {bytes : List UInt8} (plain : 34 ∉ bytes) :
    afterPattern (keyPattern key) (bytes ++ rest) =
      afterPattern (keyPattern key) rest := by
  induction bytes with
  | nil => rfl
  | cons byte bytes ih =>
      obtain ⟨other, others⟩ := not_or.mp (List.mem_cons.not.mp plain)
      exact (afterPattern_skip_byte (Ne.symm other)).trans (ih others)

def Separator (byte : UInt8) : Prop := byte = 44 ∨ byte = 58 ∨ byte = 125

theorem afterPattern_skip_closing {after : UInt8} (word : Word key)
    (separator : Separator after) :
    afterPattern (keyPattern key) (34 :: after :: rest) =
      afterPattern (keyPattern key) (after :: rest) := by
  refine afterPattern_skip fun front => ?_
  obtain ⟨some_key, letters⟩ := asciiBytes_word word
  obtain ⟨first, others, letters_eq⟩ := List.exists_cons_of_ne_nil some_key
  rw [keyPattern_eq, letters_eq] at front
  have behind := (List.cons_prefix_cons.mp front).2
  rw [← (List.cons_prefix_cons.mp behind).1] at separator
  obtain ⟨digit, small, _, colon⟩ :=
    letters first (letters_eq ▸ List.mem_cons_self)
  rcases separator with rfl | rfl | rfl
  · exact absurd digit (by decide)
  · exact colon rfl
  · exact absurd small (by decide)

theorem afterPattern_skip_body {body : List UInt8} {after : UInt8}
    (word : Word key) (escaped : EscapedText body)
    (separator : Separator after) (apart : after ≠ 58) :
    afterPattern (keyPattern key) (body ++ 34 :: after :: rest) =
      afterPattern (keyPattern key) (after :: rest) := by
  have quote := quote_not_mem_asciiBytes word
  have backslash : 92 ∉ asciiBytes key := fun within =>
    ((asciiBytes_word word).2 92 within).2.2.1 rfl
  induction escaped with
  | nil => exact afterPattern_skip_closing word separator
  | plain visible no_quote no_backslash others ih =>
      exact (afterPattern_skip_byte no_quote).trans ih
  | @pair byte bytes visible others ih =>
      refine (afterPattern_skip_byte (by decide)).trans (Eq.trans ?_ ih)
      by_cases no_quote : byte = 34
      · rw [no_quote]
        refine afterPattern_skip fun front => ?_
        rw [keyPattern_eq] at front
        exact not_prefix_value quote backslash others apart
          (List.cons_prefix_cons.mp front).2
      · exact afterPattern_skip_byte no_quote

theorem afterPattern_skip_string {body : List UInt8} {after : UInt8}
    (word : Word key) (escaped : EscapedText body)
    (separator : Separator after) (apart : after ≠ 58) :
    afterPattern (keyPattern key) (34 :: (body ++ 34 :: after :: rest)) =
      afterPattern (keyPattern key) (after :: rest) := by
  -- the opening quote is passed like one behind a backslash
  have pair : EscapedText (92 :: 34 :: body) := .pair (by decide) escaped
  have backslash : (92 : UInt8) ≠ 34 := by decide
  refine (afterPattern_skip_byte backslash).symm.trans ?_
  exact afterPattern_skip_body word pair separator apart

theorem afterPattern_skip_name {name : String} (word : Word key)
    (name_word : Word name) (other : name ≠ key) :
    afterPattern (keyPattern key)
        (34 :: (asciiBytes name ++ 34 :: 58 :: rest)) =
      afterPattern (keyPattern key) rest := by
  have apart : asciiBytes name ≠ asciiBytes key := fun same =>
    other (asciiBytes_injective name_word word same)
  have opening : ¬ keyPattern key <+:
      34 :: (asciiBytes name ++ 34 :: 58 :: rest) := by
    intro front
    rw [keyPattern_eq] at front
    exact not_prefix_name (quote_not_mem_asciiBytes word)
      (quote_not_mem_asciiBytes name_word) apart
      (List.cons_prefix_cons.mp front).2
  calc afterPattern (keyPattern key)
        (34 :: (asciiBytes name ++ 34 :: 58 :: rest))
    _ = afterPattern (keyPattern key)
        (asciiBytes name ++ 34 :: 58 :: rest) := afterPattern_skip opening
    _ = afterPattern (keyPattern key) (34 :: 58 :: rest) :=
        afterPattern_skip_text (quote_not_mem_asciiBytes name_word)
    _ = afterPattern (keyPattern key) (58 :: rest) :=
        afterPattern_skip_closing word (.inr (.inl rfl))
    _ = afterPattern (keyPattern key) rest :=
        afterPattern_skip_byte (by decide)

theorem utf8_integer (value : Int) :
    utf8 (JsonField.integer value).stringify =
      (if value < 0 then [45] else []) ++
        asciiBytes (Nat.repr value.natAbs) := by
  have ascii (number : Nat) :
      utf8 number.repr.toList = asciiBytes number.repr := by
    refine utf8_ascii fun letter within => ?_
    rw [Nat.toList_repr] at within
    have digit := Nat.isDigit_of_mem_toDigits (by decide) (by decide) within
    have alphanum : letter.isAlphanum = true := by
      rw [Char.isAlphanum, digit, Bool.or_true]
    have bounds := isAlphanum_bounds alphanum
    omega
  rw [JsonField.stringify, Int.toString_eq_repr, Int.repr_eq_if]
  split
  next nonneg =>
    have same : value.toNat = value.natAbs := by omega
    rw [if_neg (by omega), same]
    exact ascii value.natAbs
  next negative =>
    have same : (-value).toNat = value.natAbs := by omega
    rw [if_pos (by omega), same, String.toList_append, utf8_append,
      ascii value.natAbs]
    rfl

theorem isDigit_ascii {letter : Char} (digit : letter.isDigit = true) :
    isDigit (UInt8.ofNat letter.toNat) = true ∧ ∀ val : Nat,
      (val : Int) * 10 + ((UInt8.ofNat letter.toNat).toNat - 48 : Int) =
        (10 * val + (letter.toNat - '0'.toNat) : Nat) := by
  rw [Char.isDigit_iff_toNat] at digit
  change 48 ≤ letter.toNat ∧ letter.toNat ≤ 57 at digit
  have same : (UInt8.ofNat letter.toNat).toNat = letter.toNat := by
    rw [UInt8.toNat_ofNat']
    omega
  constructor
  · rw [isDigit, decide_eq_true_eq, UInt8.le_iff_toNat_le,
      UInt8.le_iff_toNat_le, same]
    exact digit
  · intro val
    have zero : '0'.toNat = 48 := rfl
    rw [same, zero]
    omega

theorem isDigit_of_mem_repr {number : Nat} {byte : UInt8}
    (within : byte ∈ asciiBytes number.repr) : isDigit byte = true := by
  obtain ⟨letter, there, rfl⟩ := List.mem_map.mp within
  rw [Nat.toList_repr] at there
  have digit := Nat.isDigit_of_mem_toDigits (by decide) (by decide) there
  exact (isDigit_ascii digit).1

theorem not_mem_integer {byte : UInt8} (unsigned : byte ≠ 45)
    (other : isDigit byte = false) (value : Int) :
    byte ∉ utf8 (JsonField.integer value).stringify := by
  rw [utf8_integer, List.mem_append, not_or]
  constructor
  · split
    next => exact List.mem_singleton.not.mpr unsigned
    next => exact List.not_mem_nil
  · intro within
    rw [isDigit_of_mem_repr within] at other
    cases other

section

variable {letters : List Char} {after : UInt8} (behind : List UInt8)
  (all : ∀ letter ∈ letters, letter.isDigit = true)
  (ends : isDigit after = false)

include all ends

theorem digits_ascii (val : Nat) :
    digits val ((letters.map fun letter => UInt8.ofNat letter.toNat) ++
        after :: behind) = Nat.ofDigitChars 10 letters val := by
  induction letters generalizing val with
  | nil =>
      rw [Nat.ofDigitChars_nil, List.map_nil, List.nil_append, digits, ends]
      rfl
  | cons letter letters ih =>
      obtain ⟨first, others⟩ := List.forall_mem_cons.mp all
      obtain ⟨digit, value⟩ := isDigit_ascii first
      rw [List.map_cons, List.cons_append, digits, if_pos digit, value,
        Nat.ofDigitChars_cons, ih others]

theorem digitsFit_ascii (val : Nat)
    (small : Nat.ofDigitChars 10 letters val < 2 ^ 31) :
    DigitsFit val ((letters.map fun letter => UInt8.ofNat letter.toNat) ++
        after :: behind) := by
  induction letters generalizing val with
  | nil =>
      intro digit
      rw [ends] at digit
      cases digit
  | cons letter letters ih =>
      obtain ⟨first, others⟩ := List.forall_mem_cons.mp all
      rw [Nat.ofDigitChars_cons] at small
      rw [List.map_cons, List.cons_append, DigitsFit, (isDigit_ascii first).2]
      -- a number is at least what its first digits make
      have grows := @Nat.ofDigitChars_eq_ofDigitChars_zero letters
        (10 * val + (letter.toNat - '0'.toNat))
      have at_least := Nat.le_mul_of_pos_left
        (10 * val + (letter.toNat - '0'.toNat))
        (show 0 < 10 ^ letters.length from Nat.pow_pos (by decide))
      exact fun _ => ⟨by omega, ih others _ small⟩

end

section

variable {digit : UInt8} {bytes : List UInt8} (default : Int)
  (isOne : isDigit digit = true)

include isOne

theorem unsignedAt_digit (sign : Int) :
    unsignedAt sign default (digit :: bytes) =
      digits 0 (digit :: bytes) * sign := if_pos isOne

theorem afterSign_digit :
    afterSign (digit :: bytes) = digit :: bytes ∧
      numberAt default (digit :: bytes) = digits 0 (digit :: bytes) := by
  have bounds := of_decide_eq_true isOne
  have word : ¬ isBlank digit = true := by
    intro blank
    rcases Bool.or_eq_true_iff.mp blank with same | same <;>
      rw [of_decide_eq_true same] at bounds <;>
      exact absurd bounds (by decide)
  have unsigned : (digit :: bytes).head? ≠ some 45 := by
    intro minus
    rw [Option.some.inj minus] at bounds
    exact absurd bounds (by decide)
  rw [afterSign, numberAt, List.dropWhile_cons_of_neg word]
  refine ⟨if_neg unsigned, (if_neg unsigned).trans ?_⟩
  rw [unsignedAt_digit default isOne, mul_one]

theorem afterSign_minus :
    afterSign (45 :: digit :: bytes) = digit :: bytes ∧
      numberAt default (45 :: digit :: bytes) =
        -digits 0 (digit :: bytes) := by
  have word : ¬ isBlank 45 = true := by decide
  rw [afterSign, numberAt, List.dropWhile_cons_of_neg word]
  refine ⟨rfl, (if_pos rfl).trans ?_⟩
  rw [List.drop_one, List.tail_cons, unsignedAt_digit default isOne,
    mul_neg_one]

end

/-- The integer is what stands behind the key. -/
theorem readsBack_of_integer {json : List UInt8} {value : Int}
    {after : UInt8} {behind : List UInt8}
    (small : value.natAbs < 2 ^ 31) (ends : isDigit after = false)
    (there : afterPattern (keyPattern key) json =
      some (utf8 (JsonField.integer value).stringify ++ after :: behind)) :
    ReadsBack json key value := by
  have all : ∀ letter ∈ Nat.toDigits 10 value.natAbs,
      letter.isDigit = true := fun letter within =>
    Nat.isDigit_of_mem_toDigits (by decide) (by decide) within
  have number := digits_ascii behind all ends 0
  have fits := digitsFit_ascii behind all ends 0
  rw [Nat.ofDigitChars_ten_toDigits] at number fits
  have text : asciiBytes value.natAbs.repr =
      (Nat.toDigits 10 value.natAbs).map fun letter =>
        UInt8.ofNat letter.toNat := by
    rw [asciiBytes, Nat.toList_repr]
  rw [utf8_integer, text, List.append_assoc] at there
  obtain ⟨first, others, letters⟩ :=
    List.exists_cons_of_ne_nil (Nat.toDigits_ne_nil (b := 10)
      (n := value.natAbs))
  have digit := (isDigit_ascii (all first (letters ▸ List.mem_cons_self))).1
  rw [letters, List.map_cons, List.cons_append] at there number fits
  refine ⟨fun default => ?_, fun found same => ?_⟩
  · rw [jsonInt_eq, there, Option.map_some, Option.getD_some]
    by_cases negative : value < 0
    · rw [if_pos negative, List.singleton_append,
        (afterSign_minus default digit).2]
      refine (congrArg Neg.neg number).trans ?_
      omega
    · rw [if_neg negative, List.nil_append, (afterSign_digit default digit).2]
      refine number.trans ?_
      omega
  · cases same.symm.trans there
    by_cases negative : value < 0
    · rw [if_pos negative, List.singleton_append,
        (afterSign_minus 0 digit).1]
      exact fits small
    · rw [if_neg negative, List.nil_append, (afterSign_digit 0 digit).1]
      exact fits small

theorem afterPattern_skip_value {after : UInt8} (word : Word key)
    (separator : after = 44 ∨ after = 125) (field : JsonField) :
    afterPattern (keyPattern key) (utf8 field.stringify ++ after :: rest) =
      afterPattern (keyPattern key) (after :: rest) := by
  cases field with
  | integer value =>
      apply afterPattern_skip_text
      exact not_mem_integer (by decide) (by decide) value
  | text units =>
      obtain ⟨body, escaped, text⟩ := utf8_quoteJson units
      have quoted : utf8 (JsonField.text units).stringify ++ after :: rest =
          34 :: (body ++ 34 :: after :: rest) := by
        rw [JsonField.stringify, text, List.append_assoc]
        rfl
      rw [quoted]
      rcases separator with rfl | rfl
      · exact afterPattern_skip_string word escaped (.inl rfl) (by decide)
      · exact afterPattern_skip_string word escaped (.inr (.inr rfl))
          (by decide)

theorem utf8_stringifyMember {name : String} (word : Word name)
    (field : JsonField) (bytes : List UInt8) :
    utf8 (stringifyMember (name, field)) ++ bytes =
      34 :: (asciiBytes name ++ 34 :: 58 ::
        (utf8 field.stringify ++ bytes)) := by
  have letters : utf8 name.toList = asciiBytes name :=
    utf8_ascii fun letter within => by
      have bounds := isAlphanum_bounds (word.isAlphanum letter within)
      omega
  rw [stringifyMember, quoteJson_word word, utf8_append, List.cons_append,
    utf8_cons, utf8_append, letters, utf8_cons, utf8_cons, utf8_nil,
    List.append_nil, List.append_assoc, List.append_assoc, List.append_assoc]
  rfl

theorem stringifyMembers_cons (member : String × JsonField)
    {others : List (String × JsonField)} (some_others : others ≠ []) :
    stringifyMembers (member :: others) =
      stringifyMember member ++ ',' :: stringifyMembers others := by
  cases others with
  | nil => exact absurd rfl some_others
  | cons next others => rfl

theorem utf8_stringifyMembers_cons (member : String × JsonField)
    {others : List (String × JsonField)} (some_others : others ≠ [])
    (bytes : List UInt8) :
    utf8 (stringifyMembers (member :: others)) ++ bytes =
      utf8 (stringifyMember member) ++
        44 :: (utf8 (stringifyMembers others) ++ bytes) := by
  rw [stringifyMembers_cons member some_others, utf8_append, utf8_cons,
    List.append_assoc]
  rfl

theorem afterPattern_key (bytes : List UInt8) :
    afterPattern (keyPattern key)
      (34 :: (asciiBytes key ++ 34 :: 58 :: bytes)) = some bytes := by
  have front := afterPattern_front (keyPattern_ne_nil key) bytes
  rw [keyPattern_eq, List.cons_append, List.append_assoc] at front
  rw [keyPattern_eq]
  exact front

theorem afterPattern_stringifyMembers {field : JsonField}
    {before others : List (String × JsonField)} (rest : List UInt8)
    (word : Word key)
    (apart : ∀ member ∈ before, Word member.1 ∧ member.1 ≠ key) :
    ∃ after behind, (after = 44 ∨ after = 125) ∧
      afterPattern (keyPattern key)
          (utf8 (stringifyMembers (before ++ (key, field) :: others)) ++
            125 :: rest) =
        some (utf8 field.stringify ++ after :: behind) := by
  induction before with
  | nil =>
      rw [List.nil_append]
      cases others with
      | nil =>
          refine ⟨125, rest, .inr rfl, ?_⟩
          rw [stringifyMembers, utf8_stringifyMember word]
          exact afterPattern_key _
      | cons next others =>
          refine ⟨44, utf8 (stringifyMembers (next :: others)) ++ 125 :: rest,
            .inl rfl, ?_⟩
          rw [utf8_stringifyMembers_cons _ (List.cons_ne_nil _ _),
            utf8_stringifyMember word]
          exact afterPattern_key _
  | cons member before ih =>
      obtain ⟨⟨name_word, other⟩, others_apart⟩ :=
        List.forall_mem_cons.mp apart
      obtain ⟨after, behind, separator, there⟩ := ih others_apart
      refine ⟨after, behind, separator, Eq.trans ?_ there⟩
      rw [List.cons_append, utf8_stringifyMembers_cons member (by simp),
        utf8_stringifyMember name_word, afterPattern_skip_name word name_word
          other, afterPattern_skip_value word (.inl rfl)]
      exact afterPattern_skip_byte (by decide)

theorem readsBack_stringify {members : List (String × JsonField)}
    {value : Int} (words : ∀ name ∈ members.map Prod.fst, Word name)
    (distinct : (members.map Prod.fst).Nodup)
    (member : (key, .integer value) ∈ members)
    (small : value.natAbs < 2 ^ 31) :
    ReadsBack (utf8 (stringify members)) key value := by
  have word : Word key := words key (List.mem_map_of_mem member)
  obtain ⟨before, others, rfl⟩ := List.append_of_mem member
  rw [List.map_append, List.map_cons] at words distinct
  have apart : ∀ member ∈ before, Word member.1 ∧ member.1 ≠ key := by
    intro member within
    have name : member.1 ∈ before.map Prod.fst := List.mem_map_of_mem within
    refine ⟨words _ (List.mem_append_left _ name), ?_⟩
    exact (List.nodup_append.mp distinct).2.2 _ name key List.mem_cons_self
  obtain ⟨after, behind, separator, there⟩ :=
    afterPattern_stringifyMembers [] word apart
  have ends : isDigit after = false := by
    rcases separator with rfl | rfl <;> decide
  refine readsBack_of_integer small ends (Eq.trans ?_ there)
  rw [stringify, List.cons_append, utf8_cons, utf8_append]
  exact afterPattern_skip_byte (by decide)

theorem zero_not_mem_quoteJson (units : List UInt16) :
    0 ∉ utf8 (quoteJson units) := by
  intro within
  obtain ⟨body, escaped, text⟩ := utf8_quoteJson units
  rw [text, List.cons_append, List.mem_cons, List.mem_append,
    List.mem_singleton] at within
  rcases within with quote | inside | quote
  · exact absurd quote (by decide)
  · exact absurd (escaped.visible 0 inside) (by decide)
  · exact absurd quote (by decide)

theorem zero_not_mem_field (field : JsonField) :
    0 ∉ utf8 field.stringify := by
  cases field with
  | text units => exact zero_not_mem_quoteJson units
  | integer value => exact not_mem_integer (by decide) (by decide) value

theorem zero_not_mem_member (member : String × JsonField) :
    0 ∉ utf8 (stringifyMember member) := by
  rw [stringifyMember, utf8_append, utf8_cons, List.mem_append,
    List.mem_append, not_or, not_or]
  exact ⟨zero_not_mem_quoteJson _, by decide, zero_not_mem_field _⟩

theorem zero_not_mem_stringify (members : List (String × JsonField)) :
    0 ∉ utf8 (stringify members) := by
  have within : 0 ∉ utf8 (stringifyMembers members) := by
    fun_induction stringifyMembers members with
    | case1 => exact List.not_mem_nil
    | case2 member => exact zero_not_mem_member member
    | case3 member next others ih =>
        rw [utf8_append, utf8_cons, List.mem_append, List.mem_append, not_or,
          not_or]
        exact ⟨zero_not_mem_member member, by decide, ih⟩
  rw [stringify, List.cons_append, utf8_cons, utf8_append, List.mem_append,
    List.mem_append, not_or, not_or]
  exact ⟨by decide, within, by decide⟩

theorem json_terminated (type : UInt8) {text : List UInt8}
    (plain : 0 ∉ text) (behind : List UInt8) :
    (terminated (type :: text) behind).json = text := by
  have whole (bytes : List UInt8) : (List.range bytes.length).map
      (fun i => bytes.getD i 0) = bytes := by
    refine List.ext_getElem (by simp) fun i within inside => ?_
    rw [List.getElem_map, List.getElem_range,
      List.getD_eq_getElem?_getD, List.getElem?_eq_getElem inside,
      Option.getD_some]
  have memory := whole (text ++ 0 :: behind)
  rw [Payload.json, cString_eq]
  have room : (terminated (type :: text) behind).room - 1 =
      (text ++ 0 :: behind).length := by
    simp [terminated]
    omega
  rw [room]
  refine (congrArg cut memory).trans ?_
  rw [cut_append plain, cut_zero, List.append_nil]

end

/-- The integers of the messages are those of an `int`. -/
structure StartFits (payload : Server.StartFields) : Prop where
  yourSlot : payload.yourSlot.natAbs < 2 ^ 31
  p1Fighter : payload.p1Fighter.natAbs < 2 ^ 31
  p2Fighter : payload.p2Fighter.natAbs < 2 ^ 31

structure EndFits (payload : Server.EndFields) : Prop where
  winnerSlot : payload.winnerSlot.natAbs < 2 ^ 31
  p1RoundsWon : payload.p1RoundsWon.natAbs < 2 ^ 31
  p2RoundsWon : payload.p2RoundsWon.natAbs < 2 ^ 31

structure StartReadsBack (payload : Server.StartFields)
    (json : List UInt8) : Prop where
  yourSlot : ReadsBack json "yourSlot" payload.yourSlot
  p1Fighter : ReadsBack json "p1Fighter" payload.p1Fighter
  p2Fighter : ReadsBack json "p2Fighter" payload.p2Fighter

structure EndReadsBack (payload : Server.EndFields)
    (json : List UInt8) : Prop where
  winnerSlot : ReadsBack json "winnerSlot" payload.winnerSlot
  p1RoundsWon : ReadsBack json "p1RoundsWon" payload.p1RoundsWon
  p2RoundsWon : ReadsBack json "p2RoundsWon" payload.p2RoundsWon

theorem json_encodeJson (type : Server.MsgType)
    (members : List (String × JsonField)) (behind : List UInt8) :
    (terminated (Server.encodeJson type members) behind).json =
      utf8 (stringify members) :=
  json_terminated (UInt8.ofNat type.code) (zero_not_mem_stringify members)
    behind

theorem startReadsBack {payload : Server.StartFields}
    (fits : StartFits payload) (behind : List UInt8) :
    StartReadsBack payload
      (terminated (Server.encodeMatchStart payload) behind).json := by
  have words : ∀ name ∈ ["yourSlot", "p1Id", "p2Id", "p1Fighter",
      "p2Fighter", "roomId"], Word name := by decide +kernel
  have distinct : ["yourSlot", "p1Id", "p2Id", "p1Fighter", "p2Fighter",
      "roomId"].Nodup := by decide +kernel
  rw [Server.encodeMatchStart, json_encodeJson]
  constructor
  · exact readsBack_stringify words distinct (by simp) fits.yourSlot
  · exact readsBack_stringify words distinct (by simp) fits.p1Fighter
  · exact readsBack_stringify words distinct (by simp) fits.p2Fighter

theorem endReadsBack {payload : Server.EndFields}
    (fits : EndFits payload) (behind : List UInt8) :
    EndReadsBack payload
      (terminated (Server.encodeMatchEnd payload) behind).json := by
  have words : ∀ name ∈ ["winnerSlot", "reason", "p1RoundsWon",
      "p2RoundsWon", "durationFrames"], Word name := by decide +kernel
  have distinct : ["winnerSlot", "reason", "p1RoundsWon", "p2RoundsWon",
      "durationFrames"].Nodup := by decide +kernel
  rw [Server.encodeMatchEnd, json_encodeJson]
  constructor
  · exact readsBack_stringify words distinct (by simp) fits.winnerSlot
  · exact readsBack_stringify words distinct (by simp) fits.p1RoundsWon
  · exact readsBack_stringify words distinct (by simp) fits.p2RoundsWon

theorem serverJson_readsBack {start : Server.StartFields}
    {ended : Server.EndFields} (startFits : StartFits start)
    (endFits : EndFits ended) (behind : List UInt8) :
    StartReadsBack start
        (terminated (Server.encodeMatchStart start) behind).json ∧
      EndReadsBack ended
        (terminated (Server.encodeMatchEnd ended) behind).json :=
  ⟨startReadsBack startFits behind, endReadsBack endFits behind⟩

/-- Strings that look like keys, with quotes of their own. -/
def keyLikeStart : Server.StartFields where
  yourSlot := 1
  p1Id := asciiUnits "\",\"yourSlot\":0,\""
  p2Id := asciiUnits "p2\\"
  p1Fighter := -1
  p2Fighter := 2
  roomId := asciiUnits "\"p1Fighter\":"

def keyLikeEnd : Server.EndFields where
  winnerSlot := -1
  reason := asciiUnits "\"p1RoundsWon\":9"
  p1RoundsWon := 2
  p2RoundsWon := 1
  durationFrames := 600

theorem serverJson_readsBack_keyLike :
    StartReadsBack keyLikeStart
        (terminated (Server.encodeMatchStart keyLikeStart) []).json ∧
      EndReadsBack keyLikeEnd
        (terminated (Server.encodeMatchEnd keyLikeEnd) []).json :=
  serverJson_readsBack ⟨by decide, by decide, by decide⟩
    ⟨by decide, by decide, by decide⟩ []

end FuryClash.Client
