import Mathlib.Data.List.Basic

namespace FuryClash.Data

/-! `JSON.stringify` of a flat object of strings and integers, and the bytes of
its text. A string is its UTF-16 units, which need not pair up. -/

inductive CodePoint where
  | char (letter : Char)
  | lone (unit : UInt16)

def isLead (unit : UInt16) : Bool :=
  decide (0xD800 ≤ unit.toNat ∧ unit.toNat < 0xDC00)

def isTrail (unit : UInt16) : Bool :=
  decide (0xDC00 ≤ unit.toNat ∧ unit.toNat < 0xE000)

def pairLetter (lead trail : UInt16) : Char :=
  Char.ofNat (0x10000 + (lead.toNat - 0xD800) * 0x400 +
    (trail.toNat - 0xDC00))

def codePoint (unit : UInt16) : CodePoint :=
  if isLead unit || isTrail unit then .lone unit
  else .char (Char.ofNat unit.toNat)

/-- `StringToCodePoints`. -/
def codePoints : List UInt16 → List CodePoint
  | [] => []
  | [unit] => [codePoint unit]
  | unit :: next :: rest =>
      if isLead unit && isTrail next then
        .char (pairLetter unit next) :: codePoints rest
      else codePoint unit :: codePoints (next :: rest)

def unicodeEscape (unit : Nat) : List Char :=
  ['\\', 'u', (unit / 4096 % 16).digitChar, (unit / 256 % 16).digitChar,
    (unit / 16 % 16).digitChar, (unit % 16).digitChar]

def CodePoint.quoted : CodePoint → List Char
  | .lone unit => unicodeEscape unit.toNat
  | .char letter =>
      match letter.toNat with
      | 8 => ['\\', 'b']
      | 9 => ['\\', 't']
      | 10 => ['\\', 'n']
      | 12 => ['\\', 'f']
      | 13 => ['\\', 'r']
      | 34 => ['\\', '\x22']
      | 92 => ['\\', '\\']
      | value => if value < 32 then unicodeEscape value else [letter]

/-- `QuoteJSONString`. -/
def quoteJson (units : List UInt16) : List Char :=
  '\x22' :: (codePoints units).flatMap CodePoint.quoted ++ ['\x22']

/-- The units of a text of the program. -/
def asciiUnits (text : String) : List UInt16 :=
  text.toList.map fun letter => UInt16.ofNat letter.toNat

/-- A property of a flat object. Integers print in decimal below 10^21. -/
inductive JsonField where
  | integer (value : Int)
  | text (units : List UInt16)

def JsonField.stringify : JsonField → List Char
  | .integer value => (toString value).toList
  | .text units => quoteJson units

def stringifyMember (member : String × JsonField) : List Char :=
  quoteJson (asciiUnits member.1) ++ ':' :: member.2.stringify

def stringifyMembers : List (String × JsonField) → List Char
  | [] => []
  | [member] => stringifyMember member
  | member :: next :: rest =>
      stringifyMember member ++ ',' :: stringifyMembers (next :: rest)

def stringify (members : List (String × JsonField)) : List Char :=
  '\x7b' :: stringifyMembers members ++ ['\x7d']

def utf8 (text : List Char) : List UInt8 :=
  text.flatMap String.utf8EncodeChar

@[simp] theorem utf8_nil : utf8 [] = [] := rfl

@[simp] theorem utf8_cons (letter : Char) (rest : List Char) :
    utf8 (letter :: rest) = String.utf8EncodeChar letter ++ utf8 rest :=
  List.flatMap_cons

@[simp] theorem utf8_append (first second : List Char) :
    utf8 (first ++ second) = utf8 first ++ utf8 second :=
  List.flatMap_append

theorem utf8EncodeChar_ascii {letter : Char} (ascii : letter.toNat < 128) :
    String.utf8EncodeChar letter = [UInt8.ofNat letter.toNat] := by
  have small : letter.val.toNat ≤ 0x7f := Nat.le_of_lt_succ ascii
  rw [String.utf8EncodeChar]
  exact if_pos small

theorem utf8_ascii {text : List Char}
    (ascii : ∀ letter ∈ text, letter.toNat < 128) :
    utf8 text = text.map fun letter => UInt8.ofNat letter.toNat := by
  induction text with
  | nil => rfl
  | cons letter rest ih =>
      obtain ⟨first, others⟩ := List.forall_mem_cons.mp ascii
      rw [utf8_cons, utf8EncodeChar_ascii first, ih others]
      rfl

theorem le_of_mem_utf8EncodeChar {letter : Char} {byte : UInt8}
    (other : 128 ≤ letter.toNat)
    (within : byte ∈ String.utf8EncodeChar letter) : 128 ≤ byte.toNat := by
  have large : ¬ letter.val.toNat ≤ 0x7f := Nat.not_le_of_lt other
  rw [String.utf8EncodeChar] at within
  rw [if_neg large] at within
  split at within
  next =>
    simp only [List.mem_cons, List.not_mem_nil, or_false] at within
    rcases within with rfl | rfl <;> rw [UInt8.toNat_ofNat'] <;> omega
  split at within
  next =>
    simp only [List.mem_cons, List.not_mem_nil, or_false] at within
    rcases within with rfl | rfl | rfl <;> rw [UInt8.toNat_ofNat'] <;> omega
  next =>
    simp only [List.mem_cons, List.not_mem_nil, or_false] at within
    rcases within with rfl | rfl | rfl | rfl <;> rw [UInt8.toNat_ofNat'] <;>
      omega

inductive EscapedText : List UInt8 → Prop
  | nil : EscapedText []
  | plain {byte : UInt8} {rest : List UInt8} (visible : 32 ≤ byte.toNat)
      (quote : byte ≠ 34) (backslash : byte ≠ 92)
      (others : EscapedText rest) : EscapedText (byte :: rest)
  | pair {byte : UInt8} {rest : List UInt8} (visible : 32 ≤ byte.toNat)
      (others : EscapedText rest) : EscapedText (92 :: byte :: rest)

namespace EscapedText

theorem append {first second : List UInt8} (front : EscapedText first)
    (behind : EscapedText second) : EscapedText (first ++ second) := by
  induction front with
  | nil => exact behind
  | plain visible quote backslash _ ih =>
      exact .plain visible quote backslash ih
  | pair visible _ ih => exact .pair visible ih

theorem visible {bytes : List UInt8} (escaped : EscapedText bytes) :
    ∀ byte ∈ bytes, 32 ≤ byte.toNat := by
  induction escaped with
  | nil => exact List.forall_mem_nil _
  | plain visible _ _ _ ih => exact List.forall_mem_cons.mpr ⟨visible, ih⟩
  | pair visible _ ih =>
      refine List.forall_mem_cons.mpr ⟨by decide, ?_⟩
      exact List.forall_mem_cons.mpr ⟨visible, ih⟩

theorem of_plain {bytes : List UInt8}
    (plain : ∀ byte ∈ bytes, 32 ≤ byte.toNat ∧ byte ≠ 34 ∧ byte ≠ 92) :
    EscapedText bytes := by
  induction bytes with
  | nil => exact .nil
  | cons byte rest ih =>
      obtain ⟨⟨visible, quote, backslash⟩, others⟩ :=
        List.forall_mem_cons.mp plain
      exact .plain visible quote backslash (ih others)

theorem utf8EncodeChar {letter : Char} (visible : 32 ≤ letter.toNat)
    (quote : letter.toNat ≠ 34) (backslash : letter.toNat ≠ 92) :
    EscapedText (String.utf8EncodeChar letter) := by
  refine of_plain fun byte within => ?_
  by_cases ascii : letter.toNat < 128
  · rw [utf8EncodeChar_ascii ascii, List.mem_singleton] at within
    have same : byte.toNat = letter.toNat := by
      rw [within, UInt8.toNat_ofNat']
      omega
    refine ⟨same ▸ visible, ?_, ?_⟩
    · rintro rfl
      exact quote same.symm
    · rintro rfl
      exact backslash same.symm
  · have large := le_of_mem_utf8EncodeChar (Nat.le_of_not_lt ascii) within
    refine ⟨by omega, ?_, ?_⟩
    · rintro rfl
      exact absurd large (by decide)
    · rintro rfl
      exact absurd large (by decide)

theorem digitChar (value : Nat) :
    EscapedText (String.utf8EncodeChar (value % 16).digitChar) := by
  have visible : ∀ digit < 16, 32 ≤ (Nat.digitChar digit).toNat ∧
      (Nat.digitChar digit).toNat ≠ 34 ∧
      (Nat.digitChar digit).toNat ≠ 92 := by decide
  obtain ⟨visible, quote, backslash⟩ :=
    visible (value % 16) (Nat.mod_lt _ (by decide))
  exact utf8EncodeChar visible quote backslash

theorem unicodeEscape (unit : Nat) :
    EscapedText (utf8 (Data.unicodeEscape unit)) := by
  have digits := (digitChar (unit / 4096)).append
    ((digitChar (unit / 256)).append ((digitChar (unit / 16)).append
      ((digitChar unit).append .nil)))
  have visible : 32 ≤ (117 : UInt8).toNat := by decide
  exact .pair visible digits

theorem quoted (point : CodePoint) : EscapedText (utf8 point.quoted) := by
  cases point with
  | lone unit => exact unicodeEscape _
  | char letter =>
      rw [CodePoint.quoted]
      split
      case h_8 quote backslash =>
        split
        next => exact unicodeEscape _
        next visible =>
          rw [utf8_cons, utf8_nil, List.append_nil]
          exact utf8EncodeChar (Nat.le_of_not_lt visible) quote backslash
      all_goals exact .pair (by decide) .nil

theorem quotedText (points : List CodePoint) :
    EscapedText (utf8 (points.flatMap CodePoint.quoted)) := by
  induction points with
  | nil => exact .nil
  | cons point rest ih =>
      rw [List.flatMap_cons, utf8_append]
      exact (quoted point).append ih

end EscapedText

theorem utf8_quoteJson (units : List UInt16) :
    ∃ body, EscapedText body ∧ utf8 (quoteJson units) = 34 :: body ++ [34] := by
  refine ⟨_, EscapedText.quotedText (codePoints units), ?_⟩
  rw [quoteJson, List.cons_append, utf8_cons, utf8_append]
  rfl

/-- Whether all letters have a property, found by going through them. -/
theorem forall_of_all {letters : List Char} {p : Char → Prop}
    [DecidablePred p]
    (all : (letters.all fun letter => decide (p letter)) = true) :
    ∀ letter ∈ letters, p letter := by
  intro letter within
  exact of_decide_eq_true (List.all_eq_true.mp all letter within)

def Word (name : String) : Prop :=
  name ≠ "" ∧ name.toList.all Char.isAlphanum = true

instance (name : String) : Decidable (Word name) :=
  inferInstanceAs (Decidable (_ ∧ _))

theorem Word.isAlphanum {name : String} (word : Word name) :
    ∀ letter ∈ name.toList, letter.isAlphanum = true :=
  List.all_eq_true.mp word.2

theorem isAlphanum_bounds {letter : Char}
    (alphanum : letter.isAlphanum = true) :
    48 ≤ letter.toNat ∧ letter.toNat < 123 ∧ letter.toNat ≠ 92 ∧
      letter.toNat ≠ 58 := by
  have between {low high : Char}
      (inside : letter.val ≥ low.val ∧ letter.val ≤ high.val) :
      low.toNat ≤ letter.toNat ∧ letter.toNat ≤ high.toNat :=
    inside.imp UInt32.le_iff_toNat_le.mp UInt32.le_iff_toNat_le.mp
  rcases Bool.or_eq_true_iff.mp alphanum with alpha | digit
  · rcases Bool.or_eq_true_iff.mp alpha with upper | lower
    · have bounds : 65 ≤ letter.toNat ∧ letter.toNat ≤ 90 :=
        between (of_decide_eq_true upper)
      omega
    · have bounds : 97 ≤ letter.toNat ∧ letter.toNat ≤ 122 :=
        between ((Bool.and_eq_true_iff.mp lower).imp of_decide_eq_true
          of_decide_eq_true)
      omega
  · have bounds : 48 ≤ letter.toNat ∧ letter.toNat ≤ 57 :=
      between ((Bool.and_eq_true_iff.mp digit).imp of_decide_eq_true
        of_decide_eq_true)
    omega

theorem codePoints_ascii {letters : List Char}
    (ascii : ∀ letter ∈ letters, letter.toNat < 128) :
    codePoints (letters.map fun letter => UInt16.ofNat letter.toNat) =
      letters.map CodePoint.char := by
  have unit {letter : Char} (small : letter.toNat < 128) :
      (UInt16.ofNat letter.toNat).toNat = letter.toNat := by
    rw [UInt16.toNat_ofNat']
    omega
  have point {letter : Char} (small : letter.toNat < 128) :
      codePoint (UInt16.ofNat letter.toNat) = .char letter := by
    have lead : isLead (UInt16.ofNat letter.toNat) = false :=
      decide_eq_false (by rw [unit small]; omega)
    have trail : isTrail (UInt16.ofNat letter.toNat) = false :=
      decide_eq_false (by rw [unit small]; omega)
    rw [codePoint, lead, trail, unit small, Char.ofNat_toNat]
    rfl
  induction letters with
  | nil => rfl
  | cons letter rest ih =>
      obtain ⟨first, others⟩ := List.forall_mem_cons.mp ascii
      have lead : isLead (UInt16.ofNat letter.toNat) = false :=
        decide_eq_false (by rw [unit first]; omega)
      cases rest with
      | nil => exact congrArg (fun point => [point]) (point first)
      | cons next rest =>
          rw [List.map_cons, List.map_cons, codePoints, lead,
            Bool.false_and, if_neg Bool.false_ne_true, point first]
          exact congrArg (.char letter :: ·) (ih others)

theorem quoteJson_word {name : String} (word : Word name) :
    quoteJson (asciiUnits name) = '\x22' :: name.toList ++ ['\x22'] := by
  have bounds := fun letter within => isAlphanum_bounds (word.isAlphanum letter within)
  have plain : ∀ letter ∈ name.toList,
      CodePoint.quoted (.char letter) = [letter] := by
    intro letter within
    obtain ⟨digit, _, backslash, _⟩ := bounds letter within
    rw [CodePoint.quoted]
    split
    case h_8 => exact if_neg (by omega)
    all_goals omega
  have ascii : ∀ letter ∈ name.toList, letter.toNat < 128 :=
    fun letter within => Nat.lt_trans (bounds letter within).2.1 (by decide)
  rw [quoteJson, asciiUnits, codePoints_ascii ascii,
    List.flatMap_map, List.flatMap_congr plain, List.flatMap_singleton']

end FuryClash.Data
