import FuryClash.Data.JsonParser

namespace FuryClash.Data

def Plain (letter : Char) : Prop :=
  32 ≤ letter.toNat ∧ letter ≠ '\x22' ∧ letter ≠ '\\'

instance : DecidablePred Plain := fun _ =>
  inferInstanceAs (Decidable (_ ∧ _ ∧ _))

inductive Spells : List Char → List UInt16 → Prop
  | nil : Spells [] []
  | plain {letter : Char} {body : List Char} {units : List UInt16}
      (plain : Plain letter) (others : Spells body units) :
      Spells (letter :: body) (letterUnits letter ++ units)
  | escape {letter : Char} {unit : UInt16} {body : List Char}
      {units : List UInt16} (known : escapeUnit letter = some unit)
      (others : Spells body units) :
      Spells ('\\' :: letter :: body) (unit :: units)
  | unicode {a b c d : Char} {unit : UInt16} {body : List Char}
      {units : List UInt16} (known : hexUnit a b c d = some unit)
      (others : Spells body units) :
      Spells ('\\' :: 'u' :: a :: b :: c :: d :: body) (unit :: units)

theorem stringBody_spells {text rest : List Char} {units : List UInt16}
    (read : stringBody text = some (units, rest)) :
    ∃ body, text = body ++ '\x22' :: rest ∧ Spells body units := by
  fun_induction stringBody text generalizing units rest with
  | case1 => cases read
  | case2 behind =>
      cases read
      exact ⟨[], rfl, .nil⟩
  | case3 a b c d behind ih =>
      obtain ⟨unit, known, read⟩ := Option.bind_eq_some_iff.mp read
      obtain ⟨⟨others, rest⟩, inner, read⟩ := Option.bind_eq_some_iff.mp read
      cases read
      obtain ⟨body, rfl, spelt⟩ := ih inner
      exact ⟨_, rfl, .unicode known spelt⟩
  | case4 letter behind short ih =>
      obtain ⟨unit, known, read⟩ := Option.bind_eq_some_iff.mp read
      obtain ⟨⟨others, rest⟩, inner, read⟩ := Option.bind_eq_some_iff.mp read
      cases read
      obtain ⟨body, rfl, spelt⟩ := ih inner
      exact ⟨_, rfl, .escape known spelt⟩
  | case5 => cases read
  | case6 letter behind no_quote no_unicode no_escape visible ih =>
      obtain ⟨⟨others, rest⟩, inner, read⟩ := Option.bind_eq_some_iff.mp read
      cases read
      obtain ⟨body, rfl, spelt⟩ := ih inner
      obtain ⟨large, no_backslash⟩ := not_or.mp visible
      exact ⟨_, rfl, .plain ⟨Nat.le_of_not_lt large, no_quote, no_backslash⟩
        spelt⟩

theorem stringBody_plain {letters rest : List Char}
    (plain : ∀ letter ∈ letters, Plain letter) :
    stringBody (letters ++ '\x22' :: rest) =
      some (letters.flatMap letterUnits, rest) := by
  induction letters with
  | nil => rfl
  | cons letter letters ih =>
      obtain ⟨⟨visible, no_quote, no_backslash⟩, others⟩ :=
        List.forall_mem_cons.mp plain
      have no_control : ¬ (letter.toNat < 32 ∨ letter = '\\') :=
        not_or.mpr ⟨Nat.not_lt_of_le visible, no_backslash⟩
      rw [List.cons_append, stringBody, if_neg no_control, ih others]
      · rfl
      · exact no_quote
      · exact fun _ _ _ _ _ backslash _ => no_backslash backslash
      · exact fun _ _ backslash _ => no_backslash backslash

theorem codePoints_cons {unit : UInt16} (single : isLead unit = false)
    (units : List UInt16) :
    codePoints (unit :: units) = codePoint unit :: codePoints units := by
  cases units with
  | nil => rfl
  | cons next rest => rw [codePoints, single, Bool.false_and,
      if_neg Bool.false_ne_true]

theorem letter_bounds (letter : Char) :
    letter.toNat < 0xD800 ∨ 0xDFFF < letter.toNat ∧ letter.toNat < 0x110000 :=
  letter.valid

theorem unitLetters_letterUnits (letter : Char) (units : List UInt16) :
    unitLetters (letterUnits letter ++ units) =
      letter :: unitLetters units := by
  have bounds := letter_bounds letter
  rw [letterUnits]
  split
  next small =>
    have same : (UInt16.ofNat letter.toNat).toNat = letter.toNat := by
      rw [UInt16.toNat_ofNat']
      omega
    have lead : isLead (UInt16.ofNat letter.toNat) = false :=
      decide_eq_false (by rw [same]; omega)
    have trail : isTrail (UInt16.ofNat letter.toNat) = false :=
      decide_eq_false (by rw [same]; omega)
    rw [List.singleton_append, unitLetters, codePoints_cons lead, codePoint,
      lead, trail, same, Char.ofNat_toNat]
    rfl
  next large =>
    have high : (UInt16.ofNat (0xD800 +
        (letter.toNat - 0x10000) / 0x400)).toNat =
          0xD800 + (letter.toNat - 0x10000) / 0x400 := by
      rw [UInt16.toNat_ofNat']
      omega
    have low : (UInt16.ofNat (0xDC00 +
        (letter.toNat - 0x10000) % 0x400)).toNat =
          0xDC00 + (letter.toNat - 0x10000) % 0x400 := by
      rw [UInt16.toNat_ofNat']
      omega
    have lead : isLead (UInt16.ofNat (0xD800 +
        (letter.toNat - 0x10000) / 0x400)) = true :=
      decide_eq_true (by rw [high]; omega)
    have trail : isTrail (UInt16.ofNat (0xDC00 +
        (letter.toNat - 0x10000) % 0x400)) = true :=
      decide_eq_true (by rw [low]; omega)
    have value : 0x10000 +
        (0xD800 + (letter.toNat - 0x10000) / 0x400 - 0xD800) * 0x400 +
          (0xDC00 + (letter.toNat - 0x10000) % 0x400 - 0xDC00) =
            letter.toNat := by omega
    rw [unitLetters, List.cons_append, List.singleton_append, codePoints,
      lead, trail, pairLetter, high, low, value, Char.ofNat_toNat]
    rfl

theorem unitLetters_flatMap (letters : List Char) :
    unitLetters (letters.flatMap letterUnits) = letters := by
  induction letters with
  | nil => rfl
  | cons letter letters ih =>
      rw [List.flatMap_cons, unitLetters_letterUnits, ih]

theorem ofUnits_flatMap (letters : List Char) :
    ofUnits (letters.flatMap letterUnits) = String.ofList letters :=
  congrArg String.ofList (unitLetters_flatMap letters)

def isSpecial (letter : Char) : Bool := letter = '\x22' || letter = '\\'

/-- The least number of letters that spell these. -/
def weight (letters : List Char) : Nat :=
  letters.length + letters.countP isSpecial

theorem length_lt_weight {letters : List Char} (escaped : '\\' ∈ letters) :
    letters.length < weight letters := by
  have some_special : 0 < letters.countP isSpecial :=
    List.countP_pos_iff.mpr ⟨'\\', escaped, rfl⟩
  rw [weight]
  omega

theorem weight_cons_bounds (letter : Char) (letters : List Char) :
    weight letters ≤ weight (letter :: letters) ∧
      weight (letter :: letters) ≤ 2 + weight letters := by
  rw [weight, weight, List.length_cons, List.countP_cons]
  split <;> omega

theorem isLead_of_isTrail {unit : UInt16} (trail : isTrail unit = true) :
    isLead unit = false := by
  have bounds := of_decide_eq_true trail
  exact decide_eq_false (by omega)

theorem weight_cons_le (unit : UInt16) (units : List UInt16) :
    weight (unitLetters (unit :: units)) ≤
      2 + weight (unitLetters units) := by
  cases units with
  | nil => exact (weight_cons_bounds _ _).2
  | cons next rest =>
      rw [unitLetters, codePoints]
      split
      next pair =>
        -- the second unit would be a letter of its own
        have trail := (Bool.and_eq_true_iff.mp pair).2
        rw [unitLetters, codePoints_cons (isLead_of_isTrail trail)]
        have first := (weight_cons_bounds (pairLetter unit next)
          (unitLetters rest)).2
        have second := (weight_cons_bounds (codePoint next).toLetter
          (unitLetters rest)).1
        exact first.trans (Nat.add_le_add_left second 2)
      next => exact (weight_cons_bounds _ _).2

theorem Spells.weight_le {body : List Char} {units : List UInt16}
    (spelt : Spells body units) : weight (unitLetters units) ≤ body.length := by
  induction spelt with
  | nil => exact Nat.le_refl 0
  | @plain letter body units plain _ ih =>
      have ordinary : isSpecial letter = false := by
        rw [isSpecial, decide_eq_false plain.2.1, decide_eq_false plain.2.2]
        rfl
      rw [unitLetters_letterUnits, weight, List.countP_cons, ordinary,
        List.length_cons, List.length_cons, if_neg Bool.false_ne_true]
      rw [weight] at ih
      omega
  | @escape letter unit body units _ _ ih =>
      have step := weight_cons_le unit units
      rw [List.length_cons, List.length_cons]
      omega
  | @unicode a b c d unit body units _ _ ih =>
      have step := weight_cons_le unit units
      simp only [List.length_cons]
      omega

/-- Without a backslash the letters stand for themselves. -/
theorem Spells.eq_of_no_backslash {body : List Char} {units : List UInt16}
    (spelt : Spells body units) (no_escape : '\\' ∉ body) :
    unitLetters units = body ∧ ∀ letter ∈ body, Plain letter := by
  induction spelt with
  | nil => exact ⟨rfl, List.forall_mem_nil _⟩
  | plain plain _ ih =>
      obtain ⟨letters, others⟩ := ih (List.not_mem_of_not_mem_cons no_escape)
      rw [unitLetters_letterUnits, letters]
      exact ⟨rfl, List.forall_mem_cons.mpr ⟨plain, others⟩⟩
  | escape => exact absurd List.mem_cons_self no_escape
  | unicode => exact absurd List.mem_cons_self no_escape

/-- Each quote stands behind a backslash. -/
def QuotesEscaped (body : List Char) : Prop :=
  ∀ front behind, body = front ++ '\x22' :: behind →
    ∃ start, front = start ++ ['\\']

namespace QuotesEscaped

variable {letter : Char} {body : List Char}

theorem cons (other : letter ≠ '\x22') (escaped : QuotesEscaped body) :
    QuotesEscaped (letter :: body) := by
  intro front behind whole
  cases front with
  | nil => exact absurd (List.cons.inj whole).1 other
  | cons first front =>
      obtain ⟨rfl, rest⟩ := List.cons.inj whole
      obtain ⟨start, rfl⟩ := escaped front behind rest
      exact ⟨letter :: start, rfl⟩

theorem pair (escaped : QuotesEscaped body) :
    QuotesEscaped ('\\' :: letter :: body) := by
  intro front behind whole
  match front, whole with
  | [first], whole =>
      obtain ⟨rfl, _⟩ := List.cons.inj whole
      exact ⟨[], rfl⟩
  | first :: second :: front, whole =>
      obtain ⟨rfl, others⟩ := List.cons.inj whole
      obtain ⟨same, rest⟩ := List.cons.inj others
      obtain ⟨start, rfl⟩ := escaped front behind rest
      exact ⟨'\\' :: second :: start, rfl⟩

end QuotesEscaped

theorem Spells.quotesEscaped {body : List Char} {units : List UInt16}
    (spelt : Spells body units) : QuotesEscaped body := by
  have hex {letter : Char} {value : Nat}
      (known : hexValue letter = some value) : letter ≠ '\x22' := by
    rintro rfl
    cases known
  induction spelt with
  | nil =>
      intro front behind whole
      exact absurd whole.symm (by simp)
  | plain plain _ ih => exact ih.cons plain.2.1
  | escape _ _ ih => exact ih.pair
  | unicode known _ ih =>
      obtain ⟨first, a, known⟩ := Option.bind_eq_some_iff.mp known
      obtain ⟨second, b, known⟩ := Option.bind_eq_some_iff.mp known
      obtain ⟨third, c, known⟩ := Option.bind_eq_some_iff.mp known
      obtain ⟨fourth, d, _⟩ := Option.bind_eq_some_iff.mp known
      exact ((((ih.cons (hex d)).cons (hex c)).cons (hex b)).cons
        (hex a)).pair

end FuryClash.Data
