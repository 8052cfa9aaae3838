import Mathlib.Algebra.Order.Ring.Rat
import Mathlib.Data.Nat.Cast.Order.Ring

namespace FuryClash.Data

/-! The JavaScript values that `JSON.parse` makes, and the conversions that the
operators apply to them. `none` is `undefined`, the value of a property that is
not there. -/

inductive JsNumber where
  | finite (value : Rat)
  | infinite (negative : Bool)
  | nan
  deriving DecidableEq

inductive Json where
  | null
  | bool (value : Bool)
  | number (value : JsNumber)
  | string (text : String)
  | array (items : List Json)
  | object (members : List (String × Json))

abbrev JsVal := Option Json

inductive JsError where
  | rangeError
  | typeError
  deriving DecidableEq

/-- What the language leaves to its numeric grammar and its JSON parser; a text
that `JSON.parse` refuses gives `none`. -/
structure JsRuntime where
  jsonParse : List UInt8 → Option Json
  stringToNumber : String → JsNumber

def asciiBytes (text : String) : List UInt8 :=
  text.toList.map fun letter => UInt8.ofNat letter.toNat

def JsRuntime.ofTexts (texts : List (String × Json)) : JsRuntime where
  jsonParse bytes :=
    (texts.find? fun entry => asciiBytes entry.1 == bytes).map (·.2)
  stringToNumber text := if text = "" then .finite 0 else .nan

theorem bind_eq_ok {α β : Type} {first : Except JsError α}
    {next : α → Except JsError β} {result : β}
    (both : (first >>= next) = .ok result) :
    ∃ value, first = .ok value ∧ next value = .ok result := by
  cases first with
  | error err => cases both
  | ok value => exact ⟨value, rfl, both⟩

namespace JsNumber

def equals (left right : JsNumber) : Bool :=
  decide (left = right ∧ left ≠ .nan)

/-- `ToUint32`; `ToInt32` has the same bits. -/
def toUint32 : JsNumber → Nat
  | .finite value => ((value.num.tdiv value.den) % 2 ^ 32).toNat
  | _ => 0

def nonnegative : JsNumber → Bool
  | .finite value => decide (0 ≤ value)
  | .infinite negative => !negative
  | .nan => false

def exceeds (limit : Nat) : JsNumber → Bool
  | .finite value => decide ((limit : Rat) < value)
  | .infinite negative => !negative
  | .nan => false

def negative : JsNumber → Bool
  | .finite value => decide (value < 0)
  | .infinite negative => negative
  | .nan => false

@[simp] theorem exceeds_natCast (limit value : Nat) :
    (finite value).exceeds limit = decide (limit < value) := by
  simp only [exceeds, Nat.cast_lt]

@[simp] theorem negative_natCast (value : Nat) :
    (finite value).negative = false := by
  simp only [negative, decide_eq_false_iff_not, not_lt]
  exact Nat.cast_nonneg value

theorem toUint32_natCast {value : Nat} (fits : value < 2 ^ 32) :
    (finite value).toUint32 = value := by
  simp only [toUint32, Rat.num_natCast, Rat.den_natCast, Nat.cast_one,
    Int.tdiv_one]
  omega

end JsNumber

namespace Json

def nat (value : Nat) : Json := .number (.finite value)

theorem nat_injective : Function.Injective nat := by
  intro left right same
  rw [nat, nat, Json.number.injEq, JsNumber.finite.injEq] at same
  exact_mod_cast same

/-- A repeated name counts with its last value. -/
def get (name : String) (members : List (String × Json)) : JsVal :=
  members.reverse.lookup name

/-- The properties that `...json` copies. The index keys of an array or of a
string are left out: nothing reads a property of such a name. -/
def spread : Json → List (String × Json)
  | .object members => members
  | _ => []

theorem get_cons (name key : String) (value : Json)
    (members : List (String × Json)) :
    get name ((key, value) :: members) =
      (get name members).or (if key = name then some value else none) := by
  rw [get, get, List.reverse_cons, List.lookup_append]
  by_cases same : key = name
  · simp [same]
  · have other : (name == key) = false := by
      simpa using fun equal : name = key => same equal.symm
    simp [same, other, List.lookup_cons]

mutual

/-- Whether the conversion to a primitive finds no callable `toString`. A JSON
object has one only as long as none of its own properties hides it. -/
def toStringThrows : Json → Bool
  | .array items => anyToStringThrows items
  | .object members => members.any (·.1 == "toString")
  | _ => false

def anyToStringThrows : List Json → Bool
  | [] => false
  | item :: rest => toStringThrows item || anyToStringThrows rest

end

mutual

def itemNumber (runtime : JsRuntime) : Json → JsNumber
  | .null => runtime.stringToNumber ""
  | .bool value => runtime.stringToNumber (toString value)
  | .number value => value
  | .string text => runtime.stringToNumber text
  | .array items => joinedNumber runtime items
  | .object _ => runtime.stringToNumber "[object Object]"

/-- The number of the items joined by commas, of which no number has any. -/
def joinedNumber (runtime : JsRuntime) : List Json → JsNumber
  | [] => runtime.stringToNumber ""
  | [item] => itemNumber runtime item
  | _ :: _ :: _ => .nan

end

mutual

/-- Whether the property key of the value is the one of the array index. The
texts of the other values, `"null"` or `"a,b"`, are no index. -/
def keyIs (index : Nat) : Json → Bool
  | .number value => decide (value = .finite index)
  | .string text => text == toString index
  | .array items => joinedKeyIs index items
  | _ => false

def joinedKeyIs (index : Nat) : List Json → Bool
  | [item] => keyIs index item
  | _ => false

end

end Json

namespace JsVal

/-- `===`. Objects and arrays of two parses are never the same. -/
def strictEq : JsVal → JsVal → Bool
  | none, none => true
  | some .null, some .null => true
  | some (.bool left), some (.bool right) => left == right
  | some (.number left), some (.number right) => left.equals right
  | some (.string left), some (.string right) => left == right
  | _, _ => false

def toStringThrows : JsVal → Bool
  | none => false
  | some value => value.toStringThrows

def toNumber (runtime : JsRuntime) : JsVal → Except JsError JsNumber
  | none => .ok .nan
  | some .null => .ok (.finite 0)
  | some (.bool value) => .ok (.finite (if value then 1 else 0))
  | some value =>
      if value.toStringThrows then .error .typeError
      else .ok (value.itemNumber runtime)

def isNonnegative (runtime : JsRuntime) (value : JsVal) :
    Except JsError Bool :=
  return (← toNumber runtime value).nonnegative

@[simp] theorem toNumber_nat (runtime : JsRuntime) (value : Nat) :
    toNumber runtime (some (.nat value)) = .ok (.finite value) := rfl

theorem eq_of_strictEq {left right : JsVal}
    (same : strictEq left right = true) : left = right := by
  rcases left with _ | (_ | _ | _ | _ | _ | _) <;>
    rcases right with _ | (_ | _ | _ | _ | _ | _) <;>
    simp_all [strictEq, JsNumber.equals]

theorem strictEq_nat_iff (value : JsVal) (number : Nat) :
    strictEq value (some (.nat number)) = true ↔
      value = some (.nat number) := by
  rcases value with _ | (_ | _ | _ | _ | _ | _) <;>
    simp [strictEq, Json.nat, JsNumber.equals]
  rintro rfl
  simp

end JsVal

end FuryClash.Data
