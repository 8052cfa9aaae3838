import FuryClash.Client.InputCodec
import Mathlib.Data.List.TakeWhile

namespace FuryClash.Client

open FuryClash.Data

/-! What `dispatch_message` reads of a message that lies in the receive buffer,
where no byte ends it. The lookups are repeated here on the bytes of the
message alone: `none` stands for a read behind the last of them. -/

def matchIn : (pattern text : List UInt8) → Option Bool
  | [], _ => some true
  | _ :: _, [] => none
  | p :: pattern, byte :: text =>
      if byte = p then matchIn pattern text else some false

def strstrIn (pattern : List UInt8) : List UInt8 → Option (Option (List UInt8))
  | [] => none
  | byte :: rest =>
      match matchIn pattern (byte :: rest) with
      | none => none
      | some true => some (some ((byte :: rest).drop pattern.length))
      | some false =>
          if byte = 0 then some none else strstrIn pattern rest

def isBlank (byte : UInt8) : Bool := byte = 32 || byte = 9

def skipBlanksIn : List UInt8 → Option (List UInt8)
  | [] => none
  | byte :: rest =>
      if isBlank byte then skipBlanksIn rest else some (byte :: rest)

def digitsIn (val : Int) : List UInt8 → Option Int
  | [] => none
  | byte :: rest =>
      if isDigit byte then
        digitsIn (val * 10 + (byte.toNat - 48 : Int)) rest
      else some val

def unsignedIn (sign default : Int) : List UInt8 → Option Int
  | [] => none
  | byte :: rest =>
      if isDigit byte then (digitsIn 0 (byte :: rest)).map (· * sign)
      else some default

/-- What `json_int` does behind the key. -/
def numberIn (default : Int) (found : List UInt8) : Option Int := do
  let p ← skipBlanksIn found
  if p.head? = some 45 then unsignedIn (-1) default (p.drop 1)
  else unsignedIn 1 default p

def keyPattern (key : String) : List UInt8 := asciiBytes ("\"" ++ key ++ "\":")

def jsonIntIn (text : List UInt8) (key : String) (default : Int) :
    Option Int := do
  match ← strstrIn (keyPattern key) text with
  | none => some default
  | some found => numberIn default found

/-- `strchr(ri, '"')`, and what lies in front of the quote. -/
def quotedIn : List UInt8 → Option (Option (List UInt8))
  | [] => none
  | byte :: rest =>
      if byte = 34 then some (some [])
      else if byte = 0 then some none
      else (quotedIn rest).map (·.map (byte :: ·))

def roomIdPattern : List UInt8 := asciiBytes "\"roomId\":\""

def jsonRoomIdIn (text : List UInt8) : Option (Option (List UInt8)) := do
  match ← strstrIn roomIdPattern text with
  | none => some none
  | some found => (quotedIn found).map (·.map (·.take 63))

namespace Payload

def text (payload : Payload) : List UInt8 :=
  (List.range (payload.plen - 1)).map fun i => payload.memory (i + 1)

structure SameMessage (payload other : Payload) : Prop where
  plen : other.plen = payload.plen
  room : other.room = payload.room
  bytes : ∀ i < payload.plen, other.memory i = payload.memory i

/-- The lookups of `SERVER_START` and `SERVER_END` read the message only. -/
structure ReadsOwn (payload : Payload) : Prop where
  start : payload.plen ≠ 0 → payload.memory 0 = msgStart →
    jsonIntIn payload.text "yourSlot" 0 ≠ none ∧
      jsonIntIn payload.text "p1Fighter" 0 ≠ none ∧
      jsonIntIn payload.text "p2Fighter" 1 ≠ none ∧
      jsonRoomIdIn payload.text ≠ none
  ended : payload.plen ≠ 0 → payload.memory 0 = msgMatchEnd →
    jsonIntIn payload.text "winnerSlot" (-1) ≠ none ∧
      jsonIntIn payload.text "p1RoundsWon" 0 ≠ none ∧
      jsonIntIn payload.text "p2RoundsWon" 0 ≠ none

end Payload

namespace Net

structure SameOutcome (net net' : Net) : Prop where
  state : net'.ws.state = net.ws.state
  matchInfo : net'.ws.matchInfo = net.ws.matchInfo
  matchRoomId : net'.ws.matchRoomId = net.ws.matchRoomId
  endInfo : net'.ws.endInfo = net.ws.endInfo
  opponentLoadout : net'.ws.opponentLoadout = net.ws.opponentLoadout
  confirmed : net'.confirmed = net.confirmed

end Net

/-- A message is judged by its own bytes only. -/
structure JudgedByOwnBytes (payload : Payload) : Prop where
  outcome : ∀ (os : Os) (net : Net) other, payload.SameMessage other →
    Net.SameOutcome (net.dispatchMessage os payload)
      (net.dispatchMessage os other)
  reads : payload.ReadsOwn

/-- Nothing but blanks, a sign and digits. -/
def Unfinished (found : List UInt8) : Prop :=
  let p := found.dropWhile isBlank
  let p := if p.head? = some 45 then p.drop 1 else p
  p.all isDigit = true

/-- There is a zero byte, or the key with a number that ends. -/
def NumberEnds (text : List UInt8) (key : String) : Prop :=
  0 ∈ text ∨ ∃ found, afterPattern (keyPattern key) text = some found ∧
    ¬ Unfinished found

/-- There is a zero byte, or the room id with its closing quote. -/
def RoomIdEnds (text : List UInt8) : Prop :=
  0 ∈ text ∨ ∃ found, afterPattern roomIdPattern text = some found ∧
    34 ∈ found

structure Payload.EndsWithin (payload : Payload) : Prop where
  start : payload.plen ≠ 0 → payload.memory 0 = msgStart →
    NumberEnds payload.text "yourSlot" ∧ NumberEnds payload.text "p1Fighter" ∧
      NumberEnds payload.text "p2Fighter" ∧ RoomIdEnds payload.text
  ended : payload.plen ≠ 0 → payload.memory 0 = msgMatchEnd →
    NumberEnds payload.text "winnerSlot" ∧
      NumberEnds payload.text "p1RoundsWon" ∧
      NumberEnds payload.text "p2RoundsWon"

section

variable {pattern text found more : List UInt8}

theorem matchIn_true (same : matchIn pattern text = some true) :
    pattern <+: text := by
  fun_induction matchIn pattern text with
  | case1 text => exact List.nil_prefix
  | case2 => cases same
  | case3 pattern byte text ih =>
      exact List.cons_prefix_cons.mpr ⟨rfl, ih same⟩
  | case4 => cases same

theorem matchIn_false (apart : matchIn pattern text = some false)
    (more : List UInt8) : ¬ pattern <+: text ++ more := by
  fun_induction matchIn pattern text with
  | case1 text => cases apart
  | case2 => cases apart
  | case3 pattern byte text ih =>
      intro front
      exact ih apart (List.cons_prefix_cons.mp front).2
  | case4 p pattern byte text other =>
      intro front
      exact other (List.cons_prefix_cons.mp front).1.symm

theorem matchIn_none (past : matchIn pattern text = none) :
    text <+: pattern ∧ text.length < pattern.length := by
  fun_induction matchIn pattern text with
  | case1 text => cases past
  | case2 => exact ⟨List.nil_prefix, Nat.succ_pos _⟩
  | case3 pattern byte text ih =>
      obtain ⟨front, shorter⟩ := ih past
      exact ⟨List.cons_prefix_cons.mpr ⟨rfl, front⟩, Nat.succ_lt_succ shorter⟩
  | case4 => cases past

/-- The bytes in front of the first zero. -/
def cut (bytes : List UInt8) : List UInt8 := bytes.takeWhile (· != 0)

theorem cut_zero (rest : List UInt8) : cut (0 :: rest) = [] :=
  List.takeWhile_cons_of_neg (by decide)

theorem cut_cons {byte : UInt8} (some_byte : byte ≠ 0) (rest : List UInt8) :
    cut (byte :: rest) = byte :: cut rest :=
  List.takeWhile_cons_of_pos (by simpa using some_byte)

theorem cut_append (plain : 0 ∉ pattern) (rest : List UInt8) :
    cut (pattern ++ rest) = pattern ++ cut rest := by
  refine List.takeWhile_append_of_pos fun byte within => ?_
  rw [bne_iff_ne]
  rintro rfl
  exact plain within

theorem afterPattern_nil (some_pattern : pattern ≠ []) :
    afterPattern pattern [] = none := if_neg some_pattern

theorem afterPattern_front (some_pattern : pattern ≠ [])
    (found : List UInt8) :
    afterPattern pattern (pattern ++ found) = some found := by
  obtain ⟨byte, rest, rfl⟩ := List.exists_cons_of_ne_nil some_pattern
  have front : (byte :: rest).isPrefixOf (byte :: (rest ++ found)) = true :=
    List.isPrefixOf_iff_prefix.mpr (List.prefix_append (byte :: rest) found)
  rw [List.cons_append, afterPattern, if_pos front]
  exact congrArg some List.drop_left

theorem afterPattern_skip {byte : UInt8} {rest : List UInt8}
    (apart : ¬ pattern <+: byte :: rest) :
    afterPattern pattern (byte :: rest) = afterPattern pattern rest :=
  if_neg fun front => apart (List.isPrefixOf_iff_prefix.mp front)

theorem length_le_of_afterPattern
    (there : afterPattern pattern text = some found) :
    pattern.length ≤ text.length := by
  fun_induction afterPattern pattern text with
  | case1 none_left =>
      rw [none_left]
  | case2 => cases there
  | case3 byte rest front => exact (List.isPrefixOf_iff_prefix.mp front).length_le
  | case4 byte rest apart ih => exact Nat.le_succ_of_le (ih there)

theorem suffix_of_afterPattern
    (there : afterPattern pattern text = some found) : found <:+ text := by
  fun_induction afterPattern pattern text with
  | case1 none_left =>
      cases there
      exact List.suffix_refl []
  | case2 => cases there
  | case3 byte rest front =>
      cases there
      exact List.drop_suffix _ _
  | case4 byte rest apart ih => exact (ih there).trans (List.suffix_cons _ _)

/-- A search that has ended in the text gives what `strstr` gives, whatever
follows the text. -/
theorem strstrIn_some (plain : 0 ∉ pattern) (some_pattern : pattern ≠ [])
    {result : Option (List UInt8)} (ends : strstrIn pattern text = some result)
    (more : List UInt8) :
    afterPattern pattern (cut (text ++ more)) =
      result.map fun found => cut (found ++ more) := by
  induction text with
  | nil => cases ends
  | cons byte rest ih =>
      rw [strstrIn] at ends
      split at ends
      next => cases ends
      next same =>
        cases ends
        obtain ⟨found, whole⟩ := matchIn_true same
        rw [← whole, List.drop_left, List.append_assoc, cut_append plain]
        exact afterPattern_front some_pattern _
      next apart =>
        split at ends
        next zero =>
          cases ends
          rw [zero, List.cons_append, cut_zero]
          exact afterPattern_nil some_pattern
        next some_byte =>
          rw [List.cons_append, cut_cons some_byte, afterPattern_skip, ih ends]
          intro front
          apply matchIn_false apart more
          refine front.trans (List.cons_prefix_cons.mpr ⟨rfl, ?_⟩)
          exact List.takeWhile_prefix _

theorem strstrIn_of_plain (some_pattern : pattern ≠ []) (unended : 0 ∉ text) :
    strstrIn pattern text = (afterPattern pattern text).map some := by
  induction text with
  | nil => rw [afterPattern_nil some_pattern]; rfl
  | cons byte rest ih =>
      obtain ⟨some_byte, rest_unended⟩ := not_or.mp
        (List.mem_cons.not.mp unended)
      rw [strstrIn]
      split
      next past =>
        cases there : afterPattern pattern (byte :: rest) with
        | none => rfl
        | some found =>
            have fits := length_le_of_afterPattern there
            have short := (matchIn_none past).2
            omega
      next same =>
        obtain ⟨found, whole⟩ := matchIn_true same
        rw [← whole, List.drop_left, afterPattern_front some_pattern]
        rfl
      next apart =>
        have skipped := matchIn_false apart []
        rw [List.append_nil] at skipped
        rw [if_neg (Ne.symm some_byte), ih rest_unended,
          afterPattern_skip skipped]

/-- With a zero byte the search ends in the text. -/
theorem strstrIn_of_zero (plain : 0 ∉ pattern) (ended : 0 ∈ text) :
    ∃ result, strstrIn pattern text = some result ∧
      ∀ found, result = some found → 0 ∈ found := by
  induction text with
  | nil => cases ended
  | cons byte rest ih =>
      rw [strstrIn]
      split
      next past =>
        exact absurd ((matchIn_none past).1.subset ended) plain
      next same =>
        obtain ⟨found, whole⟩ := matchIn_true same
        rw [← whole, List.drop_left]
        rw [← whole, List.mem_append] at ended
        refine ⟨some found, rfl, ?_⟩
        intro _ same_found
        cases same_found
        exact ended.resolve_left plain
      next apart =>
        split
        next => exact ⟨none, rfl, by simp⟩
        next some_byte =>
          exact ih ((List.mem_cons.mp ended).resolve_left (Ne.symm some_byte))

def unsignedAt (sign default : Int) (p : List UInt8) : Int :=
  if (p.head?.map isDigit).getD false then digits 0 p * sign else default

/-- What `json_int` makes of the text behind the key. -/
def numberAt (default : Int) (found : List UInt8) : Int :=
  let p := found.dropWhile isBlank
  if p.head? = some 45 then unsignedAt (-1) default (p.drop 1)
  else unsignedAt 1 default p

theorem jsonInt_eq (json : List UInt8) (key : String) (default : Int) :
    jsonInt json key default =
      ((afterPattern (keyPattern key) json).map (numberAt default)).getD
        default := by
  rw [jsonInt, keyPattern]
  cases afterPattern (asciiBytes ("\"" ++ key ++ "\":")) json with
  | none => rfl
  | some found =>
      have blank : (fun byte : UInt8 => decide (byte = 32) ||
          decide (byte = 9)) = isBlank := rfl
      change _ = numberAt default found
      dsimp only
      rw [blank, numberAt]
      by_cases minus : (found.dropWhile isBlank).head? = some 45
      · rw [if_pos minus, if_pos minus, unsignedAt]
      · rw [if_neg minus, if_neg minus, unsignedAt, mul_one]

theorem head?_cut {byte : UInt8} {rest : List UInt8} :
    (cut (byte :: rest)).head? = if byte = 0 then none else some byte := by
  by_cases zero : byte = 0
  · rw [zero, cut_zero]
    rfl
  · rw [cut_cons zero, if_neg zero]
    rfl

theorem skipBlanksIn_some (ends : skipBlanksIn found = some text) :
    text ≠ [] ∧ found.dropWhile isBlank = text ∧
      ∀ more, (cut (found ++ more)).dropWhile isBlank = cut (text ++ more) := by
  fun_induction skipBlanksIn found with
  | case1 => cases ends
  | case2 byte rest blank ih =>
      obtain ⟨some_text, same, cuts⟩ := ih ends
      have some_byte : byte ≠ 0 := by
        rintro rfl
        exact absurd blank (by decide)
      refine ⟨some_text, ?_, fun more => ?_⟩
      · rw [List.dropWhile_cons_of_pos blank, same]
      · rw [List.cons_append, cut_cons some_byte,
          List.dropWhile_cons_of_pos blank, cuts]
  | case3 byte rest other =>
      cases ends
      refine ⟨List.cons_ne_nil _ _, List.dropWhile_cons_of_neg other,
        fun more => ?_⟩
      by_cases zero : byte = 0
      · rw [zero, List.cons_append, cut_zero]
        rfl
      · rw [List.cons_append, cut_cons zero, List.dropWhile_cons_of_neg other]

theorem skipBlanksIn_eq_none (past : skipBlanksIn found = none) :
    found.dropWhile isBlank = [] := by
  fun_induction skipBlanksIn found with
  | case1 => rfl
  | case2 byte rest blank ih => rw [List.dropWhile_cons_of_pos blank, ih past]
  | case3 => cases past

theorem digitsIn_some {val number : Int}
    (ends : digitsIn val text = some number) (more : List UInt8) :
    digits val (cut (text ++ more)) = number := by
  fun_induction digitsIn val text with
  | case1 => cases ends
  | case2 val byte rest digit ih =>
      have some_byte : byte ≠ 0 := by
        rintro rfl
        exact absurd digit (by decide)
      rw [List.cons_append, cut_cons some_byte, digits, if_pos digit]
      exact ih ends
  | case3 val byte rest other =>
      cases ends
      by_cases zero : byte = 0
      · rw [zero, List.cons_append, cut_zero, digits]
      · rw [List.cons_append, cut_cons zero, digits, if_neg other]

theorem digitsIn_eq_none {val : Int} :
    digitsIn val text = none ↔ text.all isDigit = true := by
  fun_induction digitsIn val text with
  | case1 => simp
  | case2 val byte rest digit ih => rw [ih, List.all_cons, digit, Bool.true_and]
  | case3 val byte rest other => simp [other]

theorem unsignedIn_some {sign default number : Int}
    (ends : unsignedIn sign default text = some number)
    (more : List UInt8) :
    unsignedAt sign default (cut (text ++ more)) = number := by
  cases text with
  | nil => cases ends
  | cons byte rest =>
      rw [unsignedIn] at ends
      rw [unsignedAt, List.cons_append, head?_cut]
      split at ends
      next digit =>
        have some_byte : byte ≠ 0 := by
          rintro rfl
          exact absurd digit (by decide)
        obtain ⟨value, read, rfl⟩ := Option.map_eq_some_iff.mp ends
        rw [if_neg some_byte, ← List.cons_append, digitsIn_some read more]
        exact if_pos digit
      next other =>
        cases ends
        split
        next => rfl
        next => exact if_neg other

theorem unsignedIn_eq_none {sign default : Int} :
    unsignedIn sign default text = none ↔ text.all isDigit = true := by
  cases text with
  | nil => simp [unsignedIn]
  | cons byte rest =>
      rw [unsignedIn]
      split
      next => rw [Option.map_eq_none_iff, digitsIn_eq_none]
      next other => simp [other]

theorem numberIn_some {default number : Int}
    (ends : numberIn default found = some number) (more : List UInt8) :
    numberAt default (cut (found ++ more)) = number := by
  obtain ⟨p, skipped, ends⟩ := Option.bind_eq_some_iff.mp ends
  obtain ⟨some_p, _, cuts⟩ := skipBlanksIn_some skipped
  obtain ⟨byte, rest, rfl⟩ := List.exists_cons_of_ne_nil some_p
  rw [numberAt, cuts, List.cons_append, head?_cut]
  split at ends
  next minus =>
    cases minus
    rw [if_pos (by decide), cut_cons (by decide)]
    exact unsignedIn_some ends more
  next plus =>
    have no_minus : (if byte = 0 then none else some byte) ≠ some 45 := by
      split
      next => simp
      next => exact plus
    rw [if_neg no_minus]
    exact unsignedIn_some ends more

theorem numberIn_eq_none {default : Int} :
    numberIn default found = none ↔ Unfinished found := by
  rw [numberIn, Unfinished]
  cases skipped : skipBlanksIn found with
  | none =>
      rw [skipBlanksIn_eq_none skipped]
      exact iff_of_true rfl rfl
  | some p =>
      rw [(skipBlanksIn_some skipped).2.1, Option.bind_eq_bind,
        Option.bind_some]
      split
      next => exact unsignedIn_eq_none
      next => exact unsignedIn_eq_none

theorem Unfinished.bytes (unfinished : Unfinished found) {byte : UInt8}
    (within : byte ∈ found) :
    isBlank byte = true ∨ byte = 45 ∨ isDigit byte = true := by
  rw [Unfinished] at unfinished
  rw [← List.takeWhile_append_dropWhile (p := isBlank) (l := found),
    List.mem_append] at within
  rcases within with front | behind
  · exact .inl (List.mem_takeWhile_imp front)
  · right
    split at unfinished
    next minus =>
      obtain ⟨rest, whole⟩ := List.head?_eq_some_iff.mp minus
      rw [whole] at behind unfinished
      rcases List.mem_cons.mp behind with same | digit
      · exact .inl same
      · exact .inr (List.all_eq_true.mp unfinished byte digit)
    next => exact .inr (List.all_eq_true.mp unfinished byte behind)

theorem not_unfinished_of_zero (ended : 0 ∈ found) : ¬ Unfinished found := by
  intro unfinished
  exact absurd (unfinished.bytes ended) (by decide)

theorem keyPattern_ne_nil (key : String) : keyPattern key ≠ [] := by
  intro none_there
  have front : (keyPattern key).head? = some 34 := by
    rw [keyPattern, asciiBytes, String.toList_append, String.toList_append]
    rfl
  rw [none_there] at front
  cases front

def readKeys : List String :=
  ["yourSlot", "p1Fighter", "p2Fighter", "winnerSlot", "p1RoundsWon",
    "p2RoundsWon"]

theorem plain_of_read {key : String} (read : key ∈ readKeys) :
    0 ∉ keyPattern key := by
  have plain : ∀ key ∈ readKeys, 0 ∉ keyPattern key := by decide +kernel
  exact plain key read

theorem jsonIntIn_some {key : String} {default number : Int}
    (plain : 0 ∉ keyPattern key)
    (ends : jsonIntIn text key default = some number) (more : List UInt8) :
    jsonInt (cut (text ++ more)) key default = number := by
  obtain ⟨result, searched, ends⟩ := Option.bind_eq_some_iff.mp ends
  rw [jsonInt_eq, strstrIn_some plain (keyPattern_ne_nil key) searched]
  cases result with
  | none => exact Option.some.inj ends
  | some found => exact numberIn_some ends more

theorem jsonIntIn_ne_none {key : String} {default : Int}
    (plain : 0 ∉ keyPattern key) :
    jsonIntIn text key default ≠ none ↔ NumberEnds text key := by
  rw [jsonIntIn, NumberEnds]
  by_cases ended : 0 ∈ text
  · refine iff_of_true ?_ (.inl ended)
    obtain ⟨result, searched, behind⟩ := strstrIn_of_zero plain ended
    rw [searched]
    cases result with
    | none => exact Option.some_ne_none _
    | some found =>
        exact numberIn_eq_none.not.mpr
          (not_unfinished_of_zero (behind found rfl))
  · rw [or_iff_right ended,
      strstrIn_of_plain (keyPattern_ne_nil key) ended]
    cases afterPattern (keyPattern key) text with
    | none => simp
    | some found =>
        refine numberIn_eq_none.not.trans ?_
        simp

theorem quotedIn_some {quoted : Option (List UInt8)}
    (ends : quotedIn found = some quoted) (more : List UInt8) :
    (if 34 ∈ cut (found ++ more) then
      some ((cut (found ++ more)).takeWhile (· ≠ 34)) else none) = quoted := by
  fun_induction quotedIn found generalizing quoted with
  | case1 => cases ends
  | case2 rest =>
      cases ends
      rw [List.cons_append, cut_cons (by decide), if_pos List.mem_cons_self]
      rfl
  | case3 rest =>
      cases ends
      rw [List.cons_append, cut_zero]
      rfl
  | case4 byte rest no_quote some_byte ih =>
      obtain ⟨quoted, read, rfl⟩ := Option.map_eq_some_iff.mp ends
      have behind := ih read
      rw [List.cons_append, cut_cons some_byte,
        List.takeWhile_cons_of_pos (by simpa using no_quote), ← behind]
      by_cases closed : 34 ∈ cut (rest ++ more)
      · rw [if_pos closed, if_pos (List.mem_cons_of_mem _ closed)]
        rfl
      · rw [if_neg closed, if_neg]
        · rfl
        · exact List.not_mem_cons_of_ne_of_not_mem (Ne.symm no_quote) closed

theorem quotedIn_eq_none :
    quotedIn found = none ↔ 0 ∉ found ∧ 34 ∉ found := by
  fun_induction quotedIn found with
  | case1 => simp
  | case2 rest => simp
  | case3 rest => simp
  | case4 byte rest no_quote some_byte ih =>
      simp [ih, Ne.symm some_byte, Ne.symm no_quote]

theorem jsonRoomIdIn_some {roomId : Option (List UInt8)}
    (ends : jsonRoomIdIn text = some roomId) (more : List UInt8) :
    jsonRoomId (cut (text ++ more)) = roomId := by
  obtain ⟨result, searched, ends⟩ := Option.bind_eq_some_iff.mp ends
  have reached := strstrIn_some (by decide +kernel) (by decide +kernel)
    searched more
  rw [jsonRoomId]
  change (match afterPattern roomIdPattern _ with
    | none => none
    | some found => _) = _
  rw [reached]
  cases result with
  | none => exact Option.some.inj ends
  | some found =>
      obtain ⟨quoted, read, rfl⟩ := Option.map_eq_some_iff.mp ends
      rw [← quotedIn_some read more]
      dsimp only [Option.map_some]
      split
      next => rfl
      next => rfl

theorem jsonRoomIdIn_ne_none : jsonRoomIdIn text ≠ none ↔ RoomIdEnds text := by
  have plain : 0 ∉ roomIdPattern := by decide +kernel
  rw [jsonRoomIdIn, RoomIdEnds]
  by_cases ended : 0 ∈ text
  · refine iff_of_true ?_ (.inl ended)
    obtain ⟨result, searched, behind⟩ := strstrIn_of_zero plain ended
    rw [searched]
    cases result with
    | none => exact Option.some_ne_none _
    | some found =>
        refine Option.map_eq_none_iff.not.mpr (quotedIn_eq_none.not.mpr ?_)
        exact fun neither => neither.1 (behind found rfl)
  · rw [or_iff_right ended, strstrIn_of_plain (by decide +kernel) ended]
    cases there : afterPattern roomIdPattern text with
    | none => simp
    | some found =>
        have unended : 0 ∉ found := fun within =>
          ended ((suffix_of_afterPattern there).subset within)
        refine (Option.map_eq_none_iff.trans quotedIn_eq_none).not.trans ?_
        simp [unended]

end

theorem cString_eq (memory : Nat → UInt8) (room : Nat) :
    cString memory room = cut ((List.range room).map memory) := by
  induction room generalizing memory with
  | zero => rfl
  | succ room ih =>
      rw [cString, List.range_succ_eq_map, List.map_cons, List.map_map]
      by_cases zero : memory 0 = 0
      · rw [if_pos zero, zero, cut_zero]
      · rw [if_neg zero, cut_cons zero, ih]
        rfl

namespace Payload

variable {payload other : Payload}

theorem json_eq (fits : payload.plen ≤ payload.room) :
    ∃ more, payload.json = cut (payload.text ++ more) := by
  obtain ⟨behind, split⟩ := Nat.exists_eq_add_of_le
    (show payload.plen - 1 ≤ payload.room - 1 by omega)
  rw [json, cString_eq, split, List.range_add, List.map_append]
  exact ⟨_, rfl⟩

namespace SameMessage

theorem bytes_eq (same : payload.SameMessage other) :
    other.bytes = payload.bytes := by
  rw [Payload.bytes, Payload.bytes, same.plen]
  refine List.map_congr_left fun i within => ?_
  exact same.bytes i (List.mem_range.mp within)

theorem text_eq (same : payload.SameMessage other) :
    other.text = payload.text := by
  rw [text, text, same.plen]
  refine List.map_congr_left fun i within => ?_
  have inside := List.mem_range.mp within
  exact same.bytes (i + 1) (by omega)

theorem lookup {α : Type} (read : List UInt8 → α) {result : α}
    (same : payload.SameMessage other)
    (own : ∀ more, read (cut (payload.text ++ more)) = result) :
    read other.json = read payload.json := by
  by_cases fits : payload.plen ≤ payload.room
  · obtain ⟨more, found⟩ := json_eq fits
    have fits' : other.plen ≤ other.room := by rwa [same.plen, same.room]
    obtain ⟨more', found'⟩ := json_eq fits'
    rw [found, found', same.text_eq, own, own]
  · have alike : other.json = payload.json := by
      rw [json, json, cString_eq, cString_eq, same.room]
      refine congrArg cut (List.map_congr_left fun i within => ?_)
      have inside := List.mem_range.mp within
      exact same.bytes (i + 1) (by omega)
    rw [alike]

theorem jsonInt_eq {key : String} {default : Int}
    (same : payload.SameMessage other) (read : key ∈ readKeys)
    (own : jsonIntIn payload.text key default ≠ none) :
    jsonInt other.json key default = jsonInt payload.json key default := by
  obtain ⟨number, ends⟩ := Option.ne_none_iff_exists'.mp own
  exact same.lookup (jsonInt · key default)
    (jsonIntIn_some (plain_of_read read) ends)

theorem jsonRoomId_eq (same : payload.SameMessage other)
    (own : jsonRoomIdIn payload.text ≠ none) :
    jsonRoomId other.json = jsonRoomId payload.json := by
  obtain ⟨roomId, ends⟩ := Option.ne_none_iff_exists'.mp own
  exact same.lookup jsonRoomId (jsonRoomIdIn_some ends)

end SameMessage

theorem readsOwn_iff : payload.ReadsOwn ↔ payload.EndsWithin := by
  have int (key : String) (default : Int) (read : key ∈ readKeys) :
      jsonIntIn payload.text key default ≠ none ↔
        NumberEnds payload.text key := jsonIntIn_ne_none (plain_of_read read)
  have roomId : jsonRoomIdIn payload.text ≠ none ↔ RoomIdEnds payload.text :=
    jsonRoomIdIn_ne_none
  have start := and_congr (int "yourSlot" 0 (by decide))
    (and_congr (int "p1Fighter" 0 (by decide))
      (and_congr (int "p2Fighter" 1 (by decide)) roomId))
  have ended := and_congr (int "winnerSlot" (-1) (by decide))
    (and_congr (int "p1RoundsWon" 0 (by decide))
      (int "p2RoundsWon" 0 (by decide)))
  constructor
  · intro own
    exact ⟨fun some_there type => start.mp (own.start some_there type),
      fun some_there type => ended.mp (own.ended some_there type)⟩
  · intro within
    exact ⟨fun some_there type => start.mpr (within.start some_there type),
      fun some_there type => ended.mpr (within.ended some_there type)⟩

end Payload

namespace Net

variable {payload other : Payload}

theorem confirmEntries_congr {count p : Nat} (net : Net)
    (same : ∀ i < p + count * 6, other.memory i = payload.memory i) :
    net.confirmEntries other count p = net.confirmEntries payload count p := by
  induction count generalizing net p with
  | zero => rfl
  | succ count ih =>
      have entry : other.entry p = payload.entry p := by
        have at_p (i : Nat) (within : i < 6) :
            other.memory (p + i) = payload.memory (p + i) :=
          same (p + i) (by omega)
        simp only [Payload.entry, at_p 0 (by omega), at_p 1 (by omega),
          at_p 2 (by omega), at_p 3 (by omega), at_p 4 (by omega),
          at_p 5 (by omega)]
      rw [confirmEntries, confirmEntries, entry]
      exact ih _ fun i within => same i (by omega)

theorem dispatchMessage_congr (os : Os) (net : Net)
    (same : payload.SameMessage other) (own : payload.ReadsOwn) :
    net.dispatchMessage os other = net.dispatchMessage os payload := by
  rw [dispatchMessage, dispatchMessage, same.bytes_eq, same.plen]
  generalize net.effect (.dispatched payload.bytes) = net
  refine ite_congr rfl (fun _ => rfl) fun long => ?_
  have some_there : payload.plen ≠ 0 := by omega
  rw [same.bytes 0 (by omega)]
  dsimp only
  refine ite_congr rfl (fun _ => rfl) fun _ => ?_
  refine ite_congr rfl (fun type => ?_) fun _ => ?_
  · obtain ⟨slot, first, second, roomId⟩ := own.start some_there type
    rw [same.jsonInt_eq (by decide) slot, same.jsonInt_eq (by decide) first,
      same.jsonInt_eq (by decide) second, same.jsonRoomId_eq roomId]
  refine ite_congr rfl (fun _ => ?_) fun _ => ?_
  · refine ite_congr rfl (fun _ => rfl) fun _ => ?_
    rw [same.bytes 3 (by omega)]
    refine ite_congr rfl (fun _ => rfl) fun _ => ?_
    exact confirmEntries_congr net fun i within => same.bytes i (by omega)
  refine ite_congr rfl (fun _ => ?_) fun _ => ?_
  · refine ite_congr rfl (fun _ => rfl) fun _ => ?_
    refine congrArg (fun bytes => net.wsSend os (msgPong :: bytes)) ?_
    refine List.map_congr_left fun i within => ?_
    have inside := List.mem_range.mp within
    exact same.bytes (i + 1) (by omega)
  refine ite_congr rfl (fun type => ?_) fun _ => ?_
  · obtain ⟨slot, first, second⟩ := own.ended some_there type
    rw [same.jsonInt_eq (by decide) slot, same.jsonInt_eq (by decide) first,
      same.jsonInt_eq (by decide) second]
  refine ite_congr rfl (fun _ => rfl) fun _ => ?_
  refine ite_congr rfl (fun _ => ?_) fun _ => rfl
  refine ite_congr rfl (fun _ => ?_) fun _ => rfl
  rw [same.bytes 1 (by omega)]

end Net

/-- A message is judged by its own bytes exactly when every lookup ends in
it. -/
theorem judgedByOwnBytes_iff (payload : Payload) :
    JudgedByOwnBytes payload ↔ payload.EndsWithin := by
  constructor
  · intro judged
    exact Payload.readsOwn_iff.mp judged.reads
  · intro within
    have reads := Payload.readsOwn_iff.mpr within
    refine ⟨fun os net other same => ?_, reads⟩
    rw [Net.dispatchMessage_congr os net same reads]
    exact ⟨rfl, rfl, rfl, rfl, rfl, rfl⟩

/-- `{}` behind the type of a `SERVER_START`, in front of the bytes. -/
def emptyStart (behind : List UInt8) : Payload where
  memory i := (0x11 :: asciiBytes "\x7b\x7d" ++ behind).getD i 0
  room := wsRecvBuf - 2
  plen := 3

/-- No call is answered. -/
def silence : Os where
  send _ := .again
  recv _ := .again
  dial _ := .noSocket
  tcp _ := .pending
  stream _ := []
  ticks _ := 0
  allocates _ := false

/-- The slot is taken from what is left of an older message. -/
theorem not_judgedByOwnBytes_emptyStart :
    ¬ JudgedByOwnBytes (emptyStart []) := by
  intro judged
  have stale : (emptyStart []).SameMessage
      (emptyStart (asciiBytes "\"yourSlot\":1,")) :=
    ⟨rfl, rfl, by decide +kernel⟩
  have same := congrArg NetMatchInfo.yourSlot
    (judged.outcome silence .initial _ stale).matchInfo
  exact absurd same (by decide +kernel)

end FuryClash.Client
