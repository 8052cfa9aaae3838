import FuryClash.Data.JsonStrings

namespace FuryClash.Data

namespace JsonParser

structure Behind (rest text : List Char) : Prop where
  suffix : rest <:+ text
  shorter : rest.length < text.length

namespace Behind

variable {first second third : List Char}

theorem trans (front : Behind second first) (behind : Behind third second) :
    Behind third first :=
  ⟨behind.suffix.trans front.suffix, behind.shorter.trans front.shorter⟩

theorem of_suffix (front : second <:+ first) (behind : Behind third second) :
    Behind third first :=
  ⟨behind.suffix.trans front, behind.shorter.trans_le front.length_le⟩

theorem suffix_of (front : Behind second first) (behind : third <:+ second) :
    Behind third first :=
  ⟨behind.trans front.suffix, behind.length_le.trans_lt front.shorter⟩

theorem cons (letter : Char) (rest : List Char) :
    Behind rest (letter :: rest) :=
  ⟨List.suffix_cons letter rest, Nat.lt_succ_self _⟩

end Behind

variable {text rest : List Char}

theorem skipBlanks_suffix (text : List Char) : skipBlanks text <:+ text :=
  List.dropWhile_suffix _

theorem expect_behind {letter : Char} (there : expect letter text = some rest) :
    Behind rest text := by
  rw [expect] at there
  split at there
  next => cases there
  next first behind skipped =>
    split at there
    next =>
      cases there
      exact .of_suffix (skipBlanks_suffix text) (skipped ▸ .cons first _)
    next => cases there

theorem stringBody_behind {units : List UInt16}
    (read : stringBody text = some (units, rest)) : Behind rest text := by
  obtain ⟨body, rfl, _⟩ := stringBody_spells read
  exact .of_suffix (List.suffix_append body _) (.cons _ rest)

theorem someDigits_behind {digits : List Char}
    (read : someDigits text = some (digits, rest)) : Behind rest text := by
  rw [someDigits] at read
  split at read
  next => cases read
  next digit others taken =>
    cases read
    refine ⟨List.dropWhile_suffix _, ?_⟩
    have lengths := congrArg List.length
      (List.takeWhile_append_dropWhile (p := Char.isDigit) (l := text))
    rw [List.length_append, taken, List.length_cons] at lengths
    omega

theorem jsonWhole_behind {digits : List Char}
    (read : jsonWhole text = some (digits, rest)) : Behind rest text := by
  rw [jsonWhole.eq_def] at read
  split at read
  next =>
    cases read
    exact .cons _ _
  next => exact someDigits_behind read

theorem jsonFraction_suffix {digits : List Char}
    (read : jsonFraction text = some (digits, rest)) : rest <:+ text := by
  rw [jsonFraction.eq_def] at read
  split at read
  next => exact ((Behind.cons _ _).trans (someDigits_behind read)).suffix
  next =>
    cases read
    exact List.suffix_refl _

theorem jsonSign_suffix (text : List Char) : (jsonSign text).2 <:+ text := by
  rw [jsonSign.eq_def]
  split
  next => exact List.suffix_cons _ _
  next => exact List.suffix_cons _ _
  next => exact List.suffix_refl _

theorem jsonExponent_suffix {exponent : Int}
    (read : jsonExponent text = some (exponent, rest)) : rest <:+ text := by
  cases text with
  | nil =>
      cases read
      exact List.suffix_refl _
  | cons letter behind =>
      rw [jsonExponent] at read
      split at read
      next =>
        obtain ⟨⟨digits, left⟩, taken, read⟩ :=
          Option.bind_eq_some_iff.mp read
        cases read
        have last := (someDigits_behind taken).suffix
        exact (last.trans (jsonSign_suffix behind)).trans
          (List.suffix_cons _ _)
      next =>
        cases read
        exact List.suffix_refl _

theorem jsonNumber_behind {value : JsNumber}
    (read : jsonNumber text = some (value, rest)) : Behind rest text := by
  obtain ⟨⟨whole, afterWhole⟩, first, read⟩ := Option.bind_eq_some_iff.mp read
  obtain ⟨⟨fraction, afterFraction⟩, second, read⟩ :=
    Option.bind_eq_some_iff.mp read
  obtain ⟨⟨exponent, afterExponent⟩, third, read⟩ :=
    Option.bind_eq_some_iff.mp read
  cases read
  have unsigned : (if text.head? = some '-' then text.tail else text) <:+
      text := by
    split
    next => exact List.tail_suffix text
    next => exact List.suffix_refl text
  have begun := Behind.of_suffix unsigned (jsonWhole_behind first)
  exact (begun.suffix_of (jsonFraction_suffix second)).suffix_of
    (jsonExponent_suffix third)

def IsLiteral (json : Json) : Prop :=
  json = .null ∨ (∃ value, json = .bool value) ∨ ∃ value, json = .number value

theorem word_some {name : String} {json found : Json} (some_name : name ≠ "")
    (read : word name json text = some (found, rest)) :
    found = json ∧ Behind rest text := by
  rw [word] at read
  split at read
  next front =>
    cases read
    have fits := (List.isPrefixOf_iff_prefix.mp front).length_le
    have some_letters : 0 < name.toList.length :=
      List.length_pos_of_ne_nil (String.toList_eq_nil_iff.not.mpr some_name)
    refine ⟨rfl, List.drop_suffix _ _, ?_⟩
    rw [List.length_drop]
    omega
  next => cases read

theorem literal_some {json : Json} (read : literal text = some (json, rest)) :
    IsLiteral json ∧ Behind rest text := by
  rcases Option.or_eq_some_iff.mp read with found | ⟨_, read⟩
  · obtain ⟨rfl, behind⟩ := word_some (by decide) found
    exact ⟨.inl rfl, behind⟩
  rcases Option.or_eq_some_iff.mp read with found | ⟨_, read⟩
  · obtain ⟨rfl, behind⟩ := word_some (by decide) found
    exact ⟨.inr (.inl ⟨true, rfl⟩), behind⟩
  rcases Option.or_eq_some_iff.mp read with found | ⟨_, read⟩
  · obtain ⟨rfl, behind⟩ := word_some (by decide) found
    exact ⟨.inr (.inl ⟨false, rfl⟩), behind⟩
  · obtain ⟨⟨value, left⟩, found, same⟩ := Option.map_eq_some_iff.mp read
    cases same
    exact ⟨.inr (.inr ⟨value, rfl⟩), jsonNumber_behind found⟩

inductive ReadsValue (turns : Nat) (behind : List Char) :
    Char → Json → List Char → Prop
  | string {units : List UInt16} {rest : List Char}
      (body : stringBody behind = some (units, rest)) :
      ReadsValue turns behind '\x22' (.string (ofUnits units)) rest
  | noMembers {rest : List Char} (closed : expect '\x7d' behind = some rest) :
      ReadsValue turns behind '\x7b' (.object []) rest
  | object {parsed : List (String × Json)} {rest : List Char}
      (opened : members turns behind = some (parsed, rest)) :
      ReadsValue turns behind '\x7b' (.object parsed) rest
  | noItems {rest : List Char} (closed : expect ']' behind = some rest) :
      ReadsValue turns behind '[' (.array []) rest
  | array {parsed : List Json} {rest : List Char}
      (opened : items turns behind = some (parsed, rest)) :
      ReadsValue turns behind '[' (.array parsed) rest
  | literal {first : Char} {json : Json} {rest : List Char}
      (read : literal (first :: behind) = some (json, rest)) :
      ReadsValue turns behind first json rest

theorem value_some {turns : Nat} {json : Json}
    (read : value (turns + 1) text = some (json, rest)) :
    ∃ first behind, skipBlanks text = first :: behind ∧
      ReadsValue turns behind first json rest := by
  rw [value] at read
  split at read
  next => cases read
  next first behind skipped =>
    refine ⟨first, behind, skipped, ?_⟩
    split at read
    next quote =>
      obtain ⟨⟨units, left⟩, body, same⟩ := Option.map_eq_some_iff.mp read
      cases same
      exact quote ▸ .string body
    split at read
    next brace =>
      split at read
      next closed =>
        cases read
        exact brace ▸ .noMembers closed
      next =>
        obtain ⟨⟨parsed, left⟩, opened, same⟩ :=
          Option.map_eq_some_iff.mp read
        cases same
        exact brace ▸ .object opened
    split at read
    next bracket =>
      split at read
      next closed =>
        cases read
        exact bracket ▸ .noItems closed
      next =>
        obtain ⟨⟨parsed, left⟩, opened, same⟩ :=
          Option.map_eq_some_iff.mp read
        cases same
        exact bracket ▸ .array opened
    next => exact .literal read

structure ReadsMember (turns : Nat) (text : List Char) (name : List UInt16)
    (json : Json) (afterValue : List Char) : Prop where
  way : ∃ opened afterName afterColon,
    expect '\x22' text = some opened ∧
      stringBody opened = some (name, afterName) ∧
      expect ':' afterName = some afterColon ∧
      value turns afterColon = some (json, afterValue)

theorem members_some {turns : Nat} {parsed : List (String × Json)}
    (read : members (turns + 1) text = some (parsed, rest)) :
    ∃ name json afterValue, ReadsMember turns text name json afterValue ∧
      ((∃ next others, expect ',' afterValue = some next ∧
          members turns next = some (others, rest) ∧
          parsed = (ofUnits name, json) :: others) ∨
        (expect '\x7d' afterValue = some rest ∧
          parsed = [(ofUnits name, json)])) := by
  rw [members] at read
  obtain ⟨opened, quote, read⟩ := Option.bind_eq_some_iff.mp read
  obtain ⟨⟨name, afterName⟩, body, read⟩ := Option.bind_eq_some_iff.mp read
  obtain ⟨afterColon, colon, read⟩ := Option.bind_eq_some_iff.mp read
  obtain ⟨⟨json, afterValue⟩, inner, read⟩ := Option.bind_eq_some_iff.mp read
  refine ⟨name, json, afterValue,
    ⟨opened, afterName, afterColon, quote, body, colon, inner⟩, ?_⟩
  dsimp only at read
  split at read
  next next comma =>
    obtain ⟨⟨others, left⟩, more, same⟩ := Option.bind_eq_some_iff.mp read
    cases same
    exact .inl ⟨next, others, comma, more, rfl⟩
  next =>
    obtain ⟨left, closed, same⟩ := Option.bind_eq_some_iff.mp read
    cases same
    exact .inr ⟨closed, rfl⟩

theorem items_some {turns : Nat} {parsed : List Json}
    (read : items (turns + 1) text = some (parsed, rest)) :
    ∃ json afterValue, value turns text = some (json, afterValue) ∧
      ((∃ next others, expect ',' afterValue = some next ∧
          items turns next = some (others, rest)) ∨
        expect ']' afterValue = some rest) := by
  rw [items] at read
  obtain ⟨⟨json, afterValue⟩, inner, read⟩ := Option.bind_eq_some_iff.mp read
  refine ⟨json, afterValue, inner, ?_⟩
  dsimp only at read
  split at read
  next next comma =>
    obtain ⟨⟨others, left⟩, more, same⟩ := Option.bind_eq_some_iff.mp read
    cases same
    exact .inl ⟨next, others, comma, more⟩
  next =>
    obtain ⟨left, closed, same⟩ := Option.bind_eq_some_iff.mp read
    cases same
    exact .inr closed

/-- What is left behind a value, members or items. -/
theorem turns_behind (turns : Nat) :
    (∀ text json rest, value turns text = some (json, rest) →
      Behind rest text) ∧
    (∀ text parsed rest, members turns text = some (parsed, rest) →
      Behind rest text) ∧
    (∀ text parsed rest, items turns text = some (parsed, rest) →
      Behind rest text) := by
  induction turns with
  | zero => exact ⟨nofun, nofun, nofun⟩
  | succ turns ih =>
      obtain ⟨values, objects, arrays⟩ := ih
      refine ⟨?_, ?_, ?_⟩
      · intro text json rest read
        obtain ⟨first, behind, skipped, reads⟩ := value_some read
        have opened : Behind behind text :=
          .of_suffix (skipBlanks_suffix text) (skipped ▸ .cons first behind)
        cases reads with
        | string body => exact opened.trans (stringBody_behind body)
        | noMembers closed => exact opened.trans (expect_behind closed)
        | object inner => exact opened.trans (objects _ _ _ inner)
        | noItems closed => exact opened.trans (expect_behind closed)
        | array inner => exact opened.trans (arrays _ _ _ inner)
        | literal read =>
            exact .of_suffix (skipped ▸ skipBlanks_suffix text)
              (literal_some read).2
      · intro text parsed rest read
        obtain ⟨name, json, afterValue, ⟨opened, afterName, afterColon, quote,
          body, colon, inner⟩, ends⟩ := members_some read
        have member : Behind afterValue text :=
          (((expect_behind quote).trans (stringBody_behind body)).trans
            (expect_behind colon)).trans (values _ _ _ inner)
        rcases ends with ⟨next, others, comma, more, _⟩ | ⟨closed, _⟩
        · exact (member.trans (expect_behind comma)).trans
            (objects _ _ _ more)
        · exact member.trans (expect_behind closed)
      · intro text parsed rest read
        obtain ⟨json, afterValue, inner, ends⟩ := items_some read
        have item := values _ _ _ inner
        rcases ends with ⟨next, others, comma, more⟩ | closed
        · exact (item.trans (expect_behind comma)).trans (arrays _ _ _ more)
        · exact item.trans (expect_behind closed)

/-- The parser ends by itself: more turns than these make no difference. -/
theorem turns_congr (turns turns' : Nat) (text : List Char) :
    (2 * text.length < turns → 2 * text.length < turns' →
      value turns text = value turns' text) ∧
    (2 * text.length + 1 < turns → 2 * text.length + 1 < turns' →
      members turns text = members turns' text ∧
        items turns text = items turns' text) := by
  induction turns generalizing turns' text with
  | zero => exact ⟨nofun, nofun⟩
  | succ turns ih =>
      cases turns' with
      | zero => exact ⟨nofun, nofun⟩
      | succ turns' =>
          refine ⟨fun enough enough' => ?_, fun enough enough' => ⟨?_, ?_⟩⟩
          · rw [value, value]
            split
            next => rfl
            next first behind skipped =>
              have opened : Behind behind text :=
                .of_suffix (skipBlanks_suffix text)
                  (skipped ▸ .cons first behind)
              have shorter := opened.shorter
              obtain ⟨objects, arrays⟩ :=
                (ih turns' behind).2 (by omega) (by omega)
              rw [objects, arrays]
          · rw [members, members]
            refine Option.bind_congr fun opened quote => ?_
            refine Option.bind_congr fun name body => ?_
            refine Option.bind_congr fun afterColon colon => ?_
            have key : Behind afterColon text :=
              ((expect_behind quote).trans (stringBody_behind body)).trans
                (expect_behind colon)
            have shorter := key.shorter
            rw [(ih turns' afterColon).1 (by omega) (by omega)]
            refine Option.bind_congr fun found read => ?_
            have member := key.trans ((turns_behind turns').1 _ _ _ read)
            dsimp only
            split
            next next comma =>
              have less := (member.trans (expect_behind comma)).shorter
              rw [((ih turns' next).2 (by omega) (by omega)).1]
            next => rfl
          · rw [items, items, (ih turns' text).1 (by omega) (by omega)]
            refine Option.bind_congr fun found read => ?_
            have item := (turns_behind turns').1 _ _ _ read
            dsimp only
            split
            next next comma =>
              have less := (item.trans (expect_behind comma)).shorter
              rw [((ih turns' next).2 (by omega) (by omega)).2]
            next => rfl

theorem skipBlanks_cons {letter : Char} (visible : isBlank letter = false)
    (rest : List Char) : skipBlanks (letter :: rest) = letter :: rest :=
  List.dropWhile_cons_of_neg (by rw [visible]; exact Bool.false_ne_true)

theorem expect_cons {letter : Char} (visible : isBlank letter = false)
    (rest : List Char) : expect letter (letter :: rest) = some rest := by
  rw [expect, skipBlanks_cons visible]
  exact if_pos rfl

theorem value_plain {letters : List Char}
    (plain : ∀ letter ∈ letters, Plain letter) (turns : Nat)
    (rest : List Char) :
    value (turns + 1) ('\x22' :: (letters ++ '\x22' :: rest)) =
      some (.string (String.ofList letters), rest) := by
  rw [value, skipBlanks_cons (by decide)]
  dsimp only
  rw [if_pos rfl, stringBody_plain plain, Option.map_some, ofUnits_flatMap]

theorem value_literal {first : Char} (visible : isBlank first = false)
    (other : first ≠ '\x22' ∧ first ≠ '\x7b' ∧ first ≠ '[') (turns : Nat)
    (rest : List Char) :
    value (turns + 1) (first :: rest) = literal (first :: rest) := by
  rw [value, skipBlanks_cons visible]
  dsimp only
  rw [if_neg other.1, if_neg other.2.1, if_neg other.2.2]

theorem literal_number {value : JsNumber}
    (no_word : ∀ name ∈ ["null", "true", "false"],
      ¬ name.toList.isPrefixOf text = true)
    (read : jsonNumber text = some (value, rest)) :
    literal text = some (.number value, rest) := by
  have none_there {name : String} (json : Json)
      (known : name ∈ ["null", "true", "false"]) :
      word name json text = none := if_neg (no_word name known)
  rw [literal, none_there _ (by simp), none_there _ (by simp),
    none_there _ (by simp), read]
  rfl

theorem members_last {name : List Char}
    (plain_name : ∀ letter ∈ name, Plain letter) {turns : Nat} {json : Json}
    {text rest : List Char}
    (last : value turns text = some (json, '\x7d' :: rest)) :
    members (turns + 1) ('\x22' :: (name ++ '\x22' :: ':' :: text)) =
      some ([(String.ofList name, json)], rest) := by
  have no_comma : expect ',' ('\x7d' :: rest) = none := by
    rw [expect, skipBlanks_cons (by decide)]
    exact if_neg (by decide)
  rw [members, expect_cons (by decide), Option.bind_eq_bind, Option.bind_some,
    stringBody_plain plain_name, Option.bind_eq_bind, Option.bind_some]
  dsimp only
  rw [expect_cons (by decide), Option.bind_eq_bind, Option.bind_some, last,
    Option.bind_eq_bind, Option.bind_some]
  dsimp only
  rw [no_comma, expect_cons (by decide), ofUnits_flatMap]
  rfl

theorem members_cons {name : List Char}
    (plain_name : ∀ letter ∈ name, Plain letter) {turns : Nat} {json : Json}
    {text rest : List Char}
    (first : value turns text = some (json, ',' :: rest)) :
    members (turns + 1) ('\x22' :: (name ++ '\x22' :: ':' :: text)) =
      (members turns rest).map fun found =>
        ((String.ofList name, json) :: found.1, found.2) := by
  rw [members, expect_cons (by decide), Option.bind_eq_bind, Option.bind_some,
    stringBody_plain plain_name, Option.bind_eq_bind, Option.bind_some]
  dsimp only
  rw [expect_cons (by decide), Option.bind_eq_bind, Option.bind_some, first,
    Option.bind_eq_bind, Option.bind_some]
  dsimp only
  rw [expect_cons (by decide)]
  dsimp only
  rw [ofUnits_flatMap]
  cases members turns rest with
  | none => rfl
  | some found => rfl

theorem members_plain {name letters : List Char}
    (plain_name : ∀ letter ∈ name, Plain letter)
    (plain : ∀ letter ∈ letters, Plain letter) (turns : Nat)
    (rest : List Char) :
    members (turns + 2) ('\x22' :: (name ++ '\x22' :: ':' ::
        '\x22' :: (letters ++ '\x22' :: ',' :: rest))) =
      (members (turns + 1) rest).map fun found =>
        ((String.ofList name, .string (String.ofList letters)) :: found.1,
          found.2) :=
  members_cons plain_name (value_plain plain turns (',' :: rest))

theorem value_object {turns : Nat} {parsed : List (String × Json)}
    (read : members turns ('\x22' :: text) = some (parsed, rest)) :
    value (turns + 1) ('\x7b' :: '\x22' :: text) =
      some (.object parsed, rest) := by
  have some_members : expect '\x7d' ('\x22' :: text) = none := by
    rw [expect, skipBlanks_cons (by decide)]
    exact if_neg (by decide)
  rw [value, skipBlanks_cons (by decide)]
  dsimp only
  rw [if_neg (by decide), if_pos rfl, some_members, read]
  rfl

def Quoted (text body : List Char) : Prop :=
  ∃ front behind next, text = front ++ '\x22' :: (body ++ '\x22' :: behind) ∧
    (expect ',' behind = some next ∨ expect '\x7d' behind = some next)

theorem Quoted.of_suffix {body : List Char} (quoted : Quoted rest body)
    (suffix : rest <:+ text) : Quoted text body := by
  obtain ⟨front, behind, next, rfl, ends⟩ := quoted
  obtain ⟨start, rfl⟩ := suffix
  exact ⟨start ++ front, behind, next, (List.append_assoc _ _ _).symm, ends⟩

theorem value_string {turns : Nat} {word : String}
    (read : value turns text = some (.string word, rest)) :
    ∃ body units, Spells body units ∧ ofUnits units = word ∧
      '\x22' :: (body ++ '\x22' :: rest) <:+ text := by
  cases turns with
  | zero => cases read
  | succ turns =>
      obtain ⟨first, behind, skipped, reads⟩ := value_some read
      have opened := skipped ▸ skipBlanks_suffix text
      cases reads with
      | string inner =>
          obtain ⟨body, rfl, spelt⟩ := stringBody_spells inner
          exact ⟨body, _, spelt, rfl, opened⟩
      | literal inner =>
          rcases (literal_some inner).1 with none | ⟨_, none⟩ | ⟨_, none⟩ <;>
            cases none

theorem members_quoted {turns : Nat} {parsed : List (String × Json)}
    (read : members turns text = some (parsed, rest)) {name word : String}
    (member : (name, .string word) ∈ parsed) :
    ∃ body units, Spells body units ∧ ofUnits units = word ∧
      Quoted text body := by
  induction turns generalizing text parsed with
  | zero => cases read
  | succ turns ih =>
      obtain ⟨key, json, afterValue, ⟨opened, afterName, afterColon, quote,
        inside, colon, inner⟩, ends⟩ := members_some read
      have start : afterColon <:+ text :=
        (((expect_behind quote).trans (stringBody_behind inside)).trans
          (expect_behind colon)).suffix
      have here (same : (name, .string word) = (ofUnits key, json))
          {next : List Char} (closes : expect ',' afterValue = some next ∨
            expect '\x7d' afterValue = some next) :
          ∃ body units, Spells body units ∧ ofUnits units = word ∧
            Quoted text body := by
        cases same
        obtain ⟨body, units, spelt, same, front, whole⟩ := value_string inner
        exact ⟨body, units, spelt, same, .of_suffix
          ⟨front, afterValue, next, whole.symm, closes⟩ start⟩
      rcases ends with ⟨next, others, comma, more, rfl⟩ | ⟨closed, rfl⟩
      · rcases List.mem_cons.mp member with same | behind
        · exact here same (.inl comma)
        · obtain ⟨body, units, spelt, same, quoted⟩ := ih more behind
          have left := ((turns_behind turns).1 _ _ _ inner).trans
            (expect_behind comma)
          exact ⟨body, units, spelt, same,
            quoted.of_suffix (left.suffix.trans start)⟩
      · exact here (List.mem_singleton.mp member) (.inr closed)

end JsonParser

/-- The turns of `JSON.parse` are enough for its text. -/
theorem jsonParse_turns (text : List Char) {turns : Nat}
    (enough : 2 * text.length < turns) :
    JsonParser.value turns text =
      JsonParser.value (2 * text.length + 1) text :=
  (JsonParser.turns_congr turns _ text).1 enough (Nat.lt_succ_self _)

theorem jsonParse_of_value {text : List Char} {turns : Nat} {json : Json}
    (enough : 2 * text.length < turns)
    (read : JsonParser.value turns text = some (json, [])) :
    jsonParse text = some json := by
  rw [jsonParse_turns text enough] at read
  rw [jsonParse, read]
  rfl

/-- A string among the members is spelt in the text. -/
theorem jsonParse_quoted {text : List Char} {json : Json}
    (parsed : jsonParse text = some json) {name word : String}
    (member : (name, .string word) ∈ json.spread) :
    ∃ body units, Spells body units ∧ ofUnits units = word ∧
      JsonParser.Quoted text body := by
  rw [jsonParse] at parsed
  split at parsed
  next => cases parsed
  next read =>
    split at parsed
    next =>
      cases parsed
      obtain ⟨first, behind, skipped, reads⟩ := JsonParser.value_some read
      have opened : behind <:+ text := (List.suffix_cons first behind).trans
        (skipped ▸ JsonParser.skipBlanks_suffix text)
      cases reads with
      | noMembers => cases member
      | object inner =>
          obtain ⟨body, units, spelt, same, quoted⟩ :=
            JsonParser.members_quoted inner member
          exact ⟨body, units, spelt, same, quoted.of_suffix opened⟩
      | literal inner =>
          rcases (JsonParser.literal_some inner).1 with
            rfl | ⟨_, rfl⟩ | ⟨_, rfl⟩ <;> cases member
      | string => cases member
      | noItems => cases member
      | array => cases member
    next => cases parsed

end FuryClash.Data
