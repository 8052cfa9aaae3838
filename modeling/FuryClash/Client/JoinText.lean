import FuryClash.Client.WsClient
import FuryClash.Data.JsonReads
import FuryClash.Server.WireFormat
import FuryClash.Slot

namespace FuryClash.Client

open FuryClash.Data

/-! The text of `CLIENT_JOIN`: `send_client_join` prints the ids as they are,
and the server parses what comes out as JSON. -/

structure ClientId where
  text : String
  short : (utf8 text.toList).length ≤ 63
  visible : ∀ letter ∈ text.toList, 32 ≤ letter.toNat

namespace ClientId

def letters (id : ClientId) : List Char := id.text.toList

def bytes (id : ClientId) : List UInt8 := utf8 id.letters

/-- No letter of the id means anything to JSON. -/
def Unquoted (id : ClientId) : Prop :=
  '\x22' ∉ id.letters ∧ '\\' ∉ id.letters

end ClientId

def Ws.joining (roomId playerId : ClientId) (slot : Slot) (ws : Ws) : Ws :=
  { ws with
    roomId := roomId.bytes
    playerId := playerId.bytes
    slot := slot.number }

/-- The server decodes the join that the client is configured for. -/
def JoinArrives (runtime : JsRuntime) (ws : Ws) (roomId playerId : ClientId)
    (slot : Slot) : Prop :=
  ∃ msg, Server.decodeClientMsg runtime.withParser
      (Net.joinPayload (ws.joining roomId playerId slot)) = .ok (some msg) ∧
    Json.get "type" msg = some (.nat Server.MsgType.clientJoin.code) ∧
    Json.get "roomId" msg = some (.string roomId.text) ∧
    Json.get "playerId" msg = some (.string playerId.text) ∧
    Json.get "slot" msg = some (.number (.finite slot.number))

def joinOpening : String := "\x7b\"roomId\":\""

def joinBetween : String := "\",\"playerId\":\""

def joinClosing (slot : Slot) : String :=
  "\",\"token\":\"dev\",\"slot\":" ++ toString slot.number ++ "\x7d"

def joinText (roomId playerId : List Char) (slot : Slot) : List Char :=
  joinOpening.toList ++ roomId ++ joinBetween.toList ++ playerId ++
    (joinClosing slot).toList

def joinTail (slot : Slot) : List Char :=
  "token\":\"dev\",\"slot\":".toList ++
    ((toString slot.number).toList ++ ['\x7d'])

theorem joinText_eq (roomId playerId : List Char) (slot : Slot) :
    joinText roomId playerId slot =
      "\x7b\"roomId\":".toList ++ '\x22' :: (roomId ++ '\x22' :: ',' ::
        '\x22' :: ("playerId\":".toList ++ '\x22' :: (playerId ++
          '\x22' :: ',' :: '\x22' :: joinTail slot))) := by
  have opening : joinOpening.toList =
      "\x7b\"roomId\":".toList ++ ['\x22'] := by decide
  have between : joinBetween.toList =
      '\x22' :: ',' :: '\x22' :: ("playerId\":".toList ++ ['\x22']) := by
    decide
  have closing : (joinClosing slot).toList =
      '\x22' :: ',' :: '\x22' :: joinTail slot := by
    cases slot with
    | p1 => decide
    | p2 => decide
  rw [joinText, opening, between, closing]
  simp only [List.append_assoc, List.cons_append, List.nil_append]

theorem joinPayload_joining (ws : Ws) (roomId playerId : ClientId)
    (slot : Slot) :
    Net.joinPayload (ws.joining roomId playerId slot) =
      msgJoin :: utf8 (joinText roomId.letters playerId.letters slot) := by
  have ascii {text : String}
      (small : (text.toList.all fun letter => letter.toNat < 128) = true) :
      utf8 text.toList = asciiBytes text :=
    utf8_ascii (forall_of_all small)
  have opening : utf8 joinOpening.toList = asciiBytes joinOpening :=
    ascii (by decide)
  have between : utf8 joinBetween.toList = asciiBytes joinBetween :=
    ascii (by decide)
  have closing : utf8 (joinClosing slot).toList =
      asciiBytes (joinClosing slot) := by
    cases slot with
    | p1 => exact ascii (by decide)
    | p2 => exact ascii (by decide)
  rw [joinText, utf8_append, utf8_append, utf8_append, utf8_append, opening,
    between, closing]
  rfl

theorem decodeClientMsg_joinPayload (runtime : JsRuntime) (ws : Ws)
    (roomId playerId : ClientId) (slot : Slot) :
    Server.decodeClientMsg runtime.withParser
        (Net.joinPayload (ws.joining roomId playerId slot)) =
      .ok ((jsonParse (joinText roomId.letters playerId.letters slot)).map
        Server.joinMsg) := by
  have decoded := Server.decodeClientMsg_join runtime.withParser
    (utf8 (joinText roomId.letters playerId.letters slot))
  rw [joinPayload_joining]
  refine decoded.trans ?_
  exact congrArg (fun text => Except.ok ((jsonParse text).map Server.joinMsg))
    (decodeUtf8_utf8 _)

theorem ClientId.Unquoted.plain {id : ClientId} (unquoted : id.Unquoted) :
    ∀ letter ∈ id.letters, Plain letter := by
  intro letter within
  refine ⟨id.visible letter within, ?_, ?_⟩
  · rintro rfl
    exact unquoted.1 within
  · rintro rfl
    exact unquoted.2 within

theorem members_joinTail (slot : Slot) (turns : Nat) :
    JsonParser.members (turns + 3) ('\x22' :: joinTail slot) =
      some ([("token", .string "dev"),
        ("slot", .number (.finite slot.number))], []) := by
  have value : JsonParser.value (turns + 1)
      ((toString slot.number).toList ++ ['\x7d']) =
        some (.number (.finite slot.number), ['\x7d']) := by
    cases slot with
    | p1 =>
        exact (JsonParser.value_literal (by decide) (by decide) turns _).trans
          (JsonParser.literal_number (by decide) (by decide +kernel))
    | p2 =>
        exact (JsonParser.value_literal (by decide) (by decide) turns _).trans
          (JsonParser.literal_number (by decide) (by decide +kernel))
  have slot_word : ∀ letter ∈ "slot".toList, Plain letter :=
    forall_of_all (by decide)
  have token_word : ∀ letter ∈ "token".toList, Plain letter :=
    forall_of_all (by decide)
  have dev_word : ∀ letter ∈ "dev".toList, Plain letter :=
    forall_of_all (by decide)
  have last := JsonParser.members_last slot_word value
  have token := JsonParser.members_plain token_word dev_word (turns + 1)
    ('\x22' :: ("slot".toList ++ '\x22' :: ':' ::
      ((toString slot.number).toList ++ ['\x7d'])))
  rw [last] at token
  exact token

theorem jsonParse_joinText {roomId playerId : List Char}
    (plain_room : ∀ letter ∈ roomId, Plain letter)
    (plain_player : ∀ letter ∈ playerId, Plain letter) (slot : Slot) :
    jsonParse (joinText roomId playerId slot) =
      some (.object [("roomId", .string (String.ofList roomId)),
        ("playerId", .string (String.ofList playerId)),
        ("token", .string "dev"),
        ("slot", .number (.finite slot.number))]) := by
  have room_word : ∀ letter ∈ "roomId".toList, Plain letter :=
    forall_of_all (by decide)
  have player_word : ∀ letter ∈ "playerId".toList, Plain letter :=
    forall_of_all (by decide)
  obtain ⟨length, long⟩ :
      ∃ length, length = (joinText roomId playerId slot).length := ⟨_, rfl⟩
  have enough : 2 * (joinText roomId playerId slot).length <
      2 * length + 6 := by omega
  have player := JsonParser.members_plain player_word plain_player
    (2 * length + 2) ('\x22' :: joinTail slot)
  rw [members_joinTail slot (2 * length)] at player
  have room := JsonParser.members_plain room_word plain_room
    (2 * length + 3) ('\x22' :: ("playerId".toList ++ '\x22' :: ':' ::
      '\x22' :: (playerId ++ '\x22' :: ',' :: '\x22' :: joinTail slot)))
  rw [player] at room
  have read := JsonParser.value_object room
  refine jsonParse_of_value enough ?_
  rw [joinText_eq]
  exact read

theorem joinArrives_of_unquoted (runtime : JsRuntime) (ws : Ws)
    {roomId playerId : ClientId} (room : roomId.Unquoted)
    (player : playerId.Unquoted) (slot : Slot) :
    JoinArrives runtime ws roomId playerId slot := by
  have parsed := jsonParse_joinText room.plain player.plain slot
  have words (id : ClientId) : String.ofList id.letters = id.text :=
    String.ofList_toList
  rw [words, words] at parsed
  refine ⟨_, (decodeClientMsg_joinPayload runtime ws roomId playerId
    slot).trans (congrArg (fun json => Except.ok (json.map Server.joinMsg))
      parsed), ?_, ?_, ?_, ?_⟩
  · rfl
  · rfl
  · rfl
  · rfl

section

variable {front body behind : List Char}

theorem cases_at_quote {first second : List Char}
    (escaped : QuotesEscaped body)
    (definite : ∀ start, first ≠ start ++ ['\\'])
    (whole : first ++ '\x22' :: second =
      front ++ '\x22' :: (body ++ '\x22' :: behind)) :
    (∃ rest, first = front ++ '\x22' :: (body ++ '\x22' :: rest)) ∨
      (first = front ++ '\x22' :: body ∧ behind = second) ∨
      ∃ start, '\x22' :: second =
        start ++ '\x22' :: (body ++ '\x22' :: behind) := by
  rcases List.append_eq_append_iff.mp whole with
    ⟨start, _, later⟩ | ⟨inner, same, earlier⟩
  · exact .inr (.inr ⟨start, later⟩)
  cases inner with
  | nil => exact .inr (.inr ⟨[], earlier.symm⟩)
  | cons quote inner =>
      obtain ⟨rfl, inside⟩ := List.cons.inj earlier
      rcases List.append_eq_append_iff.mp inside with
        ⟨rest, rfl, closing⟩ | ⟨others, longer, closing⟩
      · cases rest with
        | nil =>
            rw [List.append_nil] at same
            exact .inr (.inl ⟨same, (List.cons.inj closing).2⟩)
        | cons quote rest =>
            obtain ⟨rfl, _⟩ := List.cons.inj closing
            exact .inl ⟨rest, same⟩
      · cases others with
        | nil =>
            rw [List.append_nil] at longer
            rw [← longer] at same
            exact .inr (.inl ⟨same, (List.cons.inj closing).2.symm⟩)
        | cons quote others =>
            obtain ⟨rfl, _⟩ := List.cons.inj closing
            obtain ⟨start, ends⟩ := escaped inner others longer
            rw [ends] at same
            refine absurd ?_ (definite (front ++ '\x22' :: start))
            rw [same, List.append_assoc]
            rfl

/-- A string that is closed behind an id at the latest lies in the id. -/
theorem infix_of_closed {letters rest : List Char}
    (closed : '\x22' :: (letters ++ ['\x22', ',']) =
      front ++ '\x22' :: (body ++ '\x22' :: rest)) : body <:+: letters := by
  -- the comma is not the closing quote
  have within : front ++ '\x22' :: body <+: '\x22' :: letters := by
    have whole : ('\x22' :: letters) ++ ['\x22', ','] =
        (front ++ '\x22' :: body) ++ '\x22' :: rest := by
      rw [List.append_assoc]
      exact closed
    rcases List.append_eq_append_iff.mp whole with
      ⟨more, same, ends⟩ | ⟨others, same, _⟩
    · match more, ends with
      | [], _ =>
          rw [List.append_nil] at same
          exact ⟨[], by rw [same, List.append_nil]⟩
      | [_], ends => cases (List.cons.inj (List.cons.inj ends).2).1
      | _ :: _ :: more, ends =>
          have past := congrArg List.length ends
          simp at past
    · exact ⟨others, same.symm⟩
  cases front with
  | nil => exact (List.cons_prefix_cons.mp within).2.isInfix
  | cons quote front =>
      obtain ⟨others, same⟩ := (List.cons_prefix_cons.mp within).2
      refine ⟨front ++ ['\x22'], others, ?_⟩
      rw [← same]
      simp

theorem not_follows {letter : Char} {others next : List Char}
    (blank : JsonParser.isBlank letter = false)
    (other : letter ≠ ',' ∧ letter ≠ '\x7d')
    (follows : JsonParser.expect ',' (letter :: others) = some next ∨
      JsonParser.expect '\x7d' (letter :: others) = some next) : False := by
  rw [JsonParser.expect, JsonParser.expect,
    JsonParser.skipBlanks_cons blank] at follows
  dsimp only at follows
  rw [if_neg other.1, if_neg other.2] at follows
  rcases follows with none | none <;> cases none

theorem cases_at_text {first second : List Char}
    (escaped : QuotesEscaped body) (plain : '\\' ∉ first)
    (whole : first ++ '\x22' :: second =
      front ++ '\x22' :: (body ++ '\x22' :: behind)) :
    '\\' ∉ body ∨ ∃ start, '\x22' :: second =
      start ++ '\x22' :: (body ++ '\x22' :: behind) := by
  have definite : ∀ start, first ≠ start ++ ['\\'] := by
    rintro start rfl
    exact plain List.mem_concat_self
  rcases cases_at_quote escaped definite whole with
    ⟨rest, rfl⟩ | ⟨rfl, _⟩ | later
  · exact .inl fun within => plain (by simp [within])
  · exact .inl fun within => plain (by simp [within])
  · exact .inr later

theorem cases_at_id {letters after next : List Char} {letter : Char}
    (escaped : QuotesEscaped body)
    (blank : JsonParser.isBlank letter = false)
    (other : letter ≠ ',' ∧ letter ≠ '\x7d')
    (follows : JsonParser.expect ',' behind = some next ∨
      JsonParser.expect '\x7d' behind = some next)
    (whole : '\x22' :: (letters ++ '\x22' :: ',' :: '\x22' ::
        letter :: after) = front ++ '\x22' :: (body ++ '\x22' :: behind)) :
    body <:+: letters ∨ ∃ start, '\x22' :: letter :: after =
      start ++ '\x22' :: (body ++ '\x22' :: behind) := by
  have definite : ∀ start,
      '\x22' :: (letters ++ ['\x22', ',']) ≠ start ++ ['\\'] := by
    intro start same
    have ends : ('\x22' :: letters ++ ['\x22']) ++ [','] =
        start ++ ['\\'] := by
      rw [← same, List.append_assoc]
      rfl
    exact absurd (List.append_inj' ends rfl).2 (by decide)
  have split : ('\x22' :: (letters ++ ['\x22', ','])) ++
      '\x22' :: letter :: after =
        front ++ '\x22' :: (body ++ '\x22' :: behind) := by
    rw [← whole]
    simp
  rcases cases_at_quote escaped definite split with
    ⟨rest, closed⟩ | ⟨_, same⟩ | later
  · exact .inl (infix_of_closed closed)
  · exact absurd follows fun follows =>
      not_follows blank other (same ▸ follows)
  · exact .inr later

theorem infix_of_quoted {roomId playerId : List Char} {slot : Slot}
    (escaped : QuotesEscaped body)
    (quoted : JsonParser.Quoted (joinText roomId playerId slot) body) :
    body <:+: roomId ∨ body <:+: playerId ∨ '\\' ∉ body := by
  obtain ⟨front, behind, next, whole, follows⟩ := quoted
  obtain ⟨name, player⟩ : ∃ name, "playerId\":".toList = 'p' :: name :=
    ⟨"layerId\":".toList, by decide⟩
  have plain_name : '\\' ∉ '\x22' :: 'p' :: name := by
    rw [← player]
    decide
  obtain ⟨others, tail⟩ : ∃ others, joinTail slot = 't' :: others := by
    cases slot with
    | p1 => exact ⟨(joinTail .p1).tail, by decide⟩
    | p2 => exact ⟨(joinTail .p2).tail, by decide⟩
  have plain_tail : '\\' ∉ '\x22' :: 't' :: others := by
    rw [← tail]
    cases slot with
    | p1 => decide
    | p2 => decide
  rw [joinText_eq, player, tail] at whole
  rcases cases_at_text escaped (by decide) whole with
    plain | ⟨front, whole⟩
  · exact .inr (.inr plain)
  rcases cases_at_id escaped (by decide) (by decide) follows whole with
    inside | ⟨front, whole⟩
  · exact .inl inside
  have named : ('\x22' :: 'p' :: name) ++ '\x22' :: (playerId ++
      '\x22' :: ',' :: '\x22' :: 't' :: others) =
        front ++ '\x22' :: (body ++ '\x22' :: behind) := whole
  rcases cases_at_text escaped plain_name named with plain | ⟨front, whole⟩
  · exact .inr (.inr plain)
  rcases cases_at_id escaped (by decide) (by decide) follows whole with
    inside | ⟨front, whole⟩
  · exact .inr (.inl inside)
  refine .inr (.inr fun within => plain_tail ?_)
  rw [whole]
  simp [within]

end

/-- An id that is decoded is as it was, or the other one spells it. -/
theorem ClientId.unquoted_or_weight_le {id other : ClientId}
    {body : List Char} {units : List UInt16} (spelt : Spells body units)
    (decoded : ofUnits units = id.text)
    (inside : body <:+: id.letters ∨ body <:+: other.letters ∨
      '\\' ∉ body) :
    id.Unquoted ∨ weight id.letters ≤ other.letters.length ∧
      '\\' ∈ other.letters := by
  have letters : unitLetters units = id.letters := by
    rw [ClientId.letters, ← decoded, ofUnits, String.toList_ofList]
  have long := spelt.weight_le
  rw [letters] at long
  by_cases escapes : '\\' ∈ body
  · rcases inside with own | elsewhere | plain
    · have short := long.trans own.length_le
      rw [weight] at short
      have none_special := List.countP_eq_zero.mp
        (show id.letters.countP isSpecial = 0 by omega)
      left
      exact ⟨fun quote => none_special _ quote rfl,
        fun backslash => none_special _ backslash rfl⟩
    · exact .inr ⟨long.trans elsewhere.length_le, elsewhere.subset escapes⟩
    · exact absurd escapes plain
  · left
    obtain ⟨same, plain⟩ := spelt.eq_of_no_backslash escapes
    rw [← same, letters] at plain
    exact ⟨fun quote => (plain _ quote).2.1 rfl,
      fun backslash => (plain _ backslash).2.2 rfl⟩

/-- A property that the server reads from a join is spelt in its text. -/
theorem spells_of_get {text : List Char} {json : Json}
    (parsed : jsonParse text = some json) {name word : String}
    (read : Json.get name (Server.joinMsg json) = some (.string word)) :
    ∃ body units, Spells body units ∧ ofUnits units = word ∧
      JsonParser.Quoted text body := by
  have member : (name, .string word) ∈ Server.joinMsg json := by
    obtain ⟨_, _, split, _⟩ := List.lookup_eq_some_iff.mp read
    rw [← List.mem_reverse, split]
    exact List.mem_append_right _ List.mem_cons_self
  rcases List.mem_cons.mp member with type | member
  · cases type
  · exact jsonParse_quoted parsed member

theorem joinArrives_iff (runtime : JsRuntime) (ws : Ws)
    (roomId playerId : ClientId) (slot : Slot) :
    JoinArrives runtime ws roomId playerId slot ↔
      roomId.Unquoted ∧ playerId.Unquoted := by
  constructor
  · rintro ⟨msg, decoded, _, room, player, _⟩
    rw [decodeClientMsg_joinPayload] at decoded
    obtain ⟨json, parsed, rfl⟩ :=
      Option.map_eq_some_iff.mp (Except.ok.inj decoded)
    obtain ⟨_, _, roomSpelt, roomDecoded, roomQuoted⟩ :=
      spells_of_get parsed room
    obtain ⟨_, _, playerSpelt, playerDecoded, playerQuoted⟩ :=
      spells_of_get parsed player
    have roomInside := infix_of_quoted roomSpelt.quotesEscaped roomQuoted
    have playerInside :=
      infix_of_quoted playerSpelt.quotesEscaped playerQuoted
    rcases ClientId.unquoted_or_weight_le roomSpelt roomDecoded roomInside,
      ClientId.unquoted_or_weight_le playerSpelt playerDecoded
        (or_left_comm.mp playerInside) with
      ⟨room | ⟨roomShort, inPlayer⟩, player | ⟨playerShort, inRoom⟩⟩
    · exact ⟨room, player⟩
    · exact absurd inRoom room.2
    · exact absurd inPlayer player.2
    · -- each would have to be longer than the other
      have longer := length_lt_weight inPlayer
      have long : roomId.letters.length ≤ weight roomId.letters :=
        Nat.le_add_right _ _
      omega
  · rintro ⟨room, player⟩
    exact joinArrives_of_unquoted runtime ws room player slot

def quotedName : ClientId where
  text := "a\"b"
  short := by decide
  visible := forall_of_all (by decide)

def plainName : ClientId where
  text := "P1"
  short := by decide
  visible := forall_of_all (by decide)

theorem not_joinArrives_quotedName :
    ¬ JoinArrives (.ofTexts []) .zero quotedName plainName .p1 := by
  rintro ⟨msg, decoded, _⟩
  have refused : jsonParse (joinText quotedName.letters plainName.letters
      .p1) = none := Option.isNone_iff_eq_none.mp (by decide +kernel)
  rw [decodeClientMsg_joinPayload, refused] at decoded
  cases decoded

end FuryClash.Client
