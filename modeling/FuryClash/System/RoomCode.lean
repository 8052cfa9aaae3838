import FuryClash.Client.HttpClient
import FuryClash.Client.Introduction
import FuryClash.Client.JoinText
import FuryClash.Client.LobbyText
import FuryClash.Client.ServerJson
import FuryClash.Data.Http
import FuryClash.Server.RoomsRoute

namespace FuryClash.System

open FuryClash.Client
open FuryClash.Data
open FuryClash.Server (RoomManager)

/-! The code of a room, from the player who creates the room to the one who
types the code: the request that creates it, and the joins of both. -/

def roomJson (code : String) : Json :=
  .object [("roomId", .string code), ("p1Id", .string (code ++ "P1")),
    ("p2Id", .string (code ++ "P2")), ("p1Fighter", .number (.finite 0)),
    ("p2Fighter", .number (.finite 0))]

def playerSuffix : Slot → String
  | .p1 => "P1"
  | .p2 => "P2"

def playerId (code : String) (slot : Slot) : String :=
  code ++ playerSuffix slot

def fightersText : List Char :=
  "p1Fighter\":0,".toList ++ '\x22' :: "p2Fighter\":0\x7d".toList

def roomText (code : List Char) : List Char :=
  "\x7b\"roomId\":".toList ++ '\x22' :: (code ++ '\x22' :: ',' ::
    '\x22' :: ("p1Id\":".toList ++ '\x22' :: ((code ++ "P1".toList) ++
      '\x22' :: ',' :: '\x22' :: ("p2Id\":".toList ++ '\x22' ::
        ((code ++ "P2".toList) ++ '\x22' :: ',' :: '\x22' ::
          fightersText)))))

theorem members_fighters (turns : Nat) :
    JsonParser.members (turns + 3) ('\x22' :: fightersText) =
      some ([("p1Fighter", .number (.finite 0)),
        ("p2Fighter", .number (.finite 0))], []) := by
  have zero (turns : Nat) (behind : List Char)
      (number : jsonNumber ('0' :: behind) = some (.finite 0, behind)) :
      JsonParser.value (turns + 1) ('0' :: behind) =
        some (.number (.finite 0), behind) := by
    refine (JsonParser.value_literal (by decide) (by decide) turns
      behind).trans (JsonParser.literal_number (fun name known => ?_) number)
    simp only [List.mem_cons, List.not_mem_nil, or_false] at known
    rcases known with rfl | rfl | rfl <;> exact Bool.false_ne_true
  have p1_word : ∀ letter ∈ "p1Fighter".toList, Plain letter :=
    forall_of_all (by decide)
  have p2_word : ∀ letter ∈ "p2Fighter".toList, Plain letter :=
    forall_of_all (by decide)
  have last := JsonParser.members_last p2_word
    (zero turns ['\x7d'] (by decide +kernel))
  have first := JsonParser.members_cons p1_word
    (zero (turns + 1) (',' :: '\x22' :: ("p2Fighter".toList ++ '\x22' :: ':' ::
      ['0', '\x7d'])) (by decide +kernel))
  rw [last] at first
  exact first

theorem jsonParse_roomText {code : String}
    (plain : ∀ letter ∈ code.toList, Plain letter) :
    jsonParse (roomText code.toList) = some (roomJson code) := by
  have room_word : ∀ letter ∈ "roomId".toList, Plain letter :=
    forall_of_all (by decide)
  have p1_word : ∀ letter ∈ "p1Id".toList, Plain letter :=
    forall_of_all (by decide)
  have p2_word : ∀ letter ∈ "p2Id".toList, Plain letter :=
    forall_of_all (by decide)
  have id_plain (suffix : String)
      (word : ∀ letter ∈ suffix.toList, Plain letter) :
      ∀ letter ∈ code.toList ++ suffix.toList, Plain letter := by
    intro letter within
    rcases List.mem_append.mp within with front | behind
    · exact plain letter front
    · exact word letter behind
  obtain ⟨length, long⟩ :
      ∃ length, length = (roomText code.toList).length := ⟨_, rfl⟩
  have enough : 2 * (roomText code.toList).length < 2 * length + 7 := by
    omega
  have p2 := JsonParser.members_plain p2_word
    (id_plain "P2" (forall_of_all (by decide))) (2 * length + 2)
    ('\x22' :: fightersText)
  rw [members_fighters (2 * length)] at p2
  have p1 := JsonParser.members_plain p1_word
    (id_plain "P1" (forall_of_all (by decide))) (2 * length + 3)
    ('\x22' :: ("p2Id".toList ++ '\x22' :: ':' :: '\x22' ::
      ((code.toList ++ "P2".toList) ++ '\x22' :: ',' :: '\x22' ::
        fightersText)))
  rw [p2] at p1
  have room := JsonParser.members_plain room_word plain (2 * length + 4)
    ('\x22' :: ("p1Id".toList ++ '\x22' :: ':' :: '\x22' ::
      ((code.toList ++ "P1".toList) ++ '\x22' :: ',' :: '\x22' ::
        ("p2Id".toList ++ '\x22' :: ':' :: '\x22' ::
          ((code.toList ++ "P2".toList) ++ '\x22' :: ',' :: '\x22' ::
            fightersText)))))
  rw [p1] at room
  have read := JsonParser.value_object room
  have words (suffix : String) :
      String.ofList (code.toList ++ suffix.toList) = code ++ suffix := by
    rw [← String.toList_append, String.ofList_toList]
  simp only [words, String.ofList_toList] at read
  exact jsonParse_of_value enough read

structure Simple (letter : Char) : Prop where
  plain : Plain letter
  ascii : letter.toNat < 128

theorem simple_codeText (draws : Fin 6 → Fin 32) :
    ∀ letter ∈ (codeText draws).toList, Simple letter := by
  have plain : ∀ letter ∈ codeLetters, Plain letter :=
    forall_of_all (by decide +kernel)
  have ascii : ∀ letter ∈ codeLetters, letter.toNat < 128 :=
    forall_of_all (by decide +kernel)
  exact fun letter within =>
    ⟨plain letter (mem_codeText within), ascii letter (mem_codeText within)⟩

theorem roomText_eq (code : List Char) :
    roomText code = "\x7b\"roomId\":\"".toList ++ code ++
      "\",\"p1Id\":\"".toList ++ code ++
      "P1\",\"p2Id\":\"".toList ++ code ++
      "P2\",\"p1Fighter\":0,\"p2Fighter\":0\x7d".toList := by
  have room : "\x7b\"roomId\":\"".toList =
      "\x7b\"roomId\":".toList ++ ['\x22'] := rfl
  have p1 : "\",\"p1Id\":\"".toList =
      '\x22' :: ',' :: '\x22' :: ("p1Id\":".toList ++ ['\x22']) := rfl
  have p2 : "P1\",\"p2Id\":\"".toList =
      "P1".toList ++ '\x22' :: ',' :: '\x22' ::
        ("p2Id\":".toList ++ ['\x22']) := rfl
  have fighters : "P2\",\"p1Fighter\":0,\"p2Fighter\":0\x7d".toList =
      "P2".toList ++ '\x22' :: ',' :: '\x22' :: fightersText := by
    decide +kernel
  rw [room, p1, p2, fighters]
  unfold roomText
  -- the literals are not to be compared letter by letter
  generalize "\x7b\"roomId\":".toList = roomKey
  generalize "p1Id\":".toList = p1Key
  generalize "p2Id\":".toList = p2Key
  generalize "P1".toList = p1Suffix
  generalize "P2".toList = p2Suffix
  simp only [List.append_assoc, List.cons_append, List.nil_append]

theorem roomBody_eq {code : String}
    (simple : ∀ letter ∈ code.toList, Simple letter) :
    roomBody (asciiBytes code) = utf8 (roomText code.toList) ∧
      ∀ byte ∈ roomBody (asciiBytes code), byte.toNat < 128 := by
  have byte (text : String) (small : ∀ letter ∈ text.toList,
      letter.toNat < 128) : utf8 text.toList = asciiBytes text ∧
        ∀ byte ∈ asciiBytes text, byte.toNat < 128 := by
    refine ⟨utf8_ascii small, fun byte within => ?_⟩
    obtain ⟨letter, there, rfl⟩ := List.mem_map.mp within
    have bound := small letter there
    rw [UInt8.toNat_ofNat']
    omega
  obtain ⟨isCode, code_small⟩ := byte code fun letter within =>
    (simple letter within).ascii
  obtain ⟨isRoom, room_small⟩ := byte "\x7b\"roomId\":\""
    (forall_of_all (by decide +kernel))
  obtain ⟨isP1, p1_small⟩ := byte "\",\"p1Id\":\""
    (forall_of_all (by decide +kernel))
  obtain ⟨isP2, p2_small⟩ := byte "P1\",\"p2Id\":\""
    (forall_of_all (by decide +kernel))
  obtain ⟨isFighters, fighters_small⟩ :=
    byte "P2\",\"p1Fighter\":0,\"p2Fighter\":0\x7d"
      (forall_of_all (by decide +kernel))
  constructor
  · rw [roomText_eq]
    simp only [utf8_append, isCode, isRoom, isP1, isP2, isFighters]
    rfl
  · rw [roomBody]
    simp only [List.forall_mem_append]
    exact ⟨⟨⟨⟨⟨⟨room_small, code_small⟩, p1_small⟩, code_small⟩, p2_small⟩,
      code_small⟩, fighters_small⟩

theorem jsonParse_roomBody {code : String}
    (simple : ∀ letter ∈ code.toList, Simple letter)
    {chunks : List (List UInt8)}
    (whole : chunks.flatten = roomBody (asciiBytes code)) :
    jsonParse (Server.bodyText chunks) = some (roomJson code) := by
  obtain ⟨isText, small⟩ := roomBody_eq simple
  have text : Server.bodyText chunks = roomText code.toList := by
    rw [Server.RoomManager.bodyText_whole, whole, isText, decodeUtf8_utf8]
    intro chunk within
    refine Server.RoomManager.exists_text_of_ascii fun byte there => ?_
    refine small byte ?_
    rw [← whole]
    exact List.mem_flatten.mpr ⟨chunk, within, there⟩
  rw [text]
  exact jsonParse_roomText fun letter within => (simple letter within).plain

def httpFields (post : HttpPost) : List Http.Field :=
  [⟨asciiBytes "Host", post.host ++ asciiBytes (":" ++ toString post.port)⟩,
    ⟨asciiBytes "Content-Type", asciiBytes "application/json"⟩,
    ⟨asciiBytes "Content-Length", asciiBytes (toString post.body.length)⟩,
    ⟨asciiBytes "Connection", asciiBytes "close"⟩]

theorem asciiBytes_append (first second : String) :
    asciiBytes (first ++ second) = asciiBytes first ++ asciiBytes second := by
  rw [asciiBytes, String.toList_append, List.map_append]
  rfl

theorem httpRequest_eq (post : HttpPost) :
    httpRequest post =
      Http.text ⟨asciiBytes "POST", post.path, post.body⟩
        (httpFields post) := by
  have method : asciiBytes "POST " = asciiBytes "POST" ++ [32] := rfl
  have host : asciiBytes " HTTP/1.1\r\nHost: " =
      asciiBytes " HTTP/1.1" ++ 13 :: 10 :: (asciiBytes "Host" ++ [58, 32]) :=
    rfl
  have type : asciiBytes
      "\r\nContent-Type: application/json\r\nContent-Length: " =
        13 :: 10 :: (asciiBytes "Content-Type" ++ 58 :: 32 ::
          (asciiBytes "application/json" ++ 13 :: 10 ::
            (asciiBytes "Content-Length" ++ [58, 32]))) := by
    decide +kernel
  have close : asciiBytes "\r\nConnection: close\r\n\r\n" =
      13 :: 10 :: (asciiBytes "Connection" ++ 58 :: 32 ::
        (asciiBytes "close" ++ [13, 10, 13, 10])) := by
    decide +kernel
  unfold httpRequest httpFields Http.text Http.requestLine
  simp only [asciiBytes_append, method, host, type, close]
  generalize asciiBytes "POST" = post
  generalize asciiBytes " HTTP/1.1" = version
  generalize asciiBytes "Host" = hostName
  generalize asciiBytes "Content-Type" = typeName
  generalize asciiBytes "application/json" = json
  generalize asciiBytes "Content-Length" = lengthName
  generalize asciiBytes "Connection" = connectionName
  generalize asciiBytes "close" = closing
  simp only [List.flatMap_cons, List.flatMap_nil, Http.ended, Http.Field.line,
    List.append_assoc, List.cons_append, List.nil_append, List.append_nil]

theorem oneLine_toString (number : Nat) :
    Http.OneLine (asciiBytes (toString number)) := by
  have read := Http.decimal_toString number
  rw [Http.decimal] at read
  split at read
  next digits =>
    have no_end {byte : UInt8} (other : Http.isDecimal byte = false) :
        byte ∉ asciiBytes (toString number) := by
      intro within
      have digit := List.all_eq_true.mp digits.2 byte within
      rw [other] at digit
      cases digit
    exact ⟨no_end rfl, no_end rfl⟩
  next => cases read

def createPost (host : List UInt8) (port : Nat) (code : String) : HttpPost :=
  ⟨host, port, asciiBytes "/rooms", roomBody (asciiBytes code)⟩

variable {host url : List UInt8} {port : Nat} {code : String}

theorem httpFields_plain {post : HttpPost} (host : Http.OneLine post.host)
    (port : Http.OneLine (asciiBytes (toString post.port))) :
    ∀ field ∈ httpFields post, field.Plain := by
  have names : ∀ name ∈ [asciiBytes "Host", asciiBytes "Content-Type",
      asciiBytes "Content-Length", asciiBytes "Connection"],
      name ≠ [] ∧ 13 ∉ name ∧ 10 ∉ name := by
    decide +kernel
  have values : ∀ value ∈ [asciiBytes ":", asciiBytes "application/json",
      asciiBytes "close"], 13 ∉ value ∧ 10 ∉ value := by
    decide +kernel
  rw [httpFields, asciiBytes_append]
  generalize asciiBytes "Host" = hostName at names ⊢
  generalize asciiBytes "Content-Type" = typeName at names ⊢
  generalize asciiBytes "Content-Length" = lengthName at names ⊢
  generalize asciiBytes "Connection" = connectionName at names ⊢
  generalize asciiBytes ":" = colon at values ⊢
  generalize asciiBytes "application/json" = json at values ⊢
  generalize asciiBytes "close" = close at values ⊢
  simp only [List.forall_mem_cons, List.not_mem_nil, false_implies,
    implies_true, and_true] at names values ⊢
  obtain ⟨⟨some_host, isHost⟩, ⟨some_type, isType⟩, ⟨some_length, isLength⟩,
    some_connection, isConnection⟩ := names
  obtain ⟨isColon, isJson, isClose⟩ := values
  have target : Http.OneLine (colon ++ asciiBytes (toString post.port)) :=
    Http.OneLine.append isColon port
  exact ⟨⟨some_host, isHost, host.append target⟩,
    ⟨some_type, isType, isJson⟩,
    ⟨some_length, isLength, oneLine_toString post.body.length⟩,
    ⟨some_connection, isConnection, isClose⟩⟩

theorem fieldValue_httpFields (post : HttpPost) :
    Http.fieldValue "content-length"
        ((httpFields post).map Http.Field.line) =
      some (asciiBytes (toString post.body.length)) := by
  have host : 58 ∉ asciiBytes "Host" ∧
      (asciiBytes "Host").map Http.lowerCase ≠
        asciiBytes "content-length" := by decide +kernel
  have type : 58 ∉ asciiBytes "Content-Type" ∧
      (asciiBytes "Content-Type").map Http.lowerCase ≠
        asciiBytes "content-length" := by decide +kernel
  have length : 58 ∉ asciiBytes "Content-Length" ∧
      (asciiBytes "Content-Length").map Http.lowerCase =
        asciiBytes "content-length" := by decide +kernel
  rw [httpFields]
  generalize asciiBytes "Host" = hostName at host ⊢
  generalize asciiBytes "Content-Type" = typeName at type ⊢
  generalize asciiBytes "Content-Length" = lengthName at length ⊢
  rw [List.map_cons, Http.fieldValue_cons host.1, if_neg host.2,
    List.map_cons, Http.fieldValue_cons type.1, if_neg type.2, List.map_cons,
    Http.fieldValue_cons length.1, if_pos length.2, Http.dropWhile_toString]

theorem readRequest_createPost (line : Http.OneLine host)
    (rest : List UInt8) :
    Http.readRequest (httpRequest (createPost host port code) ++ rest) =
      some ⟨asciiBytes "POST", asciiBytes "/rooms",
        roomBody (asciiBytes code)⟩ := by
  have method : Http.OneLine (asciiBytes "POST") := ⟨by decide, by decide⟩
  have method_word : 32 ∉ asciiBytes "POST" := by decide
  have target : Http.OneLine (asciiBytes "/rooms") := ⟨by decide, by decide⟩
  have target_word : 32 ∉ asciiBytes "/rooms" := by decide
  have fields := @httpFields_plain (createPost host port code) line
    (oneLine_toString port)
  have length := fieldValue_httpFields (createPost host port code)
  rw [httpRequest_eq]
  exact @Http.readRequest_text _ ⟨asciiBytes "POST", asciiBytes "/rooms",
    roomBody (asciiBytes code)⟩ ⟨method, method_word, target, target_word⟩
    fields length rest

theorem length_asciiBytes (text : String) :
    (asciiBytes text).length = text.toList.length := by
  rw [asciiBytes, List.length_map]

theorem length_toString_lt {number digits : Nat} (some_digits : 0 < digits)
    (small : number < 10 ^ digits) :
    (asciiBytes (toString number)).length ≤ digits := by
  rw [length_asciiBytes, Nat.toString_eq_repr, Nat.toList_repr]
  exact (Nat.length_toDigits_le_iff (by decide) some_digits).mpr small

theorem length_createPost (fits : host.length < 128) (low : port < 65536)
    (six : code.toList.length = 6) :
    (httpRequest (createPost host port code)).length < httpReqSize := by
  have body : (roomBody (asciiBytes code)).length = 83 := by
    have inner : (asciiBytes code).length = 6 := by
      rw [length_asciiBytes, six]
    simp only [roomBody, List.length_append, inner, length_asciiBytes]
    decide +kernel
  have number := @length_toString_lt 83 2 (by decide) (by decide)
  have at_port := @length_toString_lt port 5 (by decide) (by omega)
  have literals : (asciiBytes "POST ").length + (asciiBytes "/rooms").length +
      (asciiBytes " HTTP/1.1\r\nHost: ").length + (asciiBytes ":").length +
      (asciiBytes
        "\r\nContent-Type: application/json\r\nContent-Length: ").length +
      (asciiBytes "\r\nConnection: close\r\n\r\n").length = 102 := by
    simp only [length_asciiBytes]
    decide +kernel
  have room : httpReqSize = 2048 := rfl
  have written : toString (port : Int) = toString port := rfl
  simp only [httpRequest, createPost, body, asciiBytes_append,
    List.length_append, written]
  omega

theorem length_of_httpParseWsUrl {size : Nat} {port : Int}
    (parsed : httpParseWsUrl url size = some (host, port)) :
    host.length < size := by
  have taken {stop : Nat} (fits : ¬ (stop = 0 ∨ size ≤ stop))
      (p : List UInt8) : (p.take stop).length < size := by
    rw [List.length_take]
    omega
  rw [httpParseWsUrl] at parsed
  dsimp only at parsed
  split at parsed
  next =>
    split at parsed
    next =>
      split at parsed
      next => cases parsed
      next fits =>
        cases parsed
        exact taken fits _
    next =>
      split at parsed
      next => cases parsed
      next fits =>
        cases parsed
        exact taken fits _
  next =>
    split at parsed
    next => cases parsed
    next fits =>
      cases parsed
      exact taken fits _

structure Reaches (url host : List UInt8) (port : Nat) : Prop where
  parsed : httpParseWsUrl url 128 = some (host, (port : Int))
  line : Http.OneLine host
  port : port < 65536

def createStatus (os : HttpOs) (turns : Nat) (post : HttpPost) : Int :=
  ((httpPost os turns post 512).map (·.status)).getD (-1)

section

variable {R : Type} [Field R] [LinearOrder R] [FloorRing R]

inductive Created (runtime : JsRuntime) (config : Server.RelayConfig)
    (expectedScore : Int → Int → R) (os : Os) (url : List UInt8)
    (code : String) (lobby : Lobby) (net : Net) (m : RoomManager) :
    RoomManager → RoomCreation → Prop
  | room (place : m.rooms.keys.length < config.maxRooms)
      {left : RoomCreation} (isLobby : left.lobby =
        { lobby with isP1 := true, sub := .showCode })
      (isNet : left.net = (net.configure (some url) (asciiBytes code)
        (asciiBytes (playerId code .p1)) 0).connect os none) :
      Created runtime config expectedScore os url code lobby net m
        (m.step runtime config expectedScore (.createRoom (roomJson code)))
        left
  | full (full : config.maxRooms ≤ m.rooms.keys.length)
      {left : RoomCreation} (isLobby : left.lobby =
        { lobby with sub := .role })
      (complains : left.errorMsg =
        asciiBytes "Room creation failed (HTTP 400)")
      (isNet : left.net = net) :
      Created runtime config expectedScore os url code lobby net m m left

variable {runtime : JsRuntime} {config : Server.RelayConfig}
  {expectedScore : Int → Int → R} {complaint : List Char → String}
  {m : RoomManager}

theorem handleRequest_createPost
    (simple : ∀ letter ∈ code.toList, Simple letter)
    {chunks : List (List UInt8)}
    (whole : chunks.flatten = roomBody (asciiBytes code)) :
    m.handleRequest config complaint
        ⟨asciiBytes "POST", asciiBytes "/rooms", chunks⟩ =
      if config.maxRooms ≤ m.rooms.keys.length then
        (⟨400, some [("error", some (.string "Error: Relay at capacity"))]⟩, m)
      else
        (⟨201, some [("roomId", some (.string code))]⟩,
          m.createRoom config (roomJson code)) := by
  have other : asciiBytes "POST" ≠ asciiBytes "GET" := by decide
  rw [RoomManager.handleRequest, if_neg fun both => other both.1,
    if_pos ⟨rfl, rfl⟩, RoomManager.postRooms,
    jsonParse_roomBody simple whole]
  rfl

theorem lobbyCreateRoom_eq {draws : Fin 6 → Fin 32}
    (isCode : code = codeText draws) (reaches : Reaches url host port)
    (os : Os) (httpPost : HttpPost → Int) (lobby : Lobby) (net : Net) :
    lobbyCreateRoom os httpPost (genRoomCode draws) url lobby net =
      let status := httpPost (createPost host port code)
      if status = 200 ∨ status = 201 then
        ⟨some (createPost host port code),
          { lobby with isP1 := true, sub := .showCode }, [],
          (net.configure (some url) (asciiBytes code)
            (asciiBytes (playerId code .p1)) 0).connect os none⟩
      else
        ⟨some (createPost host port code), { lobby with sub := .role },
          asciiBytes ("Room creation failed (HTTP " ++ toString status ++ ")"),
          net⟩ := by
  rw [lobbyCreateRoom, reaches.parsed, genRoomCode, ← isCode, createPost,
    playerId, asciiBytes_append]
  rfl

/-- However the connection cuts the request and the answer, either the relay
has the room and its creator goes to it, or the relay is full, the player is
told so, and nothing else has changed. -/
theorem room_created (running : m.crashed = false) {draws : Fin 6 → Fin 32}
    (isCode : code = codeText draws) (reaches : Reaches url host port)
    {http : HttpOs} (answers : http.Answers) {chunks : List (List UInt8)}
    (whole : chunks.flatten = roomBody (asciiBytes code))
    (status : StatusIs http.stream (m.handleRequest config complaint
      ⟨asciiBytes "POST", asciiBytes "/rooms", chunks⟩).1.status)
    (os : Os) (lobby : Lobby) (net : Net) :
    ∃ enough, ∀ turns, enough ≤ turns →
      (∃ reply, httpPost http turns (createPost host port code) 512 =
          some reply ∧
        Http.readRequest reply.sent = some ⟨asciiBytes "POST",
          asciiBytes "/rooms", chunks.flatten⟩) ∧
      Created runtime config expectedScore os url code lobby net m
        (RoomManager.relay runtime config expectedScore complaint m
          (.request ⟨asciiBytes "POST", asciiBytes "/rooms", chunks⟩))
        (lobbyCreateRoom os (createStatus http turns) (genRoomCode draws) url
          lobby net) := by
  have six := length_codeText draws
  have simple := simple_codeText draws
  rw [← isCode] at six simple
  have short := length_createPost (length_of_httpParseWsUrl reaches.parsed)
    reaches.port six
  obtain ⟨enough, posted⟩ := httpPost_answered answers short status 512
  refine ⟨enough, fun turns more => ⟨⟨_, posted turns more, ?_⟩, ?_⟩⟩
  · have read := @readRequest_createPost host port code reaches.line []
    rw [List.append_nil] at read
    rw [whole]
    exact read
  have isStatus : createStatus http turns (createPost host port code) =
      ((m.handleRequest config complaint
        ⟨asciiBytes "POST", asciiBytes "/rooms", chunks⟩).1.status : Int) := by
    rw [createStatus, posted turns more]
    rfl
  have answer := @handleRequest_createPost code config complaint m simple
    chunks whole
  rw [answer] at isStatus
  rw [RoomManager.relay, if_neg (by simp [running]), answer,
    lobbyCreateRoom_eq isCode reaches]
  by_cases full : config.maxRooms ≤ m.rooms.keys.length
  · rw [if_pos full] at isStatus ⊢
    have refused : createStatus http turns (createPost host port code) = 400 :=
      isStatus
    dsimp only
    rw [refused, if_neg (by decide)]
    exact .full full rfl rfl rfl
  · rw [if_neg full] at isStatus ⊢
    have accepted : createStatus http turns (createPost host port code) = 201 :=
      isStatus
    have same : m.createRoom config (roomJson code) =
        m.step runtime config expectedScore (.createRoom (roomJson code)) := by
      rw [RoomManager.step, if_neg (by simp [running])]
      rfl
    dsimp only
    rw [accepted, if_pos (by decide), same]
    exact .room (Nat.lt_of_not_le full) rfl rfl

end

def oneRoom : Server.RelayConfig := ⟨1, 5000, false⟩

def emptyRelay : RoomManager := .initial Server.noPlayers

def firstDraws : Fin 6 → Fin 32 := fun _ => 0

def serverUrl : List UInt8 := asciiBytes "ws://h:8080"

theorem emptyRelay_status : StatusIs (halting createdResponse).stream
    (emptyRelay.handleRequest oneRoom (fun _ => "SyntaxError")
      ⟨asciiBytes "POST", asciiBytes "/rooms",
        [roomBody (asciiBytes (codeText firstDraws))]⟩).1.status := by
  rw [@handleRequest_createPost (codeText firstDraws) oneRoom
    (fun _ => "SyntaxError") emptyRelay (simple_codeText firstDraws)
    [roomBody (asciiBytes (codeText firstDraws))] List.flatten_singleton]
  exact createdResponse_status

theorem serverUrl_reaches : Reaches serverUrl (asciiBytes "h") 8080 :=
  ⟨by decide +kernel, ⟨by decide, by decide⟩, by decide⟩

theorem room_created_emptyRelay :
    ∃ enough, ∀ turns, enough ≤ turns →
      (∃ reply, httpPost (halting createdResponse) turns
          (createPost (asciiBytes "h") 8080 (codeText firstDraws)) 512 =
            some reply ∧
        Http.readRequest reply.sent = some ⟨asciiBytes "POST",
          asciiBytes "/rooms",
            [roomBody (asciiBytes (codeText firstDraws))].flatten⟩) ∧
      Created (.ofTexts []) oneRoom Server.evenScore byteByByte serverUrl
        (codeText firstDraws) lobbyInit .initial emptyRelay
        (RoomManager.relay (.ofTexts []) oneRoom Server.evenScore
          (fun _ => "SyntaxError") emptyRelay (.request ⟨asciiBytes "POST",
            asciiBytes "/rooms",
              [roomBody (asciiBytes (codeText firstDraws))]⟩))
        (lobbyCreateRoom byteByByte
          (createStatus (halting createdResponse) turns)
          (genRoomCode firstDraws) serverUrl lobbyInit .initial) :=
  room_created rfl rfl serverUrl_reaches (halting_answers createdResponse)
    List.flatten_singleton emptyRelay_status byteByByte lobbyInit .initial

structure Seat where
  url : List UInt8
  os : Os
  net : Net

namespace Seat

def configured (seat : Seat) (code : String) (slot : Slot) : Net :=
  seat.net.configure (some seat.url) (asciiBytes code)
    (asciiBytes (playerId code slot)) slot.number

/-- What both ways through the lobby lead to. -/
def enters (seat : Seat) (code : String) (slot : Slot) : Net :=
  (seat.configured code slot).connect seat.os none

def join (seat : Seat) (code : String) (slot : Slot) : List UInt8 :=
  Net.joinPayload (seat.configured code slot).ws

end Seat

theorem playerId_ascii {code : String}
    (simple : ∀ letter ∈ code.toList, Simple letter) (slot : Slot) :
    ∀ letter ∈ (playerId code slot).toList, Simple letter := by
  intro letter within
  rw [playerId, String.toList_append] at within
  rcases List.mem_append.mp within with front | behind
  · exact simple letter front
  · have plain : ∀ letter ∈ (playerSuffix slot).toList, Plain letter := by
      cases slot with
      | p1 => exact forall_of_all (by decide)
      | p2 => exact forall_of_all (by decide)
    have ascii : ∀ letter ∈ (playerSuffix slot).toList,
        letter.toNat < 128 := by
      cases slot with
      | p1 => exact forall_of_all (by decide)
      | p2 => exact forall_of_all (by decide)
    exact ⟨plain letter behind, ascii letter behind⟩

theorem length_playerId (code : String) (slot : Slot) :
    (playerId code slot).toList.length = code.toList.length + 2 := by
  rw [playerId, String.toList_append, List.length_append]
  cases slot with
  | p1 => rfl
  | p2 => rfl

def simpleId (text : String) (simple : ∀ letter ∈ text.toList, Simple letter)
    (short : text.toList.length ≤ 63) : ClientId where
  text := text
  short := by
    rw [utf8_ascii fun letter within => (simple letter within).ascii,
      List.length_map]
    exact short
  visible letter within := (simple letter within).plain.1

theorem simpleId_bytes {text : String}
    (simple : ∀ letter ∈ text.toList, Simple letter)
    (short : text.toList.length ≤ 63) :
    (simpleId text simple short).bytes = asciiBytes text :=
  utf8_ascii fun letter within => (simple letter within).ascii

theorem simpleId_unquoted {text : String}
    (simple : ∀ letter ∈ text.toList, Simple letter)
    (short : text.toList.length ≤ 63) :
    (simpleId text simple short).Unquoted :=
  ⟨fun quote => (simple _ quote).plain.2.1 rfl,
    fun backslash => (simple _ backslash).plain.2.2 rfl⟩

theorem configured_asks (seat : Seat) (runtime : JsRuntime) (slot : Slot)
    {room id : String} (room_simple : ∀ letter ∈ room.toList, Simple letter)
    (room_short : room.toList.length ≤ 63)
    (id_simple : ∀ letter ∈ id.toList, Simple letter)
    (id_short : id.toList.length ≤ 63) :
    Server.Asks runtime.withParser room id slot (Net.joinPayload
      (seat.net.configure (some seat.url) (asciiBytes room) (asciiBytes id)
        slot.number).ws) := by
  have ids := (Net.configure_ids (some seat.url) (asciiBytes room)
    (asciiBytes id) slot.number seat.net).1
  generalize seat.net.configure (some seat.url) (asciiBytes room)
    (asciiBytes id) slot.number = net at ids
  simp only [Ws.ids, Prod.mk.injEq] at ids
  obtain ⟨roomId, isPlayer, isSlot, _⟩ := ids
  rw [List.take_of_length_le (by rw [length_asciiBytes]; exact room_short)]
    at roomId
  rw [List.take_of_length_le (by rw [length_asciiBytes]; exact id_short)]
    at isPlayer
  have same : Net.joinPayload net.ws = Net.joinPayload (net.ws.joining
      (simpleId room room_simple room_short)
      (simpleId id id_simple id_short) slot) := by
    rw [Net.joinPayload, Net.joinPayload, Ws.joining, simpleId_bytes,
      simpleId_bytes, roomId, isPlayer, isSlot]
  rw [same]
  exact joinArrives_of_unquoted runtime net.ws
    (simpleId_unquoted room_simple room_short)
    (simpleId_unquoted id_simple id_short) slot

theorem Seat.asks (seat : Seat) (runtime : JsRuntime) (slot : Slot)
    (simple : ∀ letter ∈ code.toList, Simple letter)
    (six : code.toList.length = 6) :
    Server.Asks runtime.withParser code (playerId code slot) slot
      (seat.join code slot) :=
  configured_asks seat runtime slot simple (by omega)
    (playerId_ascii simple slot) (by rw [length_playerId]; omega)

theorem Seat.speaks (seat : Seat) (code : String) (slot : Slot)
    (allocates : ∀ call, seat.os.allocates call = true) :
    Net.Speaks seat.os (seat.configured code slot) := by
  refine ⟨allocates, ?_⟩
  have ids := (Net.configure_ids (some seat.url) (asciiBytes code)
    (asciiBytes (playerId code slot)) slot.number seat.net).1
  simp only [Ws.ids, Prod.mk.injEq] at ids
  obtain ⟨roomId, isPlayer, isSlot, _⟩ := ids
  have size : wsSendBuf = 4096 := rfl
  have ends : (asciiBytes ("\",\"token\":\"dev\",\"slot\":" ++
      toString slot.number ++ "\x7d")).length = 25 := by
    rw [length_asciiBytes]
    cases slot with
    | p1 => decide +kernel
    | p2 => decide +kernel
  have literals : (asciiBytes "\x7b\"roomId\":\"").length +
      (asciiBytes "\",\"playerId\":\"").length = 25 := by
    simp only [length_asciiBytes]
    decide +kernel
  rw [Net.joinPayload, Seat.configured, roomId, isPlayer, isSlot]
  simp only [List.length_cons, List.length_append, List.length_take, ends]
  omega

theorem lobbyJoinRoom_enters {t : LobbyTexts} (typed : t.codeInput =
      asciiBytes code) (six : code.toList.length = 6) (os : Os) (lobby : Lobby)
    (net : Net) :
    (lobbyJoinRoom os t lobby net).2.2 =
      Seat.enters ⟨t.serverUrl, os, net⟩ code .p2 := by
  have length : (asciiBytes code).length = 6 := by
    rw [length_asciiBytes, six]
  have whole : t.joinCode.roomCode = asciiBytes code := by
    rw [LobbyTexts.joinCode, typed]
    exact List.take_of_length_le (by rw [length]; decide)
  have joiner : joinerId t = asciiBytes (playerId code .p2) := by
    have suffix : (asciiBytes "P2").length = 2 := rfl
    rw [joinerId, typed, playerId, asciiBytes_append]
    exact List.take_of_length_le (by rw [List.length_append, length]; decide)
  have some_code : t.codeInput ≠ [] := by
    rw [typed]
    rintro empty
    rw [empty] at length
    cases length
  rw [lobbyJoinRoom, if_neg some_code, whole, joiner]
  rfl

theorem foldl_handleTextInput_serverUrl (t : LobbyTexts)
    (pieces : List (List UInt8)) :
    (pieces.foldl (fun t piece => t.handleTextInput .enterCode piece)
      t).serverUrl = t.serverUrl := by
  induction pieces generalizing t with
  | nil => rfl
  | cons piece pieces ih =>
      rw [List.foldl_cons, ih, LobbyTexts.handleTextInput]
      split <;> rfl

def startFields (code : String) (slot : Slot) : Server.StartFields where
  yourSlot := slot.number
  p1Id := asciiUnits (playerId code .p1)
  p2Id := asciiUnits (playerId code .p2)
  p1Fighter := 0
  p2Fighter := 0
  roomId := asciiUnits code

theorem dispatchMessage_start (os : Os) (net : Net) (code : String)
    (slot : Slot) (behind : List UInt8) :
    let started := net.dispatchMessage os
      (terminated (Server.encodeMatchStart (startFields code slot)) behind)
    started.ws.matchInfo = ⟨slot.number, 0, 0⟩ ∧ started.ws.state = .ready := by
  have yours : slot.number.natAbs < 2 ^ 31 := by
    cases slot with
    | p1 => decide
    | p2 => decide
  have zero : (0 : Int).natAbs < 2 ^ 31 := by decide
  have fits : StartFits (startFields code slot) := ⟨yours, zero, zero⟩
  have read := startReadsBack fits behind
  have first : (terminated (Server.encodeMatchStart (startFields code slot))
      behind).memory 0 = msgStart := rfl
  have some_there : ¬ (terminated (Server.encodeMatchStart
      (startFields code slot)) behind).plen < 1 := by
    rw [terminated, Server.encodeMatchStart, Server.encodeJson,
      List.length_append]
    exact Nat.not_lt.mpr (Nat.le_add_right 1 _)
  dsimp only
  rw [Net.dispatchMessage]
  dsimp only
  rw [if_neg some_there, first, if_neg (by decide), if_pos rfl,
    read.yourSlot.result, read.p1Fighter.result, read.p2Fighter.result]
  exact ⟨rfl, rfl⟩

theorem roomJson_names (code : String) (pingIntervalMs : Nat) :
    (Server.RoomConfig.ofJson (roomJson code) pingIntervalMs).Names code
      (playerId code) := by
  refine ⟨rfl, fun slot => ?_⟩
  cases slot with
  | p1 => rfl
  | p2 => rfl

section

variable {R : Type} [Field R] [LinearOrder R] [FloorRing R]

/-- The players of a room, from their lobbies to the match. `met` is the state
behind the join of the second one, and `m` that in front of it. -/
structure Together (seats : Slot → Seat) (code : String)
    (cfg : Server.RoomConfig) (sockets : Slot → Server.SocketRef)
    (ref : Server.RoomRef) (last : Slot) (m met : RoomManager) : Prop where
  /-- The code may be typed in pieces and in small letters. -/
  typed : ∀ (t : LobbyTexts) (lobby : Lobby) (pieces more : List (List UInt8)),
    t.serverUrl = (seats .p2).url → t.codeInput = [] →
      (∀ piece ∈ pieces, 0 ∉ piece) →
        pieces.flatten.map upper = asciiBytes code →
          (lobbyJoinRoom (seats .p2).os ((pieces ++ more).foldl
            (fun t piece => t.handleTextInput .enterCode piece) t) lobby
              (seats .p2).net).2.2 = (seats .p2).enters code .p2
  /-- Whatever is called in the meantime, the join is the first frame. -/
  introduced : ∀ slot (calls : List NetEvent), (∀ call ∈ calls, call.Keeps) →
    (Net.step (seats slot).os).Always
      ((seats slot).configured code slot).Introduced
      ((seats slot).configured code slot) (.connect none :: calls)
  meets : met.Meets ref cfg sockets
  alive : met.crashed = false
  sent : met.sent = m.sent ++ RoomManager.joinSends cfg sockets last true
  /-- The client reads the own slot off the message. -/
  told : ∀ slot (net : Net) (behind : List UInt8),
    (net.dispatchMessage (seats slot).os (terminated
      (Server.encodeMatchStart (startFields code slot))
        behind)).ws.matchInfo = ⟨slot.number, 0, 0⟩

/-- The code is all that the second player needs to know: once the room of the
code has been created, whoever of the two comes first, and whatever other rooms
do, both sit in it, each in the own slot, and the match starts. -/
theorem code_together {runtime : JsRuntime} {config : Server.RelayConfig}
    {expectedScore : Int → Int → R} {complaint : List Char → String}
    {players : String → Option Server.Player} {past : List Server.RelayEvent}
    {m : RoomManager}
    (reached : m = (RoomManager.relay runtime.withParser config expectedScore
      complaint).run (.initial players) past)
    {draws : Fin 6 → Fin 32} (isCode : code = codeText draws)
    (opens : m.Opens config code) {sockets : Slot → Server.SocketRef}
    (fresh : ∀ slot, m.Fresh (sockets slot))
    (apart : sockets .p1 ≠ sockets .p2) (seats : Slot → Seat)
    (allocates : ∀ slot call, (seats slot).os.allocates call = true)
    {arrivals : RoomManager.Arrivals} {created late : RoomManager}
    (isCreated : created = m.step runtime.withParser config expectedScore
      (.createRoom (roomJson code)))
    (undisturbed : arrivals.Undisturbed sockets
      (fun slot => (seats slot).join code slot) runtime.withParser code
      m.created.length (RoomManager.step runtime.withParser config
        expectedScore) created)
    (isLate : late = (RoomManager.step runtime.withParser config
      expectedScore).run created (arrivals.events sockets
        fun slot => (seats slot).join code slot)) :
    Together seats code (.ofJson (roomJson code) config.pingIntervalMs) sockets
      m.created.length arrivals.first.other late
      (late.step runtime.withParser config expectedScore
        (arrivals.join sockets (fun slot => (seats slot).join code slot)
          arrivals.first.other)) := by
  have six := length_codeText draws
  have simple := simple_codeText draws
  rw [← isCode] at six simple
  have settled := RoomManager.settled_of_reached reached
  have names := roomJson_names code config.pingIntervalMs
  have gathers := @RoomManager.Opens.gathers R _ _ _ runtime.withParser config
    expectedScore m code _ sockets opens settled.1 settled.2 (roomJson code)
    names fresh
  rw [← isCreated] at gathers
  have asks (slot : Slot) := (seats slot).asks runtime slot simple six
  obtain ⟨meets, alive, sent⟩ :=
    gathers.meets names apart asks undisturbed isLate
  refine ⟨fun t lobby pieces more address empty words same => ?_,
    fun slot calls keeps => ?_, meets, alive, sent,
    fun slot net behind => (dispatchMessage_start _ net code slot behind).1⟩
  · have length : (asciiBytes code).length = 6 := by
      rw [length_asciiBytes, six]
    have typed := LobbyTexts.typed_code length empty words same more
    rw [lobbyJoinRoom_enters typed six, foldl_handleTextInput_serverUrl,
      address]
  · obtain ⟨ids, idle⟩ := Net.configure_ids (some (seats slot).url)
      (asciiBytes code) (asciiBytes (playerId code slot)) slot.number
      (seats slot).net
    simp only [Ws.ids, Prod.mk.injEq] at ids
    have closed : ((seats slot).configured code slot).ws.hs ≠ .opened := by
      rw [Seat.configured, idle]
      exact WsHsState.noConfusion
    exact Net.introduced_always ids.2.2.2 closed ((seats slot).speaks code slot
      (allocates slot)) (List.forall_mem_cons.mpr ⟨trivial, keeps⟩)

end

def pairSockets : Slot → Server.SocketRef
  | .p1 => 3
  | .p2 => 4

def pairSeats (_ : Slot) : Seat := ⟨serverUrl, byteByByte, .initial⟩

def pairArrivals : RoomManager.Arrivals := ⟨.p2, [], [.closing 9], fun _ => 0⟩

def createdRelay : RoomManager :=
  emptyRelay.step (JsRuntime.ofTexts []).withParser oneRoom Server.evenScore
    (.createRoom (roomJson (codeText firstDraws)))

def lateRelay : RoomManager :=
  (RoomManager.step (JsRuntime.ofTexts []).withParser oneRoom
    Server.evenScore).run createdRelay (pairArrivals.events pairSockets
      fun slot => (pairSeats slot).join (codeText firstDraws) slot)

theorem emptyRelay_opens (room : String) : emptyRelay.Opens oneRoom room where
  running := rfl
  place := by decide
  isNew ref room held := by
    have none_created : emptyRelay.created[ref]? = none := List.getElem?_nil
    cases none_created.symm.trans held

theorem emptyRelay_fresh (slot : Slot) :
    emptyRelay.Fresh (pairSockets slot) :=
  ⟨rfl, Server.ReadyState.noConfusion⟩

theorem closing_alive {m : RoomManager} (alive : m.crashed = false)
    (ws : Server.SocketRef) :
    (m.step (JsRuntime.ofTexts []).withParser oneRoom Server.evenScore
      (.closing ws)).crashed = false := by
  rw [RoomManager.step, if_neg (by simp [alive]), RoomManager.handle]
  split
  next => exact alive
  next => exact alive

/-- Nobody's join stops the relay, and neither does the one who leaves. -/
theorem pairArrivals_alive {m : RoomManager} {ref : Server.RoomRef}
    {cfg : Server.RoomConfig} {room : String} {ids : Slot → String}
    (gathers : m.Gathers ref cfg pairSockets fun _ => false)
    (running : m.crashed = false) (names : cfg.Names room ids)
    {joins : Slot → List UInt8}
    (asks : Server.Asks (JsRuntime.ofTexts []).withParser room (ids .p2) .p2
      (joins .p2)) :
    ((RoomManager.step (JsRuntime.ofTexts []).withParser oneRoom
      Server.evenScore).run m
        (pairArrivals.events pairSockets joins)).crashed = false := by
  have events : pairArrivals.events pairSockets joins =
      [.message (pairSockets .p2) (joins .p2) 0, .closing 9] := rfl
  rw [events, Machine.run_cons, Machine.run_cons]
  generalize isNext : RoomManager.step _ oneRoom Server.evenScore m
    (.message _ _ 0) = next
  have joined := (gathers.join running names (by decide) (Eq.refl false) asks 0
    isNext.symm).2.1
  exact closing_alive joined 9

theorem pairArrivals_undisturbed {m : RoomManager} {ref : Server.RoomRef}
    {cfg : Server.RoomConfig} {room : String} {ids : Slot → String}
    (gathers : m.Gathers ref cfg pairSockets fun _ => false)
    (running : m.crashed = false) (names : cfg.Names room ids)
    {joins : Slot → List UInt8}
    (asks : Server.Asks (JsRuntime.ofTexts []).withParser room (ids .p2) .p2
      (joins .p2)) :
    pairArrivals.Undisturbed pairSockets joins
      (JsRuntime.ofTexts []).withParser room ref (RoomManager.step
        (JsRuntime.ofTexts []).withParser oneRoom Server.evenScore) m := by
  have aside (state : RoomManager) :
      state.Aside (JsRuntime.ofTexts []).withParser room ref pairSockets
        (.closing 9) := by
    intro slot
    cases slot with
    | p1 => decide
    | p2 => decide
  exact ⟨trivial, ⟨aside _, trivial⟩,
    pairArrivals_alive gathers running names asks⟩

theorem createdRelay_gathers {json : Json} {room : String}
    {ids : Slot → String}
    (names : (Server.RoomConfig.ofJson json oneRoom.pingIntervalMs).Names room
      ids) :
    (emptyRelay.step (JsRuntime.ofTexts []).withParser oneRoom
      Server.evenScore (.createRoom json)).Gathers 0
        (.ofJson json oneRoom.pingIntervalMs) pairSockets fun _ => false :=
  @RoomManager.Opens.gathers ℚ _ _ _ (JsRuntime.ofTexts []).withParser oneRoom
    Server.evenScore emptyRelay room _ pairSockets (emptyRelay_opens room)
    (RoomManager.joint_initial _) (RoomManager.placed_initial _) json names
    emptyRelay_fresh

theorem code_together_pair :
    Together pairSeats (codeText firstDraws)
      (.ofJson (roomJson (codeText firstDraws)) oneRoom.pingIntervalMs)
      pairSockets 0 .p1 lateRelay
      (lateRelay.step (JsRuntime.ofTexts []).withParser oneRoom
        Server.evenScore (pairArrivals.join pairSockets
          (fun slot => (pairSeats slot).join (codeText firstDraws) slot)
          .p1)) := by
  have reached : emptyRelay = (RoomManager.relay
      (JsRuntime.ofTexts []).withParser oneRoom Server.evenScore
        fun _ => "SyntaxError").run (.initial Server.noPlayers) [] := rfl
  have names := roomJson_names (codeText firstDraws) oneRoom.pingIntervalMs
  have undisturbed : pairArrivals.Undisturbed pairSockets
      (fun slot => (pairSeats slot).join (codeText firstDraws) slot)
      (JsRuntime.ofTexts []).withParser (codeText firstDraws)
      emptyRelay.created.length (RoomManager.step
        (JsRuntime.ofTexts []).withParser oneRoom Server.evenScore)
      createdRelay :=
    pairArrivals_undisturbed (createdRelay_gathers names) rfl names
      ((pairSeats .p2).asks (.ofTexts []) .p2 (simple_codeText firstDraws)
        (length_codeText firstDraws))
  exact code_together reached rfl (emptyRelay_opens _) emptyRelay_fresh
    (by decide)
    pairSeats (fun _ _ => rfl) rfl undisturbed rfl

end FuryClash.System
