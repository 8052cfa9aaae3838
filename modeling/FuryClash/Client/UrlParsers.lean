import FuryClash.Client.WsClient

namespace FuryClash.Client

open FuryClash.Data

/-! The two parsers of the server's address: that of `http_client.c`, for the
request that creates a room, and `parse_ws_url`, for the connection to it. -/

/-- The address behind its scheme; one without a scheme is taken as it is. -/
def stripScheme (wsUrl : List UInt8) : List UInt8 :=
  if (asciiBytes "ws://").isPrefixOf wsUrl then wsUrl.drop 5
  else if (asciiBytes "wss://").isPrefixOf wsUrl then wsUrl.drop 6
  else wsUrl

def httpParseWsUrl (wsUrl : List UInt8) (hostOutLen : Nat) :
    Option (List UInt8 × Int) :=
  let p := stripScheme wsUrl
  let slash := p.idxOf? 47
  match p.idxOf? 58 with
  | some colon =>
      if slash.all fun at_slash => decide (colon < at_slash) then
        if colon = 0 ∨ hostOutLen ≤ colon then none
        else some (p.take colon, atoi (p.drop (colon + 1)))
      else
        let stop := slash.getD p.length
        if stop = 0 ∨ hostOutLen ≤ stop then none
        else some (p.take stop, 80)
  | none =>
      let stop := slash.getD p.length
      if stop = 0 ∨ hostOutLen ≤ stop then none
      else some (p.take stop, 80)

/-- What `http_post` is called with. -/
structure HttpPost where
  host : List UInt8
  port : Int
  path : List UInt8
  body : List UInt8

def roomBody (roomCode : List UInt8) : List UInt8 :=
  asciiBytes "\x7b\"roomId\":\"" ++ roomCode ++
    asciiBytes "\",\"p1Id\":\"" ++ roomCode ++
    asciiBytes "P1\",\"p2Id\":\"" ++ roomCode ++
    asciiBytes "P2\",\"p1Fighter\":0,\"p2Fighter\":0\x7d"

/-- What `lobby_create_room` leaves, and the request that it has sent. -/
structure RoomCreation where
  post : Option HttpPost
  lobby : Lobby
  errorMsg : List UInt8
  net : Net

/-- `httpPost` is the status that `http_post` returns. -/
def lobbyCreateRoom (os : Os) (httpPost : HttpPost → Int)
    (roomCode serverUrl : List UInt8) (lobby : Lobby) (net : Net) :
    RoomCreation :=
  match httpParseWsUrl serverUrl 128 with
  | none =>
      ⟨none, { lobby with sub := .role }, asciiBytes "Invalid server URL", net⟩
  | some (host, port) =>
      let post : HttpPost :=
        ⟨host, port, asciiBytes "/rooms", roomBody roomCode⟩
      let status := httpPost post
      if status = 200 ∨ status = 201 then
        let playerId := roomCode ++ asciiBytes "P1"
        let net := net.configure (some serverUrl) roomCode playerId 0
        ⟨some post, { lobby with isP1 := true, sub := .showCode }, [],
          net.connect os none⟩
      else
        ⟨some post, { lobby with sub := .role },
          asciiBytes ("Room creation failed (HTTP " ++ toString status ++ ")"),
          net⟩

def Net.DialsTo (os : Os) (host : List UInt8) (port : Int) (net : Net) : Prop :=
  ∃ before : Net, net = before.dial os ∧ before.ws.host = host ∧
    before.ws.port = port ∧ before.ws.state ≠ .error ∧
      before.ws.hasFd = false

/-- Both parsers find the same host and port in the address, or none; and the
client that has created a room with it connects to where the room is. -/
structure SameAddress (url : List UInt8) : Prop where
  parsers : httpParseWsUrl url 128 =
    (parseWsUrl url).map fun parts => (parts.1, parts.2.1)
  room : ∀ os httpPost roomCode lobby net post,
    (lobbyCreateRoom os httpPost roomCode url lobby net).post = some post →
      httpPost post = 200 ∨ httpPost post = 201 →
        (lobbyCreateRoom os httpPost roomCode url lobby net).net.DialsTo os
          post.host post.port

/-- The text in front of the first colon or slash. -/
def hostText (p : List UInt8) : List UInt8 :=
  p.takeWhile fun byte => byte != 58 && byte != 47

/-- The address begins with `ws://`, or has no host of a length that fits. -/
def WsOrNoHost (url : List UInt8) : Prop :=
  (asciiBytes "ws://").isPrefixOf url = true ∨
    hostText (stripScheme url) = [] ∨
      128 ≤ (hostText (stripScheme url)).length

def hostEnd (p : List UInt8) : Nat :=
  let stop := (p.idxOf? 47).getD p.length
  match p.idxOf? 58 with
  | some colon =>
      if (p.idxOf? 47).all fun at_slash => decide (colon < at_slash) then colon
      else stop
  | none => stop

theorem hostEnd_cons {byte : UInt8} (no_colon : byte ≠ 58)
    (no_slash : byte ≠ 47) (rest : List UInt8) :
    hostEnd (byte :: rest) = hostEnd rest + 1 := by
  have colon : ((byte :: rest).idxOf? 58) = (rest.idxOf? 58).map (· + 1) := by
    rw [List.idxOf?_cons, if_neg (by simpa using no_colon)]
  have slash : ((byte :: rest).idxOf? 47) = (rest.idxOf? 47).map (· + 1) := by
    rw [List.idxOf?_cons, if_neg (by simpa using no_slash)]
  rw [hostEnd, hostEnd, colon, slash]
  cases rest.idxOf? 58 with
  | none => cases rest.idxOf? 47 <;> rfl
  | some at_colon =>
      cases rest.idxOf? 47 with
      | none => rfl
      | some at_slash =>
          by_cases before : at_colon < at_slash
          · simp [before]
          · simp [before]

theorem hostText_length (p : List UInt8) :
    (hostText p).length = hostEnd p := by
  induction p with
  | nil => rfl
  | cons byte rest ih =>
      rw [hostText] at ih ⊢
      by_cases at_colon : byte = 58
      · rw [at_colon, hostEnd, List.idxOf?_cons, if_pos (by decide),
          List.idxOf?_cons, if_neg (by decide)]
        cases rest.idxOf? 47 <;> simp
      · by_cases at_slash : byte = 47
        · rw [at_slash, hostEnd, List.idxOf?_cons, if_neg (by decide),
            List.idxOf?_cons, if_pos (by decide)]
          cases rest.idxOf? 58 <;> simp
        · rw [hostEnd_cons at_colon at_slash,
            List.takeWhile_cons_of_pos (by simp [at_colon, at_slash]),
            List.length_cons, ih]

theorem httpParseWsUrl_eq_none_iff (url : List UInt8) (hostOutLen : Nat) :
    httpParseWsUrl url hostOutLen = none ↔
      hostText (stripScheme url) = [] ∨
        hostOutLen ≤ (hostText (stripScheme url)).length := by
  rw [← List.length_eq_zero_iff, hostText_length, httpParseWsUrl, hostEnd]
  dsimp only
  split
  next colon _ =>
    split
    next => simp [or_iff_not_imp_left]
    next => simp [or_iff_not_imp_left]
  next => simp [or_iff_not_imp_left]

theorem parseWsUrl_eq_none {url : List UInt8}
    (other : (asciiBytes "ws://").isPrefixOf url ≠ true) :
    parseWsUrl url = none := by
  rw [parseWsUrl, if_neg other]

/-- Behind `ws://` the parsers do the same. -/
theorem httpParseWsUrl_of_ws {url : List UInt8}
    (ws : (asciiBytes "ws://").isPrefixOf url = true) :
    httpParseWsUrl url 128 =
      (parseWsUrl url).map fun parts => (parts.1, parts.2.1) := by
  rw [httpParseWsUrl, parseWsUrl, stripScheme, if_pos ws, if_pos ws]
  dsimp only
  cases (url.drop 5).idxOf? 58 with
  | none =>
      dsimp only
      split <;> rfl
  | some colon =>
      dsimp only
      split
      next => split <;> rfl
      next => split <;> rfl

/-- The configured client dials the address that the second parser finds. -/
theorem Net.configure_connect_dialsTo (os : Os)
    {url host path : List UInt8} {port : Int}
    (parsed : parseWsUrl url = some (host, port, path))
    (roomId playerId : List UInt8) (slot : Int) (net : Net) :
    ((net.configure (some url) roomId playerId slot).connect os none).DialsTo
      os host port := by
  refine ⟨net.configure (some url) roomId playerId slot, ?_⟩
  rw [configure]
  simp only [parsed]
  exact ⟨rfl, rfl, rfl, NetState.noConfusion, rfl⟩

theorem sameAddress_iff_wsOrNoHost (url : List UInt8) :
    SameAddress url ↔ WsOrNoHost url := by
  rw [WsOrNoHost, ← httpParseWsUrl_eq_none_iff]
  constructor
  · intro same
    by_cases ws : (asciiBytes "ws://").isPrefixOf url = true
    · exact .inl ws
    · right
      rw [same.parsers, parseWsUrl_eq_none ws]
      rfl
  · intro ws_or_none
    have parsers : httpParseWsUrl url 128 =
        (parseWsUrl url).map fun parts => (parts.1, parts.2.1) := by
      by_cases ws : (asciiBytes "ws://").isPrefixOf url = true
      · exact httpParseWsUrl_of_ws ws
      · rw [ws_or_none.resolve_left ws, parseWsUrl_eq_none ws]
        rfl
    refine ⟨parsers, ?_⟩
    intro os httpPost roomCode lobby net post sent created
    rw [lobbyCreateRoom] at sent ⊢
    cases found : parseWsUrl url with
    | none =>
        rw [parsers, found] at sent
        cases sent
    | some parts =>
        obtain ⟨host, port, path⟩ := parts
        rw [found] at parsers
        rw [parsers] at sent ⊢
        dsimp only [Option.map_some] at sent ⊢
        split at sent
        next accepted =>
          cases sent
          rw [if_pos accepted]
          exact Net.configure_connect_dialsTo os found _ _ _ _
        next refused =>
          cases sent
          exact absurd created refused

theorem not_sameAddress_wss : ¬ SameAddress (asciiBytes "wss://h") := by
  intro same
  exact absurd same.parsers (by decide)

end FuryClash.Client
