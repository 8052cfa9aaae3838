import FuryClash.Server.RoomCreation
import FuryClash.System.RoomCode

namespace FuryClash.System

open FuryClash.Client
open FuryClash.Data
open FuryClash.Server (MatchResult MatchmakerConfig QueueCall QueueEntry
  Region RoomId RoomManager RoomRequest Ticket)

/-! The room of a match: what the matcher asks of the relay, what it announces,
and where that leads the two players. -/

/-- The body of `POST /rooms` as the relay parses it; `uuid` writes an id. -/
def requestJson (uuid : RoomId → String) (request : RoomRequest) : Json :=
  .object [("roomId", .string (uuid request.roomId)),
    ("p1Id", .string request.p1Id), ("p2Id", .string request.p2Id),
    ("p1Fighter", .nat request.p1Fighter),
    ("p2Fighter", .nat request.p2Fighter)]

def announced (result : MatchResult) : Slot → QueueEntry
  | .p1 => result.player1
  | .p2 => result.player2

def announcedJoin (uuid : RoomId → String) (result : MatchResult)
    (seats : Slot → Seat) (slot : Slot) : List UInt8 :=
  Net.joinPayload ((seats slot).net.configure (some (seats slot).url)
    (asciiBytes (uuid result.roomId))
    (asciiBytes (announced result slot).playerId) slot.number).ws

section

variable {config : MatchmakerConfig} {region : Region} {p1 p2 : QueueEntry}
  {oracle : Nat → (call : QueueCall) → call.Answer}

/-- The calls of `createMatch`, whatever they are answered. -/
def matchCalls (config : MatchmakerConfig) (region : Region)
    (p1 p2 : QueueEntry) (oracle : Nat → (call : QueueCall) → call.Answer) :
    List (Made QueueCall QueueCall.Answer) :=
  ((Server.Matcher.createMatch config p1 p2 region).trace oracle 0).1

def pairRequest (roomId : RoomId) (p1 p2 : QueueEntry) : RoomRequest where
  roomId := roomId
  p1Id := p1.playerId
  p2Id := p2.playerId
  p1Fighter := p1.fighterId
  p2Fighter := p2.fighterId

def Withdraws : QueueCall → Prop
  | .postRoom _ _ => False
  | .publish _ _ => False
  | _ => True

theorem matchCalls_eq (config : MatchmakerConfig) (region : Region)
    (p1 p2 : QueueEntry) (oracle : Nat → (call : QueueCall) → call.Answer) :
    ∃ roomId ok, ∃ withdrawals : List (Made QueueCall QueueCall.Answer),
      (∀ made ∈ withdrawals, Withdraws made.1) ∧
      matchCalls config region p1 p2 oracle =
        withdrawals ++ ⟨.postRoom (pairRequest roomId p1 p2)
          [p1.ticket, p2.ticket], ok⟩ ::
          ((if ok = true then
              Server.Matcher.announce config region p1 p2 roomId
            else pure ()).trace oracle 6).1 := by
  let roomId : RoomId := oracle 0 .uuidv4
  let ok : Bool := oracle 5 (.postRoom (pairRequest roomId p1 p2)
    [p1.ticket, p2.ticket])
  refine ⟨roomId, ok, _ :: _ :: _ :: _ :: _ :: [], ?_, rfl⟩
  simp only [List.forall_mem_cons]
  exact ⟨trivial, trivial, trivial, trivial, trivial, List.forall_mem_nil _⟩

theorem announce_calls (roomId : RoomId) :
    ((Server.Matcher.announce config region p1 p2 roomId).trace oracle 6).1 =
      [⟨.setMatchRoom roomId p1.playerId p2.playerId, ()⟩,
        ⟨.publish p1.playerId ⟨roomId, p1, p2,
          Server.relayEndpointForRegion region config.relayEndpoint⟩, ()⟩,
        ⟨.publish p2.playerId ⟨roomId, p1, p2,
          Server.relayEndpointForRegion region config.relayEndpoint⟩, ()⟩] :=
  rfl

theorem announced_asked {request : RoomRequest} {tickets : List Ticket}
    {answered : Bool}
    (asked : (⟨.postRoom request tickets, answered⟩ :
      Made QueueCall QueueCall.Answer) ∈
        matchCalls config region p1 p2 oracle)
    {listener : String} {result : MatchResult}
    (told : (⟨.publish listener result, ()⟩ :
      Made QueueCall QueueCall.Answer) ∈
        matchCalls config region p1 p2 oracle) :
    answered = true ∧
      (∃ slot, listener = (announced result slot).playerId) ∧
      request = pairRequest result.roomId (announced result .p1)
        (announced result .p2) := by
  obtain ⟨roomId, ok, withdrawals, withdraws, calls⟩ :=
    matchCalls_eq config region p1 p2 oracle
  rw [calls] at asked told
  have told_behind := (List.mem_append.mp told).resolve_left (withdraws _)
  have asked_behind := (List.mem_append.mp asked).resolve_left (withdraws _)
  cases ok with
  | false =>
      rcases List.mem_cons.mp told_behind with same | after
      · cases same
      · cases after
  | true =>
      rw [if_pos rfl, announce_calls] at told_behind asked_behind
      have isRequest : answered = true ∧
          request = pairRequest roomId p1 p2 := by
        rcases List.mem_cons.mp asked_behind with same | announcing
        · cases same
          exact ⟨rfl, rfl⟩
        · simp at announcing
      have isResult : (listener = p1.playerId ∨ listener = p2.playerId) ∧
          result = ⟨roomId, p1, p2,
            Server.relayEndpointForRegion region config.relayEndpoint⟩ := by
        simpa [or_and_right] using told_behind
      obtain ⟨isListener, rfl⟩ := isResult
      refine ⟨isRequest.1, ?_, isRequest.2⟩
      rcases isListener with first | second
      · exact ⟨.p1, first⟩
      · exact ⟨.p2, second⟩

end

structure Sendable (text : String) : Prop where
  simple : ∀ letter ∈ text.toList, Simple letter
  short : text.toList.length ≤ 63

theorem requestJson_names (uuid : RoomId → String) (result : MatchResult)
    (pingIntervalMs : Nat) :
    (Server.RoomConfig.ofJson (requestJson uuid (pairRequest result.roomId
      (announced result .p1) (announced result .p2))) pingIntervalMs).Names
        (uuid result.roomId) fun slot => (announced result slot).playerId := by
  refine ⟨rfl, fun slot => ?_⟩
  cases slot with
  | p1 => rfl
  | p2 => rfl

section

variable {R : Type} [Field R] [LinearOrder R] [FloorRing R]

/-- The two players of an announcement in the relay. `met` is the state behind
the join of the second one, and `m` that in front of it. -/
structure Matched (result : MatchResult) (cfg : Server.RoomConfig)
    (sockets : Slot → Server.SocketRef) (ref : Server.RoomRef) (last : Slot)
    (m met : RoomManager) : Prop where
  fighters : ∀ slot : Slot,
    cfg.fighterId (some (.number (.finite slot.number))) =
      some (.nat (announced result slot).fighterId)
  meets : met.Meets ref cfg sockets
  alive : met.crashed = false
  sent : met.sent = m.sent ++ RoomManager.joinSends cfg sockets last true

/-- An announcement leads its two players together: the relay has been asked
for the room of the announcement and has answered for it, and whoever of the
two comes first, both sit in that room in the end, each in the own slot, and
the match starts with the fighters they queued with. -/
theorem match_together {matcher : MatchmakerConfig} {region : Region}
    {p1 p2 : QueueEntry} {oracle : Nat → (call : QueueCall) → call.Answer}
    {request : RoomRequest} {tickets : List Ticket} {answered : Bool}
    (asked : (⟨.postRoom request tickets, answered⟩ :
      Made QueueCall QueueCall.Answer) ∈
        matchCalls matcher region p1 p2 oracle)
    {listener : String} {result : MatchResult}
    (told : (⟨.publish listener result, ()⟩ :
      Made QueueCall QueueCall.Answer) ∈
        matchCalls matcher region p1 p2 oracle)
    {uuid : RoomId → String} (room : Sendable (uuid result.roomId))
    (ids : ∀ slot, Sendable (announced result slot).playerId)
    {runtime : JsRuntime} {config : Server.RelayConfig}
    {expectedScore : Int → Int → R} {complaint : List Char → String}
    {players : String → Option Server.Player} {past : List Server.RelayEvent}
    {m : RoomManager}
    (reached : m = (RoomManager.relay runtime.withParser config expectedScore
      complaint).run (.initial players) past)
    (opens : m.Opens config (uuid result.roomId))
    {sockets : Slot → Server.SocketRef} (fresh : ∀ slot, m.Fresh (sockets slot))
    (apart : sockets .p1 ≠ sockets .p2) (seats : Slot → Seat)
    {arrivals : RoomManager.Arrivals} {created late : RoomManager}
    (isCreated : created = m.step runtime.withParser config expectedScore
      (.createRoom (requestJson uuid request)))
    (undisturbed : arrivals.Undisturbed sockets
      (announcedJoin uuid result seats) runtime.withParser
      (uuid result.roomId) m.created.length (RoomManager.step
        runtime.withParser config expectedScore) created)
    (isLate : late = (RoomManager.step runtime.withParser config
      expectedScore).run created (arrivals.events sockets
        (announcedJoin uuid result seats))) :
    (answered = true ∧
        (∃ slot, listener = (announced result slot).playerId) ∧
        request = pairRequest result.roomId (announced result .p1)
          (announced result .p2)) ∧
      Matched result (.ofJson (requestJson uuid request) config.pingIntervalMs)
        sockets m.created.length arrivals.first.other late
        (late.step runtime.withParser config expectedScore
          (arrivals.join sockets (announcedJoin uuid result seats)
            arrivals.first.other)) := by
  obtain ⟨isAnswered, isListener, rfl⟩ := announced_asked asked told
  have settled := RoomManager.settled_of_reached reached
  have names := requestJson_names uuid result config.pingIntervalMs
  have gathers := @RoomManager.Opens.gathers R _ _ _ runtime.withParser config
    expectedScore m (uuid result.roomId) _ sockets opens settled.1 settled.2
    (requestJson uuid (pairRequest result.roomId (announced result .p1)
      (announced result .p2))) names fresh
  rw [← isCreated] at gathers
  have asks (slot : Slot) := configured_asks (seats slot) runtime slot
    room.simple room.short (ids slot).simple (ids slot).short
  obtain ⟨meets, alive, sent⟩ :=
    gathers.meets names apart asks undisturbed isLate
  refine ⟨⟨isAnswered, isListener, rfl⟩, fun slot => ?_, meets, alive, sent⟩
  cases slot with
  | p1 => rfl
  | p2 => rfl

end

def pairUuid (_ : RoomId) : String := "0f-1a"

def matcherConfig : MatchmakerConfig := ⟨100, 10, 500, "ws://relay"⟩

def grantAll (_ : Nat) : (call : QueueCall) → call.Answer
  | .llen _ => 0
  | .metaExists _ => false
  | .findPlayer _ => none
  | .dateNow => 0
  | .zrank _ _ => none
  | .get _ => none
  | .zrangebyscore _ => []
  | .uuidv4 => 0
  | .postRoom _ _ => true
  | .zadd _ _ _ => ()
  | .set _ _ => ()
  | .zrem _ _ _ => ()
  | .del _ _ => ()
  | .expire _ => ()
  | .setMatchRoom _ _ _ => ()
  | .publish _ _ => ()

def pairResult : MatchResult :=
  ⟨0, Server.Matcher.queuedPlayer "a", Server.Matcher.queuedPlayer "b",
    "ws://relay"⟩

def pairAsked : RoomRequest :=
  pairRequest 0 (Server.Matcher.queuedPlayer "a")
    (Server.Matcher.queuedPlayer "b")

def askedRelay : RoomManager :=
  emptyRelay.step (JsRuntime.ofTexts []).withParser oneRoom Server.evenScore
    (.createRoom (requestJson pairUuid pairAsked))

def bothRelay : RoomManager :=
  (RoomManager.step (JsRuntime.ofTexts []).withParser oneRoom
    Server.evenScore).run askedRelay (pairArrivals.events pairSockets
      (announcedJoin pairUuid pairResult pairSeats))

theorem match_together_pair :
    (∃ slot, "b" = (announced pairResult slot).playerId) ∧
      Matched pairResult (.ofJson (requestJson pairUuid pairAsked)
        oneRoom.pingIntervalMs) pairSockets 0 .p1 bothRelay
        (bothRelay.step (JsRuntime.ofTexts []).withParser oneRoom
          Server.evenScore (pairArrivals.join pairSockets
            (announcedJoin pairUuid pairResult pairSeats) .p1)) := by
  have reached : emptyRelay = (RoomManager.relay
      (JsRuntime.ofTexts []).withParser oneRoom Server.evenScore
        fun _ => "SyntaxError").run (.initial Server.noPlayers) [] := rfl
  have sendable (text : String) (letters : ∀ letter ∈ text.toList,
      letter ∈ ['a', 'b', 'f', '0', '1', '-'])
      (short : text.toList.length ≤ 63) : Sendable text := by
    have plain : ∀ letter ∈ ['a', 'b', 'f', '0', '1', '-'], Plain letter :=
      forall_of_all (by decide)
    have ascii : ∀ letter ∈ ['a', 'b', 'f', '0', '1', '-'],
        letter.toNat < 128 := forall_of_all (by decide)
    exact ⟨fun letter within => ⟨plain letter (letters letter within),
      ascii letter (letters letter within)⟩, short⟩
  have room : Sendable (pairUuid pairResult.roomId) :=
    sendable _ (forall_of_all (by decide +kernel)) (by decide +kernel)
  have ids (slot : Slot) : Sendable (announced pairResult slot).playerId := by
    cases slot with
    | p1 =>
        exact sendable _ (forall_of_all (by decide +kernel))
          (by decide +kernel)
    | p2 =>
        exact sendable _ (forall_of_all (by decide +kernel))
          (by decide +kernel)
  have names := requestJson_names pairUuid pairResult oneRoom.pingIntervalMs
  have asks := configured_asks (pairSeats .p2) (.ofTexts []) .p2 room.simple
    room.short (ids .p2).simple (ids .p2).short
  have asked : (⟨.postRoom pairAsked [0, 0], true⟩ :
      Made QueueCall QueueCall.Answer) ∈ matchCalls matcherConfig .usEast
        (Server.Matcher.queuedPlayer "a") (Server.Matcher.queuedPlayer "b")
        grantAll := List.mem_of_getElem? (i := 5) rfl
  have told : (⟨.publish "b" pairResult, ()⟩ :
      Made QueueCall QueueCall.Answer) ∈ matchCalls matcherConfig .usEast
        (Server.Matcher.queuedPlayer "a") (Server.Matcher.queuedPlayer "b")
        grantAll := List.mem_of_getElem? (i := 8) rfl
  obtain ⟨⟨_, isListener, _⟩, together⟩ :=
    match_together asked told room ids reached (emptyRelay_opens _)
      emptyRelay_fresh (by decide) pairSeats rfl
      (pairArrivals_undisturbed (createdRelay_gathers names) rfl names asks)
      rfl
  exact ⟨isListener, together⟩

end FuryClash.System
