import FuryClash.Client.ServerText
import FuryClash.Client.Session
import FuryClash.Client.WsFrame

namespace FuryClash.Client

open FuryClash.Data

/-! `net_client.c`: the connection, byte by byte. What the system calls return
is decided by `Os`, which is asked with the number of calls made so far. -/

def msgJoin : UInt8 := 0x01
def msgInput : UInt8 := 0x02
def msgPong : UInt8 := 0x03
def msgLoadout : UInt8 := 0x04
def msgWaiting : UInt8 := 0x10
def msgStart : UInt8 := 0x11
def msgInputBatch : UInt8 := 0x12
def msgMatchEnd : UInt8 := 0x13
def msgPing : UInt8 := 0x14
def msgError : UInt8 := 0x15
def msgServerLoadout : UInt8 := 0x20

inductive WsHsState where
  | idle
  | tcpConn
  | httpSent
  | opened
  | closed
  deriving DecidableEq

/-- `accepted` takes one byte and up to `more` others of those offered;
`failed` is any other error. -/
inductive SendResult where
  | accepted (more : Nat)
  | again
  | failed
  deriving DecidableEq

/-- `data` gives one byte and up to `more` others, as far as they have arrived
and there is room. -/
inductive RecvResult where
  | data (more : Nat)
  | again
  | failed
  | closed
  deriving DecidableEq

/-- `getaddrinfo`, `socket` and `connect`. -/
inductive DialResult where
  | noAddress
  | noSocket
  | connected
  | inProgress
  | refused
  deriving DecidableEq

/-- `select` and `getsockopt`. -/
inductive TcpResult where
  | pending
  | failed
  | writable
  deriving DecidableEq

/-- `stream` is all that the server sends on the connection. -/
structure Os where
  send : Nat → SendResult
  recv : Nat → RecvResult
  dial : Nat → DialResult
  tcp : Nat → TcpResult
  stream : Nat → List UInt8
  ticks : Nat → UInt32
  allocates : Nat → Bool

structure NetEndInfo where
  winnerSlot : Int
  p1RoundsWon : Int
  p2RoundsWon : Int
  deriving DecidableEq

/-- `g_ws`; `hasFd` is `fd >= 0`. -/
structure Ws where
  hasFd : Bool
  hs : WsHsState
  host : List UInt8
  port : Int
  path : List UInt8
  roomId : List UInt8
  playerId : List UInt8
  slot : Int
  configured : Bool
  rbuf : RecvBuf
  state : NetState
  matchInfo : NetMatchInfo
  matchRoomId : List UInt8
  endInfo : NetEndInfo
  networkMode : Bool
  opponentLoadout : Int

/-- The static initial value; `fd` is 0. -/
def Ws.zero : Ws where
  hasFd := true
  hs := .idle
  host := []
  port := 0
  path := []
  roomId := []
  playerId := []
  slot := 0
  configured := false
  rbuf := .empty
  state := .idle
  matchInfo := ⟨0, 0, 0⟩
  matchRoomId := []
  endInfo := ⟨0, 0, 0⟩
  networkMode := false
  opponentLoadout := 0

/-- What the code does, step by step: assignments to `state`, bytes that
`send` has taken, runs of the frame parser with the number of bytes of the
stream that lie before it, frames handed to the opcode switch, calls of
`dispatch_message` and of `rollback_confirm_remote`. -/
inductive NetEffect where
  | state (state : NetState)
  | sent (bytes : List UInt8)
  | frame (frame : List UInt8) (accepted : Nat)
  | parse (left : Nat) (state : NetState)
  | handed (opcode : UInt8) (payload : List UInt8)
  | dispatched (payload : List UInt8)
  | confirmRemote (frame : Int) (input : UInt16)
  /-- `net_client_configure` or `net_client_disconnect`. -/
  | reset
  deriving DecidableEq

/-- `incoming` is what of the stream has not been received. -/
structure Net where
  ws : Ws
  incoming : List UInt8
  calls : Nat
  trace : List NetEffect

namespace Net

def initial : Net := ⟨.zero, [], 0, []⟩

def effect (effect : NetEffect) (net : Net) : Net :=
  { net with trace := net.trace ++ [effect] }

def setState (state : NetState) (net : Net) : Net :=
  { net with ws := { net.ws with state := state } }.effect (.state state)

def setRbuf (rbuf : RecvBuf) (net : Net) : Net :=
  { net with ws := { net.ws with rbuf := rbuf } }

variable (os : Os)

def call (net : Net) : Net := { net with calls := net.calls + 1 }

/-- The system call; `accepted` in its result is the number of bytes. -/
def send (bytes : List UInt8) (net : Net) : SendResult × Net :=
  match os.send net.calls with
  | .accepted more =>
      let n := min (more + 1) bytes.length
      (.accepted n, net.call.effect (.sent (bytes.take n)))
  | .again => (.again, net.call)
  | .failed => (.failed, net.call)

/-- The loop of `ws_send`, and the bytes that it leaves. -/
def sendLoop : (turns : Nat) → List UInt8 → Net → List UInt8 × Net
  | 0, rest, net => (rest, net)
  | turns + 1, rest, net =>
      if rest = [] then (rest, net)
      else
        match net.send os rest with
        | (.accepted n, net) => sendLoop turns (rest.drop n) net
        | (.again, net) => (rest, net)
        | (.failed, net) => (rest, net.setState .error)

def wsSend (payload : List UInt8) (net : Net) : Net :=
  if net.ws.hasFd = false ∨ net.ws.hs ≠ .opened then net
  else if payload.length + 16 > wsSendBuf + 16 then net
  else
    let frame := wsEncodeFrame (os.ticks net.calls) payload
    let (rest, net) := net.sendLoop os frame.length frame
    net.effect (.frame frame (frame.length - rest.length))

def httpUpgradeRequest (ws : Ws) : List UInt8 :=
  asciiBytes "GET " ++ ws.path ++ asciiBytes " HTTP/1.1\r\nHost: " ++ ws.host ++
    asciiBytes (":" ++ toString ws.port ++ "\r\nUpgrade: websocket\r\n" ++
      "Connection: Upgrade\r\nSec-WebSocket-Key: dGhlIHNhbXBsZSBub25jZQ==" ++
      "\r\nSec-WebSocket-Version: 13\r\n\r\n")

def sendHttpUpgrade (net : Net) : Net :=
  match net.send os (httpUpgradeRequest net.ws) with
  | (.accepted _, net) => net
  | (_, net) => net.setState .error

def joinPayload (ws : Ws) : List UInt8 :=
  msgJoin :: (asciiBytes "\x7b\"roomId\":\"" ++ ws.roomId ++
    asciiBytes "\",\"playerId\":\"" ++ ws.playerId ++
    asciiBytes ("\",\"token\":\"dev\",\"slot\":" ++ toString ws.slot ++ "\x7d"))

def sendClientJoin (net : Net) : Net :=
  if os.allocates net.calls then net.wsSend os (joinPayload net.ws) else net

end Net

/-- A message in the receive buffer: `memory` from its first byte on, of which
`room` bytes belong to the buffer and `plen` to the message. -/
structure Payload where
  memory : Nat → UInt8
  room : Nat
  plen : Nat

namespace Payload

def bytes (payload : Payload) : List UInt8 :=
  (List.range payload.plen).map payload.memory

def json (payload : Payload) : List UInt8 :=
  cString (fun i => payload.memory (i + 1)) (payload.room - 1)

def entry (payload : Payload) (p : Nat) : Int × UInt16 :=
  let b (i : Nat) := (payload.memory (p + i)).toUInt32
  let frame := b 0 ||| b 1 <<< 8 ||| b 2 <<< 16 ||| b 3 <<< 24
  (toInt frame.toNat,
    (payload.memory (p + 4)).toUInt16 |||
      (payload.memory (p + 5)).toUInt16 <<< 8)

end Payload

namespace Net

variable (os : Os)

def confirmEntries (payload : Payload) : (count p : Nat) → Net → Net
  | 0, _, net => net
  | count + 1, p, net =>
      let (frame, input) := payload.entry p
      confirmEntries payload count (p + 6)
        (net.effect (.confirmRemote frame input))

def dispatchMessage (payload : Payload) (net : Net) : Net :=
  let net := net.effect (.dispatched payload.bytes)
  if payload.plen < 1 then net
  else
    let type := payload.memory 0
    if type = msgWaiting then net.setState .waiting
    else if type = msgStart then
      { net with ws := { net.ws with
          matchInfo := ⟨jsonInt payload.json "yourSlot" 0,
            jsonInt payload.json "p1Fighter" 0,
            jsonInt payload.json "p2Fighter" 1⟩
          matchRoomId :=
            (jsonRoomId payload.json).getD net.ws.matchRoomId } }.setState
        .ready
    else if type = msgInputBatch then
      if payload.plen < 4 then net
      else
        let count := (payload.memory 3).toNat
        let need := 4 + count * 6
        if payload.plen < need then net
        else net.confirmEntries payload count 4
    else if type = msgPing then
      if payload.plen < 9 then net
      else
        net.wsSend os
          (msgPong :: (List.range 8).map fun i => payload.memory (i + 1))
    else if type = msgMatchEnd then
      { net with ws := { net.ws with
          endInfo := ⟨jsonInt payload.json "winnerSlot" (-1),
            jsonInt payload.json "p1RoundsWon" 0,
            jsonInt payload.json "p2RoundsWon" 0⟩ } }.setState .ended
    else if type = msgError then net.setState .error
    else if type = msgServerLoadout then
      if payload.plen ≥ 2 then
        { net with ws := { net.ws with
            opponentLoadout := (payload.memory 1).toNat } }
      else net
    -- `MSG_DISCONNECT`, `MSG_RECONNECT` and unknown types are only logged.
    else net

/-- The switch over the opcodes. -/
def handleFrame (opcode : UInt8) (payload : Payload) (net : Net) : Net :=
  let net := net.effect (.handed opcode payload.bytes)
  if opcode = 0x01 ∨ opcode = 0x02 then net.dispatchMessage os payload
  else if opcode = 0x08 then net.setState .error
  else if opcode = 0x09 then (net.send os [0x8A, 0x80, 0, 0, 0, 0]).2
  else net

def frameLoop : (turns : Nat) → Net → Net
  | 0, net => net
  | turns + 1, net =>
      if net.ws.rbuf.bytes = [] then net
      else
        let net := net.effect
          (.parse (net.ws.rbuf.bytes.length + net.incoming.length)
            net.ws.state)
        match wsParseFrame net.ws.rbuf with
        | (.incomplete, rbuf) => net.setRbuf rbuf
        | (.protocolError, rbuf) => (net.setRbuf rbuf).setState .error
        | (.frame opcode offset plen consumed, rbuf) =>
            let payload : Payload :=
              ⟨fun i => rbuf.memory (offset + i), wsRecvBuf - offset, plen⟩
            let net := (net.setRbuf rbuf).handleFrame os opcode payload
            let net := net.setRbuf (net.ws.rbuf.consume consumed)
            if net.ws.state = .error then net else frameLoop turns net

/-- Each turn that goes on takes a byte at least out of the buffer. -/
def processFrames (net : Net) : Net :=
  if net.ws.hs ≠ .opened then net
  else net.frameLoop os net.ws.rbuf.bytes.length

end Net

/-- The end of the HTTP headers: behind the first `\r\n\r\n`. -/
def headerEnd : List UInt8 → Option Nat
  | [] => none
  | byte :: rest =>
      if [13, 10, 13, 10].isPrefixOf (byte :: rest) then some 4
      else (headerEnd rest).map (· + 1)

def got101 (header : List UInt8) : Bool :=
  (afterPattern (asciiBytes "101") header).isSome

namespace Net

variable (os : Os)

def openWs (hdrEnd : Nat) (net : Net) : Net :=
  let net := net.setRbuf (net.ws.rbuf.consume hdrEnd)
  let net := { net with ws := { net.ws with hs := .opened } }
  (net.sendClientJoin os).setState .waiting

/-- From the bytes that `recv` has given on. -/
def receiveData (data : List UInt8) (net : Net) : Net :=
  let net := net.setRbuf (net.ws.rbuf.append data)
  if net.ws.hs = .httpSent then
    match headerEnd net.ws.rbuf.bytes with
    | none => net
    | some hdrEnd =>
        if got101 (net.ws.rbuf.bytes.take hdrEnd) then
          (net.openWs os hdrEnd).processFrames os
        else net.setState .error
  else net.processFrames os

def finishConnect (net : Net) : Net :=
  match os.tcp net.calls with
  | .pending => net.call
  | .failed => net.call.setState .error
  | .writable =>
      let net := net.call.sendHttpUpgrade os
      { net with ws := { net.ws with hs := .httpSent } }

def recvData (more : Nat) (net : Net) : List UInt8 :=
  net.incoming.take (min (more + 1) net.ws.rbuf.avail)

def receive (net : Net) : Net :=
  if net.ws.configured = false ∨ net.ws.hasFd = false then net
  else if net.ws.hs = .tcpConn then net.finishConnect os
  else if net.ws.rbuf.avail = 0 then net.setRbuf net.ws.rbuf.reset
  else
    match os.recv net.calls with
    | .data more =>
        let data := net.recvData more
        if data = [] then net.call
        else
          { net.call with
            incoming := net.incoming.drop data.length }.receiveData os data
    | .again => net.call
    | .failed => net.call.setState .error
    | .closed => net.call.setState .error

def inputPayload (frame : Int) (input : UInt16) : List UInt8 :=
  let frame := (frame % 2 ^ 32).toNat
  let seq := frame % 2 ^ 16
  [msgInput, .ofNat (seq % 256), .ofNat (seq / 256), .ofNat (frame % 256),
    .ofNat (frame / 2 ^ 8 % 256), .ofNat (frame / 2 ^ 16 % 256),
    .ofNat (frame / 2 ^ 24 % 256), .ofNat (input.toNat % 256),
    .ofNat (input.toNat / 256)]

def sendInput (frame : Int) (input : UInt16) (net : Net) : Net :=
  if net.ws.state ≠ .fighting ∧ net.ws.state ≠ .ready then net
  else if net.ws.hs ≠ .opened then net
  else net.wsSend os (inputPayload frame input)

def sendLoadout (loadout : Int) (net : Net) : Net :=
  if net.ws.hs ≠ .opened then net
  else net.wsSend os [msgLoadout, .ofNat (loadout % 256).toNat]

def ackStart (net : Net) : Net :=
  if net.ws.state = .ready then net.setState .fighting else net

end Net

/-- `atoi`; an `int` holds the value as long as it is below 2^31. -/
def atoi (text : List UInt8) : Int :=
  let p := text.dropWhile fun byte => byte = 32 || (9 ≤ byte && byte ≤ 13)
  match p with
  | 45 :: rest => -digits 0 rest
  | 43 :: rest => digits 0 rest
  | _ => digits 0 p

/-- Host, port and path; both buffers have 128 bytes. -/
def parseWsUrl (url : List UInt8) : Option (List UInt8 × Int × List UInt8) :=
  if (asciiBytes "ws://").isPrefixOf url then
    let p := url.drop 5
    let slash := p.idxOf? 47
    let path := match slash with
      | some at_slash => (p.drop at_slash).take 127
      | none => [47]
    match p.idxOf? 58 with
    | some colon =>
        if slash.all fun at_slash => decide (colon < at_slash) then
          if colon = 0 ∨ 128 ≤ colon then none
          else some (p.take colon, atoi (p.drop (colon + 1)), path)
        else
          let stop := slash.getD p.length
          if stop = 0 ∨ 128 ≤ stop then none
          else some (p.take stop, 80, path)
    | none =>
        let stop := slash.getD p.length
        if stop = 0 ∨ 128 ≤ stop then none
        else some (p.take stop, 80, path)
  else none

namespace Net

variable (os : Os)

def setUrl (url : List UInt8 × Int × List UInt8) (net : Net) : Net :=
  { net with ws := { net.ws with
      host := url.1, port := url.2.1, path := url.2.2 } }

def configure (url : Option (List UInt8)) (roomId playerId : List UInt8)
    (slot : Int) (net : Net) : Net :=
  let net := { net with
    ws := { Ws.zero with
      hasFd := false
      networkMode := true
      opponentLoadout := -1
      roomId := roomId.take 63
      playerId := playerId.take 63
      slot := slot
      configured := true } }.effect .reset
  match url with
  | none => net
  | some url =>
      match parseWsUrl url with
      | none => net.setState .error
      | some parts => net.setUrl parts

def dial (net : Net) : Net :=
  if net.ws.state = .error ∨ net.ws.hasFd then net
  else
    let dialled := net.call
    match os.dial net.calls with
    | .noAddress => dialled.setState .error
    | .noSocket => dialled.setState .error
    | .connected =>
        let net := { dialled with
          ws := { dialled.ws with hasFd := true }
          incoming := os.stream net.calls }.setState .connecting
        let net := net.sendHttpUpgrade os
        { net with ws := { net.ws with hs := .httpSent } }
    | .inProgress =>
        let net := { dialled with
          ws := { dialled.ws with hasFd := true }
          incoming := os.stream net.calls }.setState .connecting
        { net with ws := { net.ws with hs := .tcpConn } }
    | .refused => (dialled.setState .connecting).setState .error

def connect (url : Option (List UInt8)) (net : Net) : Net :=
  if net.ws.configured = false then (net.configure url [] [] 0).dial os
  else
    match url with
    | some (byte :: rest) =>
        match parseWsUrl (byte :: rest) with
        | none => net.setState .error
        | some parts => (net.setUrl parts).dial os
    | _ => net.dial os

def disconnect (net : Net) : Net :=
  let net := if net.ws.hasFd then
      let net := (net.send os [0x88, 0x80, 0, 0, 0, 0]).2
      { net with ws := { net.ws with hasFd := false } }
    else net
  { net with ws := { net.ws with hs := .closed, state := .idle } }.effect
    .reset

end Net

inductive NetEvent where
  | configure (url : Option (List UInt8)) (roomId playerId : List UInt8)
      (slot : Int)
  | connect (url : Option (List UInt8))
  | receive
  | sendInput (frame : Int) (input : UInt16)
  | sendLoadout (loadout : Int)
  | ackStart
  | disconnect

def Net.step (os : Os) : Machine Net NetEvent
  | net, .configure url roomId playerId slot =>
      net.configure url roomId playerId slot
  | net, .connect url => net.connect os url
  | net, .receive => net.receive os
  | net, .sendInput frame input => net.sendInput os frame input
  | net, .sendLoadout loadout => net.sendLoadout os loadout
  | net, .ackStart => net.ackStart
  | net, .disconnect => net.disconnect os

end FuryClash.Client
