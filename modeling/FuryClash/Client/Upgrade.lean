import FuryClash.Client.Chunks

namespace FuryClash.Client

open FuryClash.Data

/-! Any answer to the upgrade request, however `recv` splits it. The client
holds it in blocks of `WS_RECV_BUF` bytes: a full buffer is emptied. -/

/-- The text before the first `\r\n`. -/
def statusLine : List UInt8 → List UInt8
  | [] => []
  | byte :: rest =>
      if [13, 10].isPrefixOf (byte :: rest) then []
      else byte :: statusLine rest

/-- `NNN` of `HTTP/x.y NNN ...`. -/
def statusCode (response : List UInt8) : Option Nat :=
  let line := statusLine response
  if (asciiBytes "HTTP/").isPrefixOf line then
    match line.dropWhile fun byte => byte != 32 with
    | _ :: a :: b :: c :: reason =>
        if [a, b, c].all isDigit && reason.head?.all (· == 32) then
          some ((a.toNat - 48) * 100 + (b.toNat - 48) * 10 + (c.toNat - 48))
        else none
    | _ => none
  else none

def block (response : List UInt8) (k : Nat) : List UInt8 :=
  (response.drop (k * wsRecvBuf)).take wsRecvBuf

/-- `101` stands in front of the end of the first blank line. -/
def Opens (bytes : List UInt8) : Prop :=
  ∃ hdrEnd, headerEnd bytes = some hdrEnd ∧
    got101 (bytes.take hdrEnd) = true

/-- The blank line that ends the headers lies in one block. -/
def EndsInBlock (response : List UInt8) : Prop :=
  ∀ hdrEnd, headerEnd response = some hdrEnd →
    (hdrEnd - 4) / wsRecvBuf = (hdrEnd - 1) / wsRecvBuf

namespace Net

/-- The connection is open only if the status is 101; with another status, it
is an error once the headers have been received. -/
structure JudgesStatus (response : List UInt8) (net : Net) : Prop where
  opened : net.ws.hs = .opened → statusCode response = some 101
  refused : ∀ code hdrEnd, statusCode response = some code → code ≠ 101 →
    headerEnd response = some hdrEnd →
      net.incoming.length + hdrEnd ≤ response.length → net.ws.state = .error

/-- The first `n` bytes of a block have been received. -/
structure Upgrading (response : List UInt8) (k n : Nat) (net : Net) :
    Prop where
  configured : net.ws.configured = true
  hasFd : net.ws.hasFd = true
  hs : net.ws.hs = .httpSent
  held : net.ws.rbuf.bytes = (response.drop (k * wsRecvBuf)).take n
  incoming : net.incoming = response.drop (k * wsRecvBuf + n)
  within : k * wsRecvBuf + n ≤ response.length

end Net

/-- Every split, with any calls of the game in between. -/
def AcceptsOnly101 (response : List UInt8) : Prop :=
  ∀ os net events, Net.AwaitsUpgrade response net →
    (∀ event ∈ events, NetEvent.Plays event) →
      (Net.step os).Always (Net.JudgesStatus response) net events

variable {bytes response : List UInt8} {hdrEnd k m n : Nat}

theorem headerEnd_take (found : headerEnd bytes = some hdrEnd)
    (enough : hdrEnd ≤ n) : headerEnd (bytes.take n) = some hdrEnd := by
  induction bytes generalizing hdrEnd n with
  | nil => cases found
  | cons byte rest ih =>
      have bounds := headerEnd_bounds found
      have same : [13, 10, 13, 10].isPrefixOf ((byte :: rest).take n) =
          [13, 10, 13, 10].isPrefixOf (byte :: rest) := by
        rw [Bool.eq_iff_iff, List.isPrefixOf_iff_prefix,
          List.isPrefixOf_iff_prefix, List.prefix_take_iff]
        exact and_iff_left (bounds.1.trans enough)
      cases n with
      | zero => omega
      | succ n =>
          rw [List.take_succ_cons] at same ⊢
          rw [headerEnd] at found ⊢
          rw [same]
          split at found
          next here =>
            rw [if_pos here]
            exact found
          next elsewhere =>
            obtain ⟨earlier, later, rfl⟩ := Option.map_eq_some_iff.mp found
            rw [if_neg elsewhere, ih later (by omega)]
            rfl

theorem headerEnd_drop (found : headerEnd bytes = some hdrEnd)
    (front : m + 4 ≤ hdrEnd) :
    headerEnd (bytes.drop m) = some (hdrEnd - m) := by
  induction m generalizing bytes hdrEnd with
  | zero => exact found
  | succ m ih =>
      cases bytes with
      | nil => cases found
      | cons byte rest =>
          rw [headerEnd] at found
          split at found
          next =>
            cases found
            omega
          next =>
            obtain ⟨earlier, later, rfl⟩ := Option.map_eq_some_iff.mp found
            rw [List.drop_succ_cons, ih later (by omega)]
            congr 1
            omega

/-- An end that is found in what is held of a block is the block's. -/
theorem opens_block {held : List UInt8} (front : held <+: block response k)
    (opens : Opens held) : Opens (block response k) := by
  obtain ⟨hdrEnd, found, got⟩ := opens
  obtain ⟨more, whole⟩ := front
  refine ⟨hdrEnd, ?_, ?_⟩
  · rw [← whole]
    exact headerEnd_append found more
  · rw [← whole, List.take_append_of_le_length (headerEnd_bounds found).2]
    exact got

/-- A blank line in one block that ends behind the start of this block begins
there. -/
theorem begins_in_block
    (inBlock : (hdrEnd - 4) / wsRecvBuf = (hdrEnd - 1) / wsRecvBuf)
    (four : 4 ≤ hdrEnd) (later : k * wsRecvBuf < hdrEnd)
    (sooner : hdrEnd ≤ k * wsRecvBuf + wsRecvBuf) :
    k * wsRecvBuf + 4 ≤ hdrEnd := by
  simp only [wsRecvBuf] at *
  omega

/-- When the headers have arrived, their end is in what is held. -/
theorem headerEnd_held (ends : headerEnd response = some hdrEnd)
    (inBlock : k * wsRecvBuf + 4 ≤ hdrEnd)
    (there : hdrEnd ≤ k * wsRecvBuf + n) :
    headerEnd ((response.drop (k * wsRecvBuf)).take n) =
      some (hdrEnd - k * wsRecvBuf) :=
  headerEnd_take (headerEnd_drop ends inBlock) (by omega)

namespace Net

variable {os : Os} {net : Net} {data : List UInt8}

theorem Upgrading.length (upgrading : net.Upgrading response k n) :
    net.ws.rbuf.bytes.length = n := by
  have within := upgrading.within
  rw [upgrading.held, List.length_take, List.length_drop]
  omega

theorem Upgrading.fits (upgrading : net.Upgrading response k n) :
    n ≤ wsRecvBuf := by
  rw [← upgrading.length]
  exact net.ws.rbuf.fits

theorem Upgrading.prefix_block (upgrading : net.Upgrading response k n) :
    (response.drop (k * wsRecvBuf)).take n <+: block response k :=
  List.take_prefix_take_left upgrading.fits

/-- A full buffer is emptied for the next block. -/
theorem Upgrading.reset (upgrading : net.Upgrading response k wsRecvBuf) :
    (net.setRbuf net.ws.rbuf.reset).Upgrading response (k + 1) 0 where
  configured := upgrading.configured
  hasFd := upgrading.hasFd
  hs := upgrading.hs
  held := rfl
  incoming := by
    rw [Nat.add_zero, Nat.succ_mul]
    exact upgrading.incoming
  within := by
    rw [Nat.add_zero, Nat.succ_mul]
    exact upgrading.within

/-- The bytes that arrive, before they are looked at. -/
theorem Upgrading.taking (upgrading : net.Upgrading response k n)
    (receives : net.Receives os data) :
    ((net.taking data).setRbuf (net.ws.rbuf.append data)).Upgrading response k
      (n + data.length) := by
  obtain ⟨arriving, filled⟩ := receives.split
  rw [upgrading.incoming] at arriving
  have there : k * wsRecvBuf + (n + data.length) ≤ response.length := by
    have length := congrArg List.length arriving
    have within := upgrading.within
    rw [List.length_drop, List.length_append] at length
    omega
  refine ⟨upgrading.configured, upgrading.hasFd, upgrading.hs, ?_, ?_, there⟩
  · change (net.ws.rbuf.append data).bytes = _
    have behind : ((response.drop (k * wsRecvBuf)).drop n).take data.length =
        data := by
      rw [List.drop_drop, arriving]
      exact List.take_left
    rw [filled, upgrading.held, List.take_add, behind]
  · change net.incoming.drop data.length = _
    rw [upgrading.incoming, List.drop_drop, Nat.add_assoc]

theorem processFrames_hs (os : Os) (net : Net) :
    (net.processFrames os).ws.hs = net.ws.hs := by
  rw [processFrames]
  split
  next => rfl
  next => exact (frameLoop_link os net _).1

theorem Upgrading.received (upgrading : net.Upgrading response k n)
    (receives : net.Receives os data) :
    let held := (response.drop (k * wsRecvBuf)).take (n + data.length)
    (net.receive os).Upgrading response k (n + data.length) ∧
        (net.receive os).ws.state =
          (if headerEnd held = none then net.ws.state else .error) ∧
        ¬ Opens held ∨
      Opens held ∧ (net.receive os).ws.hs = .opened := by
  intro held
  have taken := upgrading.taking receives
  have isHeld : (net.ws.rbuf.append data).bytes = held := taken.held
  cases found : headerEnd held with
  | none =>
      have waits : net.receive os =
          (net.taking data).setRbuf (net.ws.rbuf.append data) := by
        rw [receives.receive, receiveData]
        split
        next =>
          split
          next => rfl
          next hdrEnd found' => cases (isHeld ▸ found).symm.trans found'
        next opened => exact absurd upgrading.hs opened
      rw [waits, if_pos rfl]
      refine .inl ⟨taken, rfl, ?_⟩
      rintro ⟨hdrEnd, found', _⟩
      cases found.symm.trans found'
  | some hdrEnd =>
      have found' : headerEnd (net.ws.rbuf.append data).bytes = some hdrEnd :=
        isHeld ▸ found
      by_cases got : got101 (held.take hdrEnd) = true
      · have got' : got101 ((net.ws.rbuf.append data).bytes.take hdrEnd) =
            true := isHeld ▸ got
        refine .inr ⟨⟨hdrEnd, found, got⟩, ?_⟩
        rw [receives.upgrade upgrading.hs found' got', processFrames_hs]
        exact (Within.upgrade os data hdrEnd net).hs
      · have refuses : net.receive os = ((net.taking data).setRbuf
            (net.ws.rbuf.append data)).setState .error := by
          rw [receives.receive, receiveData]
          split
          next =>
            split
            next none_found => cases none_found.symm.trans found'
            next again found_again =>
              cases found_again.symm.trans found'
              exact if_neg (isHeld ▸ got)
          next opened => exact absurd upgrading.hs opened
        rw [refuses, if_neg (Option.some_ne_none hdrEnd)]
        refine .inl ⟨⟨taken.configured, taken.hasFd, taken.hs, taken.held,
          taken.incoming, taken.within⟩, rfl, ?_⟩
        rintro ⟨again, found_again, got_again⟩
        cases found.symm.trans found_again
        exact got got_again

/-- Between two calls: with the headers, the error has come. -/
def Refusing (response : List UInt8) (net : Net) : Prop :=
  ∃ k n, net.Upgrading response k n ∧
    (EndsInBlock response → ∀ hdrEnd, headerEnd response = some hdrEnd →
      hdrEnd ≤ k * wsRecvBuf + n → net.ws.state = .error)

theorem AwaitsUpgrade.upgrading (awaits : net.AwaitsUpgrade response) :
    net.Upgrading response 0 0 := by
  refine ⟨awaits.configured, awaits.hasFd, awaits.hs, awaits.rbuf, ?_, ?_⟩
  · rw [awaits.incoming]
    simp
  · omega

theorem AwaitsUpgrade.refusing (awaits : net.AwaitsUpgrade response) :
    net.Refusing response := by
  refine ⟨0, 0, awaits.upgrading, ?_⟩
  intro _ hdrEnd ends there
  have bounds := headerEnd_bounds ends
  omega

theorem Upgrading.of_state {net' : Net}
    (upgrading : net.Upgrading response k n) (same : Within net net') :
    net'.Upgrading response k n where
  configured := same.configured.trans upgrading.configured
  hasFd := same.hasFd.trans upgrading.hasFd
  hs := same.hs.trans upgrading.hs
  held := by rw [same.rbuf, upgrading.held]
  incoming := same.incoming.trans upgrading.incoming
  within := upgrading.within

theorem Refusing.receive (closed : ∀ k, ¬ Opens (block response k))
    (refusing : net.Refusing response) : (net.receive os).Refusing response := by
  obtain ⟨k, n, upgrading, error⟩ := refusing
  have way := receive_cases os net
  generalize called : net.receive os = after at way
  cases way with
  | absent => exact ⟨k, n, upgrading, error⟩
  | connecting connecting => cases upgrading.hs.symm.trans connecting
  | full full =>
      have whole : n = wsRecvBuf := by
        have fits := upgrading.fits
        have length := upgrading.length
        rw [RecvBuf.avail] at full
        omega
      subst whole
      refine ⟨k + 1, 0, upgrading.reset, ?_⟩
      intro inBlock hdrEnd ends there
      refine error inBlock hdrEnd ends ?_
      rwa [Nat.add_zero, Nat.succ_mul] at there
  | quiet =>
      exact ⟨k, n, upgrading.of_state (.of_trace rfl rfl rfl rfl rfl rfl),
        error⟩
  | lost =>
      have called : Within net net.call := .of_trace rfl rfl rfl rfl rfl rfl
      exact ⟨k, n, upgrading.of_state (called.trans (.setState .error)),
        fun _ _ _ _ => rfl⟩
  | data data receives =>
      rw [← receives.receive]
      rcases upgrading.received receives with ⟨still, state, _⟩ | ⟨opens, _⟩
      · refine ⟨k, n + data.length, still, ?_⟩
        intro inBlock hdrEnd ends there
        rw [state]
        split
        next none_found =>
          refine error inBlock hdrEnd ends ?_
          by_contra later
          have fits := still.fits
          have begins : k * wsRecvBuf + 4 ≤ hdrEnd :=
            begins_in_block (inBlock hdrEnd ends) (headerEnd_bounds ends).1
              (by omega) (by omega)
          rw [headerEnd_held ends begins there] at none_found
          cases none_found
        next => rfl
      · have front := (upgrading.taking receives).prefix_block
        exact absurd (opens_block front opens) (closed k)

theorem Refusing.step {event : NetEvent}
    (closed : ∀ k, ¬ Opens (block response k)) (plays : event.Plays)
    (refusing : net.Refusing response) :
    (Net.step os net event).Refusing response := by
  obtain ⟨k, n, upgrading, error⟩ := id refusing
  have not_open : net.ws.hs ≠ .opened := by
    rw [upgrading.hs]
    decide
  cases event with
  | receive => exact refusing.receive closed
  | sendInput frame input =>
      rw [Net.step, sendInput]
      split
      next => exact refusing
      next => exact refusing
  | sendLoadout loadout =>
      rw [Net.step, sendLoadout, if_pos not_open]
      exact refusing
  | ackStart =>
      rw [Net.step, ackStart]
      split
      next ready =>
        refine ⟨k, n, upgrading.of_state (.setState _), ?_⟩
        intro inBlock hdrEnd ends there
        cases ready.symm.trans (error inBlock hdrEnd ends there)
      next => exact refusing
  | _ => exact plays.elim

theorem Upgrading.length_incoming (upgrading : net.Upgrading response k n) :
    net.incoming.length + (k * wsRecvBuf + n) = response.length := by
  have within := upgrading.within
  rw [upgrading.incoming, List.length_drop]
  omega

theorem Refusing.judges (refusing : net.Refusing response)
    (ends : statusCode response = none ∨ EndsInBlock response) :
    net.JudgesStatus response := by
  obtain ⟨k, n, upgrading, error⟩ := refusing
  constructor
  · intro opened
    cases upgrading.hs.symm.trans opened
  · intro code hdrEnd status _ found there
    have length := upgrading.length_incoming
    rcases ends with none_given | inBlock
    · cases none_given.symm.trans status
    · exact error inBlock hdrEnd found (by omega)

end Net

def byteByByte : Os where
  send _ := .accepted 4095
  recv _ := .data 0
  dial _ := .connected
  tcp _ := .writable
  stream _ := []
  ticks _ := 0
  allocates _ := true

def requested (response : List UInt8) : Net :=
  { Net.initial with
    ws := { Ws.zero with
      configured := true, hs := .httpSent, state := .connecting }
    incoming := response }

def afterCalls (response : List UInt8) (calls : Nat) : Net :=
  (Net.step byteByByte).run (requested response)
    (List.replicate calls .receive)

theorem afterCalls_succ (calls : Nat) :
    afterCalls response (calls + 1) =
      (afterCalls response calls).receive byteByByte := by
  rw [afterCalls, List.replicate_succ', Machine.run_append]
  rfl

theorem requested_awaits (response : List UInt8) :
    (requested response).AwaitsUpgrade response :=
  ⟨rfl, rfl, rfl, rfl, rfl, rfl⟩

theorem AcceptsOnly101.judges (accepts : AcceptsOnly101 response)
    (calls : Nat) : (afterCalls response calls).JudgesStatus response := by
  refine Machine.Always.last (accepts byteByByte _ _
    (requested_awaits response) ?_)
  intro event called
  rw [List.eq_of_mem_replicate called]
  trivial

namespace Net

variable {net : Net}

theorem Upgrading.receives (upgrading : net.Upgrading response k n)
    (room : n < wsRecvBuf) (more : k * wsRecvBuf + n < response.length) :
    ∃ byte, net.Receives byteByByte [byte] := by
  have length := upgrading.length_incoming
  have avail : net.ws.rbuf.avail ≠ 0 := by
    rw [RecvBuf.avail, upgrading.length]
    omega
  obtain ⟨byte, rest, incoming⟩ : ∃ byte rest, net.incoming = byte :: rest := by
    cases here : net.incoming with
    | nil =>
        rw [here, List.length_nil] at length
        omega
    | cons byte rest => exact ⟨byte, rest, rfl⟩
  refine ⟨byte, upgrading.configured, upgrading.hasFd, ?_, avail,
    ⟨0, rfl, ?_⟩, List.cons_ne_nil _ _⟩
  · rw [upgrading.hs]
    decide
  · rw [recvData, incoming, Nat.min_eq_left (by omega)]
    rfl

theorem Upgrading.next (upgrading : net.Upgrading response k n)
    (room : n < wsRecvBuf) (more : k * wsRecvBuf + n < response.length)
    (never : (net.receive byteByByte).ws.hs ≠ .opened) :
    let held := (response.drop (k * wsRecvBuf)).take (n + 1)
    (net.receive byteByByte).Upgrading response k (n + 1) ∧
      (net.receive byteByByte).ws.state =
        (if headerEnd held = none then net.ws.state else .error) ∧
      ¬ Opens held := by
  obtain ⟨byte, receives⟩ := upgrading.receives room more
  exact (upgrading.received receives).resolve_right fun opened =>
    never opened.2

end Net

/-- So many bytes have arrived, and nothing but a blank line has changed the
state. -/
structure Reached (response : List UInt8) (m calls k n : Nat) : Prop where
  total : k * wsRecvBuf + n = m
  some_held : 0 < n ∨ m = 0
  upgrading : (afterCalls response calls).Upgrading response k n
  unopened : ¬ Opens ((response.drop (k * wsRecvBuf)).take n)
  quiet : (∀ k n, n ≤ wsRecvBuf → k * wsRecvBuf + n ≤ m →
      headerEnd ((response.drop (k * wsRecvBuf)).take n) = none) →
    (afterCalls response calls).ws.state = .connecting

theorem reaches (never : ∀ calls, (afterCalls response calls).ws.hs ≠ .opened)
    (within : m ≤ response.length) :
    ∃ calls k n, Reached response m calls k n := by
  induction m with
  | zero =>
      refine ⟨0, 0, 0, rfl, .inr rfl, (requested_awaits response).upgrading,
        ?_, fun _ => rfl⟩
      rintro ⟨hdrEnd, found, _⟩
      cases found
  | succ m ih =>
      obtain ⟨calls, k, n, reached⟩ := ih (Nat.le_of_succ_le within)
      -- A full buffer takes one call more.
      obtain ⟨calls, k, n, total, room, upgrading, quiet⟩ :
          ∃ calls k n, k * wsRecvBuf + n = m ∧ n < wsRecvBuf ∧
            (afterCalls response calls).Upgrading response k n ∧
            ((∀ k n, n ≤ wsRecvBuf → k * wsRecvBuf + n ≤ m →
              headerEnd ((response.drop (k * wsRecvBuf)).take n) = none) →
                (afterCalls response calls).ws.state = .connecting) := by
        rcases Nat.lt_or_eq_of_le reached.upgrading.fits with room | full
        · exact ⟨calls, k, n, reached.total, room, reached.upgrading,
            reached.quiet⟩
        · subst full
          have emptied := @Net.receive_full byteByByte _
            reached.upgrading.configured reached.upgrading.hasFd
            (by rw [reached.upgrading.hs]; decide)
            (by rw [RecvBuf.avail, reached.upgrading.length, Nat.sub_self])
          refine ⟨calls + 1, k + 1, 0, ?_, by decide, ?_, ?_⟩
          · rw [Nat.add_zero, Nat.succ_mul]
            exact reached.total
          · rw [afterCalls_succ, emptied]
            exact reached.upgrading.reset
          · rw [afterCalls_succ, emptied]
            exact reached.quiet
      have next := upgrading.next room (by omega)
        (by rw [← afterCalls_succ]; exact never _)
      rw [← afterCalls_succ] at next
      refine ⟨calls + 1, k, n + 1, by omega, .inl (Nat.succ_pos n), next.1,
        next.2.2, ?_⟩
      intro none_found
      rw [next.2.1, if_pos (none_found k (n + 1) room (by omega))]
      exact quiet fun k n fits earlier => none_found k n fits (by omega)

theorem headerEnd_of_drop (found : headerEnd (bytes.drop m) = some hdrEnd) :
    ∃ first, first ≤ m + hdrEnd ∧ headerEnd bytes = some first := by
  induction m generalizing bytes with
  | zero => exact ⟨hdrEnd, by omega, found⟩
  | succ m ih =>
      cases bytes with
      | nil => cases found
      | cons byte rest =>
          rw [List.drop_succ_cons] at found
          obtain ⟨first, early, ends⟩ := ih found
          have bounds := headerEnd_bounds found
          rw [headerEnd]
          split
          next => exact ⟨4, by omega, rfl⟩
          next => exact ⟨first + 1, by omega, by rw [ends]; rfl⟩

/-- A position behind the first has one block and one place in it. -/
theorem position_unique {k k' n n' : Nat}
    (same : k * wsRecvBuf + n = k' * wsRecvBuf + n') (some_n : 0 < n)
    (fits : n ≤ wsRecvBuf) (some_n' : 0 < n') (fits' : n' ≤ wsRecvBuf) :
    k = k' ∧ n = n' := by
  simp only [wsRecvBuf] at *
  omega

namespace AcceptsOnly101

theorem never_opened (accepts : AcceptsOnly101 response)
    (other : statusCode response ≠ some 101) (calls : Nat) :
    (afterCalls response calls).ws.hs ≠ .opened :=
  fun opened => other ((accepts.judges calls).opened opened)

/-- No block opens the connection, or it would be opened. -/
theorem closed (accepts : AcceptsOnly101 response)
    (other : statusCode response ≠ some 101) (k : Nat) :
    ¬ Opens (block response k) := by
  rintro ⟨hdrEnd, found, got⟩
  have bounds := headerEnd_bounds found
  have length : (block response k).length =
      min wsRecvBuf (response.length - k * wsRecvBuf) := by
    rw [block, List.length_take, List.length_drop]
  obtain ⟨calls, k', n, reached⟩ := @reaches response
    (k * wsRecvBuf + hdrEnd) (accepts.never_opened other) (by omega)
  have fits := reached.upgrading.fits
  have some_held := reached.some_held
  obtain ⟨rfl, rfl⟩ := position_unique reached.total (by omega) fits
    (by omega) (by omega)
  have held : (response.drop (k' * wsRecvBuf)).take n =
      (block response k').take n := by
    rw [block, List.take_take, Nat.min_eq_left fits]
  apply reached.unopened
  rw [held]
  refine ⟨n, headerEnd_take found (Nat.le_refl _), ?_⟩
  rw [List.take_take, Nat.min_self]
  exact got

/-- With a code other than 101 the headers end within a block, or their end
would be overlooked. -/
theorem endsInBlock (accepts : AcceptsOnly101 response) {code : Nat}
    (status : statusCode response = some code) (other : code ≠ 101) :
    EndsInBlock response := by
  intro hdrEnd ends
  by_contra split
  have bounds := headerEnd_bounds ends
  have never := accepts.never_opened fun same =>
    other (Option.some.inj (status.symm.trans same))
  obtain ⟨calls, k, n, reached⟩ := reaches never bounds.2
  have length := reached.upgrading.length_incoming
  have total := reached.total
  have error := (accepts.judges calls).refused code hdrEnd status other ends
    (by omega)
  have connecting : (afterCalls response calls).ws.state = .connecting := by
    apply reached.quiet
    intro k n fits early
    cases found : headerEnd ((response.drop (k * wsRecvBuf)).take n) with
    | none => rfl
    | some inBlock =>
        exfalso
        have inner := headerEnd_bounds found
        rw [List.length_take] at inner
        have later := headerEnd_append found
          ((response.drop (k * wsRecvBuf)).drop n)
        rw [List.take_append_drop] at later
        obtain ⟨first, early_first, first_ends⟩ := headerEnd_of_drop later
        cases ends.symm.trans first_ends
        apply split
        have whole : k * wsRecvBuf + inBlock = hdrEnd := by omega
        simp only [wsRecvBuf] at *
        omega
  cases connecting.symm.trans error

end AcceptsOnly101

/-- The upgrade is judged by the status alone if that is 101, or if nothing in
the response is mistaken for it. -/
theorem acceptsOnly101_iff (response : List UInt8) :
    AcceptsOnly101 response ↔
      statusCode response = some 101 ∨
        (∀ k, ¬ Opens (block response k)) ∧
          (statusCode response = none ∨ EndsInBlock response) := by
  constructor
  · intro accepts
    cases status : statusCode response with
    | none =>
        have other : statusCode response ≠ some 101 := by
          rw [status]
          exact (Option.some_ne_none 101).symm
        exact .inr ⟨accepts.closed other, .inl rfl⟩
    | some code =>
        by_cases switching : code = 101
        · exact .inl (congrArg some switching)
        · have other : statusCode response ≠ some 101 := by
            rw [status]
            exact fun same => switching (Option.some.inj same)
          exact .inr ⟨accepts.closed other,
            .inr (accepts.endsInBlock status switching)⟩
  · rintro (switching | ⟨closed, ends⟩) os net events awaits plays
    · refine Machine.always_of_invariant (fun _ => True) (fun _ _ _ => trivial)
        (fun net _ => ⟨fun _ => switching, ?_⟩) trivial _
      intro code hdrEnd status other
      exact absurd (Option.some.inj (status.symm.trans switching)) other
    · have legal : (Net.step os).Along (fun _ event => event.Plays) net
          events :=
        Machine.along_of_mem fun event held _ => plays event held
      exact legal.always (Net.Refusing response)
        (fun _ _ refusing plays => refusing.step closed plays)
        (fun _ refusing => refusing.judges ends) awaits.refusing

def notFound : List UInt8 :=
  asciiBytes "HTTP/1.1 404 Not Found\r\nContent-Length: 101\r\n\r\n"

theorem not_acceptsOnly101_notFound : ¬ AcceptsOnly101 notFound := by
  intro accepts
  refine accepts.closed (by decide +kernel) 0 ⟨notFound.length, ?_, ?_⟩
  · decide +kernel
  · decide +kernel

end FuryClash.Client
