import FuryClash.Client.OwnBytes
import FuryClash.Client.Upgrade
import FuryClash.Client.UrlParsers

namespace FuryClash.Client

open FuryClash.Data

/-! `http_post` of `http_client.c`: one request on a blocking socket of its own,
which may take the bytes of the request and give those of the response in
pieces of any size. -/

/-- What the system calls of one request return. `recv` gives 0 when nothing of
the stream is left. -/
structure HttpOs where
  dial : DialResult
  send : Nat → SendResult
  recv : Nat → RecvResult
  stream : List UInt8

/-- `outBuf` is what is copied in front of the byte that ends the text. -/
structure HttpReply where
  status : Int
  outBuf : List UInt8
  sent : List UInt8

def httpReqSize : Nat := 2048

def httpRespSize : Nat := 4096

def httpRequest (post : HttpPost) : List UInt8 :=
  asciiBytes "POST " ++ post.path ++ asciiBytes " HTTP/1.1\r\nHost: " ++
    post.host ++ asciiBytes (":" ++ toString post.port ++
      "\r\nContent-Type: application/json\r\nContent-Length: " ++
      toString post.body.length ++ "\r\nConnection: close\r\n\r\n") ++
    post.body

/-- What the socket has taken, and whether that is all. -/
def httpSendLoop (os : HttpOs) :
    (turns calls : Nat) → List UInt8 → List UInt8 × Bool
  | 0, _, rest => ([], rest = [])
  | turns + 1, calls, rest =>
      if rest = [] then ([], true)
      else
        match os.send calls with
        | .accepted more =>
            let n := min (more + 1) rest.length
            let (sent, whole) := httpSendLoop os turns (calls + 1) (rest.drop n)
            (rest.take n ++ sent, whole)
        | .again => ([], false)
        | .failed => ([], false)

/-- `none` as long as the loop goes on. -/
def httpRecvLoop (os : HttpOs) :
    (turns calls : Nat) → (incoming resp : List UInt8) → Option (List UInt8)
  | 0, _, _, _ => none
  | turns + 1, calls, incoming, resp =>
      if resp.length < httpRespSize - 1 then
        match os.recv calls with
        | .data more =>
            let n := min (more + 1) (httpRespSize - 1 - resp.length)
            let data := incoming.take n
            if data = [] then some resp
            else
              httpRecvLoop os turns (calls + 1) (incoming.drop n) (resp ++ data)
        | .again => httpRecvLoop os turns (calls + 1) incoming resp
        | .failed => some resp
        | .closed => some resp
      else some resp

/-- The number behind the first blank behind `HTTP/`. -/
def httpStatus (resp : List UInt8) : Int :=
  match afterPattern (asciiBytes "HTTP/") (cut resp) with
  | none => -1
  | some found =>
      match found.dropWhile fun byte => byte != 32 with
      | [] => -1
      | _ :: number => atoi number

def httpBody (outSize : Nat) (resp : List UInt8) : List UInt8 :=
  match headerEnd (cut resp) with
  | none => []
  | some body => (resp.drop body).take (outSize - 1)

/-- `out_size` is 0 for a null pointer. -/
def httpPost (os : HttpOs) (turns : Nat) (post : HttpPost) (outSize : Nat) :
    Option HttpReply :=
  let req := httpRequest post
  if os.dial ≠ .connected ∨ httpReqSize ≤ req.length then some ⟨-1, [], []⟩
  else
    match httpSendLoop os req.length 0 req with
    | (sent, false) => some ⟨-1, [], sent⟩
    | (sent, true) =>
        (httpRecvLoop os turns 0 os.stream []).map fun resp =>
          ⟨httpStatus resp, httpBody outSize resp, sent⟩

/-- The server is there, takes the request, and closes the connection behind
its response. A `recv` may be interrupted, a `send` may not. -/
structure HttpOs.Answers (os : HttpOs) : Prop where
  dial : os.dial = .connected
  send : ∀ call, ∃ more, os.send call = .accepted more
  recv : ∀ call, os.recv call = .again ∨ ∃ more, os.recv call = .data more
  goesOn : ∀ call, ∃ later, call ≤ later ∧ os.recv later ≠ .again

/-- The status line names the code, and lies in the array as one string. -/
structure StatusIs (response : List UInt8) (code : Nat) : Prop where
  code : statusCode response = some code
  text : 0 ∉ statusLine response
  fits : (statusLine response).length < httpRespSize

variable {os : HttpOs} {rest sent incoming resp : List UInt8}
  {turns calls : Nat}

theorem httpSendLoop_prefix (os : HttpOs) (turns calls : Nat)
    (rest : List UInt8) : (httpSendLoop os turns calls rest).1 <+: rest := by
  induction turns generalizing calls rest with
  | zero => exact List.nil_prefix
  | succ turns ih =>
      rw [httpSendLoop]
      split
      next => exact List.nil_prefix
      next =>
        split
        next more _ =>
          have behind := ih (calls + 1) (rest.drop (min (more + 1) rest.length))
          have whole := List.prefix_append_right_inj
            (rest.take (min (more + 1) rest.length)) |>.mpr behind
          rwa [List.take_append_drop] at whole
        next => exact List.nil_prefix
        next => exact List.nil_prefix

/-- The loop says that all is sent only when it is. -/
theorem httpSendLoop_whole
    (whole : httpSendLoop os turns calls rest = (sent, true)) :
    sent = rest := by
  induction turns generalizing calls rest sent with
  | zero =>
      rw [httpSendLoop, Prod.mk.injEq, decide_eq_true_eq] at whole
      rw [← whole.1, whole.2]
  | succ turns ih =>
      rw [httpSendLoop] at whole
      split at whole
      next done =>
        cases whole
        exact done.symm
      next =>
        split at whole
        next more _ =>
          rw [Prod.mk.injEq] at whole
          have behind := ih (Prod.ext (Eq.refl _) whole.2)
          exact whole.1.symm.trans ((congrArg (rest.take _ ++ ·) behind).trans
            (List.take_append_drop _ rest))
        next => cases whole
        next => cases whole

theorem HttpOs.Answers.httpSendLoop (answers : os.Answers)
    (enough : rest.length ≤ turns) (calls : Nat) :
    Client.httpSendLoop os turns calls rest = (rest, true) := by
  have whole : (Client.httpSendLoop os turns calls rest).2 = true := by
    induction turns generalizing calls rest with
    | zero =>
        rw [List.length_eq_zero_iff.mp (Nat.le_zero.mp enough)]
        rfl
    | succ turns ih =>
        rw [Client.httpSendLoop]
        split
        next => rfl
        next more_left =>
          obtain ⟨more, accepted⟩ := answers.send calls
          rw [accepted]
          refine ih ?_ (calls + 1)
          have some_left := List.length_pos_of_ne_nil more_left
          rw [List.length_drop]
          omega
  have sent := httpSendLoop_whole (Prod.ext rfl whole)
  exact Prod.ext sent whole

theorem httpRecvLoop_succ
    (ends : httpRecvLoop os turns calls incoming resp = some rest) :
    httpRecvLoop os (turns + 1) calls incoming resp = some rest := by
  induction turns generalizing calls incoming resp with
  | zero => cases ends
  | succ turns ih =>
      rw [httpRecvLoop] at ends ⊢
      split at ends
      next room =>
        rw [if_pos room]
        split at ends
        next =>
          dsimp only at ends ⊢
          split at ends
          next none_left =>
            rw [if_pos none_left]
            exact ends
          next some_left =>
            rw [if_neg some_left]
            exact ih ends
        next => exact ih ends
        next => exact ends
        next => exact ends
      next full =>
        rw [if_neg full]
        exact ends

theorem httpRecvLoop_mono {turns' : Nat} (more : turns ≤ turns')
    (ends : httpRecvLoop os turns calls incoming resp = some rest) :
    httpRecvLoop os turns' calls incoming resp = some rest := by
  induction more with
  | refl => exact ends
  | step _ ih => exact httpRecvLoop_succ ih

theorem httpRecvLoop_again {count : Nat}
    (again : ∀ call, call < count → os.recv (calls + call) = .again)
    (room : resp.length < httpRespSize - 1) :
    httpRecvLoop os (turns + count) calls incoming resp =
      httpRecvLoop os turns (calls + count) incoming resp := by
  induction count generalizing calls with
  | zero => rfl
  | succ count ih =>
      have first : os.recv calls = .again := again 0 (Nat.succ_pos count)
      rw [← Nat.add_assoc, httpRecvLoop, if_pos room, first]
      dsimp only
      rw [ih fun call less => ?_]
      · rw [Nat.add_assoc, Nat.add_comm 1 count]
      · rw [Nat.add_assoc, Nat.add_comm 1 call]
        exact again (call + 1) (Nat.succ_lt_succ less)

theorem HttpOs.Answers.next (answers : os.Answers) (calls : Nat) :
    ∃ count more, (∀ call, call < count → os.recv (calls + call) = .again) ∧
      os.recv (calls + count) = .data more := by
  have some_later : ∃ count, os.recv (calls + count) ≠ .again := by
    obtain ⟨later, behind, received⟩ := answers.goesOn calls
    refine ⟨later - calls, ?_⟩
    rwa [Nat.add_sub_cancel' behind]
  refine ⟨Nat.find some_later, ?_⟩
  have received := (answers.recv (calls + Nat.find some_later)).resolve_left
    (Nat.find_spec some_later)
  obtain ⟨more, data⟩ := received
  exact ⟨more, fun call less => not_not.mp (Nat.find_min some_later less), data⟩

/-- However the response is cut, the array ends up with the same of it. -/
theorem HttpOs.Answers.httpRecvLoop (answers : os.Answers) (calls : Nat)
    (incoming resp : List UInt8) (held : resp.length ≤ httpRespSize - 1) :
    ∃ turns, Client.httpRecvLoop os turns calls incoming resp =
      some ((resp ++ incoming).take (httpRespSize - 1)) := by
  induction left : incoming.length using Nat.strong_induction_on
    generalizing calls incoming resp with
  | h length ih =>
      by_cases room : resp.length < httpRespSize - 1
      · obtain ⟨count, more, again, data⟩ := answers.next calls
        obtain ⟨n, isMin⟩ : ∃ n, n = min (more + 1)
          (httpRespSize - 1 - resp.length) := ⟨_, rfl⟩
        have some_room : 0 < n := by omega
        by_cases none_left : incoming = []
        · refine ⟨0 + 1 + count, ?_⟩
          rw [httpRecvLoop_again again room, Client.httpRecvLoop, if_pos room,
            data, none_left]
          simp only [List.take_nil, if_true, List.append_nil]
          rw [List.take_of_length_le held]
        · have some_left := List.length_pos_of_ne_nil none_left
          obtain ⟨turns, rest⟩ := ih (incoming.drop n).length
            (by rw [List.length_drop]; omega) (calls + count + 1)
            (incoming.drop n) (resp ++ incoming.take n)
            (by rw [List.length_append, List.length_take]; omega) rfl
          refine ⟨turns + 1 + count, ?_⟩
          rw [httpRecvLoop_again again room, Client.httpRecvLoop, if_pos room,
            data]
          dsimp only
          rw [← isMin, if_neg, rest, List.append_assoc,
            List.take_append_drop]
          rw [List.take_eq_nil_iff]
          rintro (zero | empty)
          · omega
          · exact none_left empty
      · refine ⟨1, ?_⟩
        rw [Client.httpRecvLoop, if_neg room,
          List.take_append_of_le_length (by omega),
          List.take_of_length_le held]

/-- What is behind the line begins with the end of a line. -/
theorem statusLine_behind (response : List UInt8) :
    response = statusLine response ∨
      ∃ rest, response = statusLine response ++ 13 :: 10 :: rest := by
  induction response with
  | nil => exact .inl rfl
  | cons byte rest ih =>
      rw [statusLine]
      split
      next front =>
        obtain ⟨behind, whole⟩ := List.isPrefixOf_iff_prefix.mp front
        exact .inr ⟨behind, whole.symm⟩
      next =>
        rcases ih with same | ⟨behind, whole⟩
        · exact .inl (congrArg (byte :: ·) same)
        · exact .inr ⟨behind, congrArg (byte :: ·) whole⟩

theorem atoi_three {a b c : UInt8} {behind : List UInt8}
    (isNumber : [a, b, c].all isDigit = true)
    (ends : behind.head?.all (!isDigit ·) = true) :
    atoi (a :: b :: c :: behind) =
      (((a.toNat - 48) * 100 + (b.toNat - 48) * 10 + (c.toNat - 48) : Nat) :
        Int) := by
  simp only [List.all_cons, List.all_nil, Bool.and_true, Bool.and_eq_true]
    at isNumber
  obtain ⟨digit_a, digit_b, digit_c⟩ := isNumber
  have bounds {byte : UInt8} (digit : isDigit byte = true) :
      48 ≤ byte.toNat ∧ byte.toNat ≤ 57 := by
    simpa [isDigit, UInt8.le_iff_toNat_le] using digit
  obtain ⟨low_a, high_a⟩ := bounds digit_a
  obtain ⟨low_b, high_b⟩ := bounds digit_b
  obtain ⟨low_c, high_c⟩ := bounds digit_c
  have text : atoi (a :: b :: c :: behind) =
      digits 0 (a :: b :: c :: behind) := by
    rw [atoi]
    rw [List.dropWhile_cons_of_neg]
    · split
      next minus =>
        cases (List.cons.inj minus).1
        exact absurd digit_a (by decide)
      next plus =>
        cases (List.cons.inj plus).1
        exact absurd digit_a (by decide)
      next => rfl
    · simp only [Bool.or_eq_true, Bool.and_eq_true, decide_eq_true_eq,
        UInt8.le_iff_toNat_le, ← UInt8.toNat_inj]
      have blank : (32 : UInt8).toNat = 32 := rfl
      have tab : (9 : UInt8).toNat = 9 := rfl
      have carriage : (13 : UInt8).toNat = 13 := rfl
      omega
  have stop (val : Int) : digits val behind = val := by
    cases behind with
    | nil => rfl
    | cons byte rest =>
        have other : isDigit byte = false := by simpa using ends
        rw [digits, other]
        rfl
  rw [text]
  simp only [digits, digit_a, digit_b, digit_c, if_true, stop]
  omega

theorem statusCode_some {response : List UInt8} {code : Nat}
    (status : statusCode response = some code) :
    ∃ version a b c reason,
      statusLine response =
        asciiBytes "HTTP/" ++ version ++ 32 :: a :: b :: c :: reason ∧
      32 ∉ version ∧ [a, b, c].all isDigit = true ∧
      reason.head?.all (· == 32) = true ∧
      code = (a.toNat - 48) * 100 + (b.toNat - 48) * 10 + (c.toNat - 48) := by
  rw [statusCode] at status
  split at status
  next front =>
    obtain ⟨found, line⟩ := List.isPrefixOf_iff_prefix.mp front
    split at status
    next blank a b c reason shape =>
      split at status
      next good =>
        obtain ⟨isNumber, ends⟩ := Bool.and_eq_true_iff.mp good
        rw [← line, List.dropWhile_append] at shape
        rw [if_pos (by decide)] at shape
        have split_found := @List.takeWhile_append_dropWhile _
          (fun byte : UInt8 => byte != 32) found
        have isBlank : blank = 32 := by
          have head := List.head?_dropWhile_not
            (fun byte : UInt8 => byte != 32) found
          rw [shape] at head
          simpa using head
        rw [isBlank] at shape
        refine ⟨found.takeWhile fun byte => byte != 32, a, b, c, reason, ?_, ?_,
          isNumber, ends, (Option.some.inj status).symm⟩
        · rw [← line, List.append_assoc, ← shape, split_found]
        · intro within
          have other := List.mem_takeWhile_imp within
          exact absurd other (by decide)
      next => cases status
    next => cases status
  next => cases status

/-- The client reads the code of the status line, and no other number. -/
theorem httpStatus_eq {response : List UInt8} {code : Nat}
    (status : StatusIs response code) :
    httpStatus (response.take (httpRespSize - 1)) = code := by
  obtain ⟨version, a, b, c, reason, line, no_blank, isNumber, ends, isCode⟩ :=
    statusCode_some status.code
  -- The line is whole in the array, and what follows it is no digit.
  obtain ⟨behind, whole, no_digit⟩ : ∃ behind,
      response.take (httpRespSize - 1) = statusLine response ++ behind ∧
        behind.head?.all (!isDigit ·) = true := by
    have fits : (statusLine response).length ≤ httpRespSize - 1 := by
      have fits := status.fits
      omega
    rcases statusLine_behind response with same | ⟨rest, split_line⟩
    · refine ⟨[], ?_, rfl⟩
      rw [List.append_nil]
      conv_lhs => rw [same]
      exact List.take_of_length_le fits
    · refine ⟨(13 :: 10 :: rest).take
        (httpRespSize - 1 - (statusLine response).length), ?_, ?_⟩
      · conv_lhs => rw [split_line]
        rw [List.take_append, List.take_of_length_le fits]
      · cases httpRespSize - 1 - (statusLine response).length with
        | zero => rfl
        | succ room => rfl
  have text : cut (response.take (httpRespSize - 1)) =
      asciiBytes "HTTP/" ++ (version ++ 32 :: a :: b :: c ::
        (reason ++ cut behind)) := by
    rw [whole, cut_append status.text, line]
    simp only [List.append_assoc, List.cons_append]
  have tail : (reason ++ cut behind).head?.all (!isDigit ·) = true := by
    cases reason with
    | nil =>
        cases behind with
        | nil => rfl
        | cons byte rest =>
            rw [cut, List.nil_append, List.takeWhile_cons]
            split
            next => exact no_digit
            next => rfl
    | cons byte rest =>
        have isBlank : byte = 32 := by simpa using ends
        rw [isBlank]
        rfl
  have found := @afterPattern_front (asciiBytes "HTTP/") (by decide)
    (version ++ 32 :: a :: b :: c :: (reason ++ cut behind))
  have skipped : (version ++ 32 :: a :: b :: c ::
      (reason ++ cut behind)).dropWhile (fun byte => byte != 32) =
        32 :: a :: b :: c :: (reason ++ cut behind) := by
    rw [List.dropWhile_append_of_pos]
    · rfl
    · intro byte within
      rw [bne_iff_ne]
      rintro rfl
      exact no_blank within
  rw [httpStatus, text, found]
  dsimp only
  rw [skipped]
  dsimp only
  rw [atoi_three isNumber tail, isCode]

/-- With a status other than -1, the socket has taken the whole request. -/
theorem httpPost_sent {post : HttpPost} {outSize : Nat} {reply : HttpReply}
    (returned : httpPost os turns post outSize = some reply) :
    reply.sent <+: httpRequest post ∧
      (reply.status ≠ -1 → reply.sent = httpRequest post) := by
  rw [httpPost] at returned
  split at returned
  next =>
    cases returned
    exact ⟨List.nil_prefix, fun other => absurd rfl other⟩
  next =>
    split at returned
    next sent part =>
      cases returned
      have front := httpSendLoop_prefix os (httpRequest post).length 0
        (httpRequest post)
      rw [part] at front
      exact ⟨front, fun other => absurd rfl other⟩
    next sent whole =>
      obtain ⟨resp, _, rfl⟩ := Option.map_eq_some_iff.mp returned
      have same := httpSendLoop_whole whole
      exact ⟨same ▸ List.prefix_refl _, fun _ => same⟩

/-- However the system cuts the request and the response, the server gets the
whole request and the caller the status of the response. -/
theorem httpPost_answered (answers : os.Answers) {post : HttpPost}
    (short : (httpRequest post).length < httpReqSize) {code : Nat}
    (status : StatusIs os.stream code) (outSize : Nat) :
    ∃ enough, ∀ turns, enough ≤ turns →
      httpPost os turns post outSize = some
        ⟨code, httpBody outSize (os.stream.take (httpRespSize - 1)),
          httpRequest post⟩ := by
  obtain ⟨enough, received⟩ := answers.httpRecvLoop 0 os.stream []
    (Nat.zero_le _)
  refine ⟨enough, fun turns more => ?_⟩
  rw [httpPost]
  rw [if_neg, answers.httpSendLoop (Nat.le_refl _) 0]
  · dsimp only
    rw [httpRecvLoop_mono more received, Option.map_some, List.nil_append,
      httpStatus_eq status]
  · rintro (refused | long)
    · exact refused answers.dial
    · omega

def halting (stream : List UInt8) : HttpOs where
  dial := .connected
  send _ := .accepted 9
  recv call := if call % 2 = 0 then .again else .data 6
  stream := stream

theorem halting_answers (stream : List UInt8) : (halting stream).Answers where
  dial := rfl
  send _ := ⟨9, rfl⟩
  recv call := by
    rw [halting]
    dsimp only
    split
    next => exact .inl rfl
    next => exact .inr ⟨6, rfl⟩
  goesOn call := by
    refine ⟨2 * call + 1, by omega, ?_⟩
    rw [halting]
    dsimp only
    rw [if_neg (by omega)]
    exact RecvResult.noConfusion

def createdResponse : List UInt8 :=
  asciiBytes "HTTP/1.1 201 Created\r\n\r\n\x7b\x7d"

theorem createdResponse_status : StatusIs createdResponse 201 :=
  ⟨by decide +kernel, by decide +kernel, by decide +kernel⟩

def smallPost : HttpPost :=
  ⟨asciiBytes "h", 80, asciiBytes "/rooms", asciiBytes "\x7b\x7d"⟩

theorem httpPost_answered_smallPost :
    ∃ enough, ∀ turns, enough ≤ turns →
      httpPost (halting createdResponse) turns smallPost 512 = some
        ⟨201, httpBody 512 (createdResponse.take (httpRespSize - 1)),
          httpRequest smallPost⟩ :=
  httpPost_answered (halting_answers createdResponse) (by decide +kernel)
    createdResponse_status 512

end FuryClash.Client
