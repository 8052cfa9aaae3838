import FuryClash.Server.Protocol

namespace FuryClash.Server

open FuryClash.Data

variable (runtime : JsRuntime)

/-! What `decodeClientMsg` makes of each opcode. No branch reads behind the
buffer, so none of them throws. -/

def inputMsg (data : List UInt8) : DecodedMsg :=
  [("type", .nat MsgType.clientInput.code),
    ("seq", .nat (leWindow data 1 2)),
    ("frame", .nat (leWindow data 3 4)),
    ("input", .nat (leWindow data 7 2))]

def loadoutMsg (data : List UInt8) : DecodedMsg :=
  [("type", .nat MsgType.clientLoadout.code),
    ("loadout", .nat (leWindow data 1 1))]

def joinMsg (json : Json) : DecodedMsg :=
  ("type", .nat MsgType.clientJoin.code) :: json.spread

@[simp] theorem decodeClientMsg_nil :
    decodeClientMsg runtime [] = .ok none := rfl

theorem readUIntLE_opcode (first : UInt8) (rest : List UInt8) :
    readUIntLE 1 (first :: rest) 0 = .ok first.toNat := by
  rw [readUIntLE_of_le (by simp)]
  simp [leWindow, leNat]

theorem decodeClientMsg_cons (first : UInt8) (rest : List UInt8) :
    decodeClientMsg runtime (first :: rest) =
      .ok (if first = 0x01 then (runtime.jsonParse rest).map joinMsg
        else if first = 0x02 then
          if rest.length < 8 then none else some (inputMsg (first :: rest))
        else if first = 0x03 then
          some [("type", .nat MsgType.clientPong.code)]
        else if first = 0x04 then
          if rest.length < 1 then none else some (loadoutMsg (first :: rest))
        else none) := by
  have join : first.toNat = MsgType.clientJoin.code ↔ first = 0x01 :=
    @UInt8.toNat_inj first 0x01
  have input : first.toNat = MsgType.clientInput.code ↔ first = 0x02 :=
    @UInt8.toNat_inj first 0x02
  have pong : first.toNat = MsgType.clientPong.code ↔ first = 0x03 :=
    @UInt8.toNat_inj first 0x03
  have loadout : first.toNat = MsgType.clientLoadout.code ↔ first = 0x04 :=
    @UInt8.toNat_inj first 0x04
  rw [decodeClientMsg, readUIntLE_opcode, if_neg (by simp)]
  simp only [Bind.bind, Except.bind, Pure.pure, Except.pure, join, input,
    pong, loadout, List.drop_succ_cons, List.drop_zero]
  split
  next => cases runtime.jsonParse rest <;> rfl
  split
  next =>
    by_cases short : rest.length < 8
    · exact (if_pos (Nat.succ_lt_succ short)).trans
        (congrArg Except.ok (if_pos short).symm)
    · have seq := @readUIntLE_of_le 2 1 (first :: rest) (by simp; omega)
      have frame := @readUIntLE_of_le 4 3 (first :: rest) (by simp; omega)
      have input := @readUIntLE_of_le 2 7 (first :: rest) (by simp; omega)
      rw [seq, frame, input, if_neg short]
      exact if_neg (mt Nat.lt_of_succ_lt_succ short)
  split
  next => rfl
  split
  next =>
    by_cases short : rest.length < 1
    · exact (if_pos (Nat.succ_lt_succ short)).trans
        (congrArg Except.ok (if_pos short).symm)
    · have loadout := @readUIntLE_of_le 1 1 (first :: rest) (by simp; omega)
      rw [loadout, if_neg short]
      exact if_neg (mt Nat.lt_of_succ_lt_succ short)
  next => rfl

theorem decodeClientMsg_join (rest : List UInt8) :
    decodeClientMsg runtime (0x01 :: rest) =
      .ok ((runtime.jsonParse rest).map joinMsg) :=
  decodeClientMsg_cons runtime 0x01 rest

theorem decodeClientMsg_input (rest : List UInt8) :
    decodeClientMsg runtime (0x02 :: rest) =
      .ok (if rest.length < 8 then none
        else some (inputMsg (0x02 :: rest))) :=
  decodeClientMsg_cons runtime 0x02 rest

theorem decodeClientMsg_pong (rest : List UInt8) :
    decodeClientMsg runtime (0x03 :: rest) =
      .ok (some [("type", .nat MsgType.clientPong.code)]) :=
  decodeClientMsg_cons runtime 0x03 rest

theorem decodeClientMsg_loadout (rest : List UInt8) :
    decodeClientMsg runtime (0x04 :: rest) =
      .ok (if rest.length < 1 then none
        else some (loadoutMsg (0x04 :: rest))) :=
  decodeClientMsg_cons runtime 0x04 rest

theorem decodeClientMsg_other {first : UInt8} (rest : List UInt8)
    (join : first ≠ 0x01) (input : first ≠ 0x02) (pong : first ≠ 0x03)
    (loadout : first ≠ 0x04) :
    decodeClientMsg runtime (first :: rest) = .ok none := by
  rw [decodeClientMsg_cons, if_neg join, if_neg input, if_neg pong,
    if_neg loadout]

theorem decodeClientMsg_ok (data : List UInt8) :
    ∃ result, decodeClientMsg runtime data = .ok result := by
  cases data with
  | nil => exact ⟨_, rfl⟩
  | cons first rest => exact ⟨_, decodeClientMsg_cons runtime first rest⟩

structure InputShape (data : List UInt8) (msg : DecodedMsg) : Prop where
  size : clientInputMsgSize ≤ data.length
  seq : Json.get "seq" msg = some (.nat (leWindow data 1 2))
  frame : Json.get "frame" msg = some (.nat (leWindow data 3 4))
  input : Json.get "input" msg = some (.nat (leWindow data 7 2))
  seqBound : leWindow data 1 2 < 2 ^ 16
  frameBound : leWindow data 3 4 < 2 ^ 32
  inputBound : leWindow data 7 2 < 2 ^ 16
  encodable : ∀ seq < 2 ^ 16, ∃ bytes, encodeRelayBatch runtime seq
    [⟨Json.get "frame" msg, Json.get "input" msg⟩] = .ok bytes

structure LoadoutShape (data : List UInt8) (msg : DecodedMsg) : Prop where
  loadout : Json.get "loadout" msg = some (.nat (leWindow data 1 1))
  bound : leWindow data 1 1 ≤ 255

/-- The `type` field is the opcode, and the fields are those of the type. -/
structure WellFormedMsg (data : List UInt8) (msg : DecodedMsg) : Prop where
  type : ∃ first, data.head? = some first ∧
    Json.get "type" msg = some (.nat first.toNat)
  input : Json.get "type" msg = some (.nat MsgType.clientInput.code) →
    InputShape runtime data msg
  loadout : Json.get "type" msg = some (.nat MsgType.clientLoadout.code) →
    LoadoutShape data msg

def DecodesWellFormed (data : List UInt8) : Prop :=
  ∃ result, decodeClientMsg runtime data = .ok result ∧
    ∀ msg ∈ result, WellFormedMsg runtime data msg

/-- The JSON of a `CLIENT_JOIN` brings a `type` of its own. -/
def OverridesType (data : List UInt8) : Prop :=
  data.head? = some 0x01 ∧ ∃ json ∈ runtime.jsonParse (data.drop 1),
    ∃ value ∈ Json.get "type" json.spread,
      value ≠ .nat MsgType.clientJoin.code

theorem encodeRelayBatch_single {seq frame input : Nat}
    (seqFits : seq < 256 ^ 2) (frameFits : frame < 256 ^ 4)
    (inputFits : input < 256 ^ 2) :
    encodeRelayBatch runtime seq
        [⟨some (.nat frame), some (.nat input)⟩] =
      .ok (leBytes 1 MsgType.serverRelay.code ++ leBytes 2 seq ++
        leBytes 1 1 ++ (leBytes 4 frame ++ leBytes 2 input)) := by
  have type := writeUIntLE_nat runtime
    (show MsgType.serverRelay.code < 256 ^ 1 by decide) (by decide)
  have seqBytes := writeUIntLE_nat runtime seqFits (by decide)
  have count := writeUIntLE_nat runtime
    (show 1 < 256 ^ 1 by decide) (by decide)
  have entry := encodeRelayEntry_nat runtime frameFits inputFits
  simp [encodeRelayBatch, type, seqBytes, count, entry, Bind.bind, Except.bind,
    Pure.pure, Except.pure]

theorem inputMsg_wellFormed (rest : List UInt8) (long : ¬ rest.length < 8) :
    WellFormedMsg runtime (0x02 :: rest) (inputMsg (0x02 :: rest)) where
  type := ⟨_, rfl, rfl⟩
  input _ :=
    { size := by simp [clientInputMsgSize]; omega
      seq := rfl
      frame := rfl
      input := rfl
      seqBound := leWindow_lt _ _ 2
      frameBound := leWindow_lt _ _ 4
      inputBound := leWindow_lt _ _ 2
      encodable := fun _ bound => ⟨_, encodeRelayBatch_single runtime bound
        (leWindow_lt _ _ 4) (leWindow_lt _ _ 2)⟩ }
  loadout type := by
    have same := Json.nat_injective (Option.some.inj type)
    cases same

theorem pongMsg_wellFormed (rest : List UInt8) :
    WellFormedMsg runtime (0x03 :: rest)
      [("type", .nat MsgType.clientPong.code)] where
  type := ⟨_, rfl, rfl⟩
  input type := by
    have same := Json.nat_injective (Option.some.inj type)
    cases same
  loadout type := by
    have same := Json.nat_injective (Option.some.inj type)
    cases same

theorem loadoutMsg_wellFormed (rest : List UInt8) :
    WellFormedMsg runtime (0x04 :: rest) (loadoutMsg (0x04 :: rest)) where
  type := ⟨_, rfl, rfl⟩
  input type := by
    have same := Json.nat_injective (Option.some.inj type)
    cases same
  loadout _ := ⟨rfl, Nat.le_of_lt_succ (leWindow_lt _ _ 1)⟩

theorem get_type_joinMsg (json : Json) :
    Json.get "type" (joinMsg json) =
      (Json.get "type" json.spread).or
        (some (.nat MsgType.clientJoin.code)) := by
  rw [joinMsg, Json.get_cons, if_pos rfl]

theorem joinMsg_wellFormed_iff (rest : List UInt8) (json : Json) :
    WellFormedMsg runtime (0x01 :: rest) (joinMsg json) ↔
      ∀ value ∈ Json.get "type" json.spread,
        value = .nat MsgType.clientJoin.code := by
  constructor
  · intro wellFormed value own
    obtain ⟨first, head, type⟩ := wellFormed.type
    cases head
    rw [get_type_joinMsg, own, Option.some_or] at type
    exact Option.some.inj type
  · intro harmless
    have type : Json.get "type" (joinMsg json) =
        some (.nat MsgType.clientJoin.code) := by
      rw [get_type_joinMsg]
      cases own : Json.get "type" json.spread with
      | none => rfl
      | some value => rw [Option.some_or, harmless value own]
    refine ⟨⟨_, rfl, type⟩, fun input => ?_, fun loadout => ?_⟩
    · have same := Json.nat_injective (Option.some.inj (type.symm.trans input))
      cases same
    · have same :=
        Json.nat_injective (Option.some.inj (type.symm.trans loadout))
      cases same

theorem decodesWellFormed_of_ok {data : List UInt8}
    {result : Option DecodedMsg}
    (decoded : decodeClientMsg runtime data = .ok result) :
    DecodesWellFormed runtime data ↔
      ∀ msg ∈ result, WellFormedMsg runtime data msg := by
  simp only [DecodesWellFormed, decoded, Except.ok.injEq]
  constructor
  · rintro ⟨_, rfl, wellFormed⟩
    exact wellFormed
  · exact fun wellFormed => ⟨_, rfl, wellFormed⟩

/-- Every buffer is decoded as declared except for one kind: a `CLIENT_JOIN`
whose JSON object names another `type`. -/
theorem decodesWellFormed_iff (data : List UInt8) :
    DecodesWellFormed runtime data ↔ ¬ OverridesType runtime data := by
  cases data with
  | nil =>
      rw [decodesWellFormed_of_ok runtime (decodeClientMsg_nil runtime)]
      simp [OverridesType]
  | cons first rest =>
      by_cases join : first = 0x01
      · subst join
        rw [decodesWellFormed_of_ok runtime (decodeClientMsg_join runtime rest)]
        simp only [Option.mem_map, forall_exists_index, and_imp,
          forall_apply_eq_imp_iff₂, joinMsg_wellFormed_iff, OverridesType,
          List.head?_cons, true_and, List.drop_one, List.tail_cons, not_exists,
          not_and, ne_eq, not_not]
      have others : ¬ OverridesType runtime (first :: rest) :=
        fun overrides => join (Option.some.inj overrides.1)
      refine iff_of_true ?_ others
      by_cases input : first = 0x02
      · subst input
        rw [decodesWellFormed_of_ok runtime
          (decodeClientMsg_input runtime rest)]
        split
        next => simp
        next long =>
          rintro _ ⟨⟩
          exact inputMsg_wellFormed runtime rest long
      by_cases pong : first = 0x03
      · subst pong
        rw [decodesWellFormed_of_ok runtime (decodeClientMsg_pong runtime rest)]
        rintro _ ⟨⟩
        exact pongMsg_wellFormed runtime rest
      by_cases loadout : first = 0x04
      · subst loadout
        rw [decodesWellFormed_of_ok runtime
          (decodeClientMsg_loadout runtime rest)]
        split
        next => simp
        next =>
          rintro _ ⟨⟩
          exact loadoutMsg_wellFormed runtime rest
      rw [decodesWellFormed_of_ok runtime
        (decodeClientMsg_other runtime rest join input pong loadout)]
      simp

def typeTwoText : String := "\x7b\"type\":2\x7d"

def typeTwoRuntime : JsRuntime :=
  .ofTexts [(typeTwoText, .object [("type", .nat 2)])]

/-- The message of this `CLIENT_JOIN` has the type of a `CLIENT_INPUT`, and no
other field. -/
theorem not_decodesWellFormed_type_two :
    ¬ DecodesWellFormed typeTwoRuntime (0x01 :: asciiBytes typeTwoText) := by
  rw [decodesWellFormed_of_ok typeTwoRuntime (decodeClientMsg_join ..)]
  intro wellFormed
  have joined := wellFormed _ rfl
  rw [joinMsg_wellFormed_iff] at joined
  have same := Json.nat_injective (joined (.nat 2) rfl)
  cases same

end FuryClash.Server
