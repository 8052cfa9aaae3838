import FuryClash.Client.OwnBytes
import FuryClash.Client.UrlParsers

namespace FuryClash.Client

open FuryClash.Data

/-! The text fields of the lobby: the address of the server, the code of the
room that was created, and the code that the other player types. -/

/-- The arrays of `g_lobby`, as far as the byte that ends them. -/
structure LobbyTexts where
  serverUrl : List UInt8
  roomCode : List UInt8
  codeInput : List UInt8
  errorMsg : List UInt8

def urlSize : Nat := 128

def codeSize : Nat := 8

def lobbyFieldAppend (field : List UInt8) (maxlen : Nat) (text : List UInt8) :
    List UInt8 :=
  if field.length + text.length < maxlen - 1 then field ++ text else field

def lobbyFieldBackspace (field : List UInt8) : List UInt8 := field.dropLast

def upper (c : UInt8) : UInt8 := if 97 ≤ c ∧ c ≤ 122 then c - 32 else c

/-- The letters of a code: none of them is an I, an O, a 0 or a 1. -/
def codeLetters : List Char := "ABCDEFGHJKLMNPQRSTUVWXYZ23456789".toList

/-- The text of the code, from the draws of `SDL_rand(32)`. -/
def codeText (draws : Fin 6 → Fin 32) : String :=
  String.ofList (List.ofFn fun i => codeLetters.getD (draws i) 'A')

def genRoomCode (draws : Fin 6 → Fin 32) : List UInt8 :=
  asciiBytes (codeText draws)

namespace LobbyTexts

/-- `iosUrl` is `FC_IOS_SERVER_URL`. -/
def init (iosUrl : List UInt8) : LobbyTexts :=
  ⟨(cut iosUrl).take (urlSize - 1), [], [], []⟩

/-- The code takes letters as long as it has fewer than six. -/
def handleTextInput (sub : LobbySubState) (text : List UInt8)
    (t : LobbyTexts) : LobbyTexts :=
  match sub with
  | .setup =>
      { t with serverUrl := lobbyFieldAppend t.serverUrl urlSize (cut text) }
  | .enterCode =>
      if t.codeInput.length < 6 then
        { t with
          codeInput := lobbyFieldAppend t.codeInput codeSize
            (((cut text).take 15).map upper) }
      else t
  | _ => t

/-- `SDLK_BACKSPACE` in `lobby_handle_key`. -/
def backspace (sub : LobbySubState) (t : LobbyTexts) : LobbyTexts :=
  match sub with
  | .setup => { t with serverUrl := lobbyFieldBackspace t.serverUrl }
  | .enterCode => { t with codeInput := lobbyFieldBackspace t.codeInput }
  | _ => t

def joinCode (t : LobbyTexts) : LobbyTexts :=
  { t with roomCode := t.codeInput.take (codeSize - 1), errorMsg := [] }

end LobbyTexts

def joinerId (t : LobbyTexts) : List UInt8 :=
  (t.codeInput ++ asciiBytes "P2").take 15

def lobbyJoinRoom (os : Os) (t : LobbyTexts) (lobby : Lobby) (net : Net) :
    LobbyTexts × Lobby × Net :=
  if t.codeInput = [] then (t, lobby, net)
  else
    (t.joinCode, { lobby with isP1 := false, sub := .waiting },
      (net.configure (some t.serverUrl) t.joinCode.roomCode (joinerId t)
        1).connect os none)

inductive TextEvent where
  | input (sub : LobbySubState) (text : List UInt8)
  | backspace (sub : LobbySubState)
  | createRoom (draws : Fin 6 → Fin 32)
  | joinRoom
  | lobbyInit

def LobbyTexts.step (iosUrl : List UInt8) : Machine LobbyTexts TextEvent
  | t, .input sub text => t.handleTextInput sub text
  | t, .backspace sub => t.backspace sub
  | t, .createRoom draws => { t with roomCode := genRoomCode draws }
  | t, .joinRoom => if t.codeInput = [] then t else t.joinCode
  | _, .lobbyInit => .init iosUrl

/-- Each text and the byte that ends it lie in their array, and a code has no
small letters and no more than six letters. -/
structure LobbyTexts.Fits (t : LobbyTexts) : Prop where
  serverUrl : t.serverUrl.length < urlSize ∧ 0 ∉ t.serverUrl
  codeInput : t.codeInput.length ≤ 6 ∧
    ∀ c ∈ t.codeInput, c ≠ 0 ∧ upper c = c
  roomCode : t.roomCode.length ≤ 6 ∧
    ∀ c ∈ t.roomCode, c ≠ 0 ∧ upper c = c

theorem mem_codeText {draws : Fin 6 → Fin 32} {letter : Char}
    (within : letter ∈ (codeText draws).toList) : letter ∈ codeLetters := by
  rw [codeText, String.toList_ofList, List.mem_ofFn] at within
  obtain ⟨i, rfl⟩ := within
  have bound : (draws i).val < codeLetters.length := (draws i).isLt
  rw [List.getD_eq_getElem?_getD, List.getElem?_eq_getElem bound,
    Option.getD_some]
  exact List.getElem_mem bound

theorem length_codeText (draws : Fin 6 → Fin 32) :
    (codeText draws).toList.length = 6 := by
  rw [codeText, String.toList_ofList, List.length_ofFn]

theorem length_genRoomCode (draws : Fin 6 → Fin 32) :
    (genRoomCode draws).length = 6 := by
  rw [genRoomCode, asciiBytes, List.length_map, length_codeText]

theorem genRoomCode_letters (draws : Fin 6 → Fin 32) :
    ∀ c ∈ genRoomCode draws, c ≠ 0 ∧ upper c = c := by
  have all : ∀ letter ∈ codeLetters, UInt8.ofNat letter.toNat ≠ 0 ∧
      upper (UInt8.ofNat letter.toNat) = UInt8.ofNat letter.toNat :=
    forall_of_all (by decide +kernel)
  intro c within
  obtain ⟨letter, there, rfl⟩ := List.mem_map.mp within
  exact all letter (mem_codeText there)

variable {field text : List UInt8} {maxlen : Nat}

theorem upper_upper (c : UInt8) : upper (upper c) = upper c := by
  have spread : ∀ n : Fin 256,
      upper (upper (UInt8.ofNat n)) = upper (UInt8.ofNat n) := by
    decide +kernel
  have value := spread ⟨c.toNat, c.toNat_lt⟩
  rwa [UInt8.ofNat_toNat] at value

theorem upper_ne_zero {c : UInt8} (some_letter : c ≠ 0) : upper c ≠ 0 := by
  rw [upper]
  split
  next small =>
    obtain ⟨low, high⟩ := small
    rw [UInt8.le_iff_toNat_le] at low
    intro zero
    have value := congrArg UInt8.toNat zero
    rw [UInt8.toNat_sub_of_le _ _ (by
      rw [UInt8.le_iff_toNat_le]
      exact (by decide : (32 : UInt8).toNat ≤ (97 : UInt8).toNat).trans low)]
      at value
    have first : (97 : UInt8).toNat = 97 := rfl
    have shift : (32 : UInt8).toNat = 32 := rfl
    have none_left : (0 : UInt8).toNat = 0 := rfl
    omega
  next => exact some_letter

theorem lobbyFieldAppend_length (fits : field.length < maxlen) :
    (lobbyFieldAppend field maxlen text).length < maxlen := by
  rw [lobbyFieldAppend]
  split
  next room =>
    rw [List.length_append]
    omega
  next => exact fits

theorem mem_lobbyFieldAppend {c : UInt8}
    (within : c ∈ lobbyFieldAppend field maxlen text) :
    c ∈ field ∨ c ∈ text := by
  rw [lobbyFieldAppend] at within
  split at within
  next => exact List.mem_append.mp within
  next => exact .inl within

theorem zero_not_mem_cut (text : List UInt8) : 0 ∉ cut text := by
  intro within
  exact absurd (List.mem_takeWhile_imp within) (by decide)

namespace LobbyTexts

variable {t : LobbyTexts}

theorem init_fits (iosUrl : List UInt8) : (init iosUrl).Fits where
  serverUrl := by
    constructor
    · rw [init, List.length_take]
      have size : urlSize = 128 := rfl
      omega
    · exact fun within =>
        zero_not_mem_cut iosUrl (List.mem_of_mem_take within)
  codeInput := ⟨Nat.zero_le 6, fun c within => by cases within⟩
  roomCode := ⟨Nat.zero_le 6, fun c within => by cases within⟩

theorem Fits.input (fits : t.Fits) (sub : LobbySubState)
    (text : List UInt8) : (t.handleTextInput sub text).Fits := by
  cases sub with
  | setup =>
      refine ⟨⟨lobbyFieldAppend_length fits.serverUrl.1, fun within => ?_⟩,
        fits.codeInput, fits.roomCode⟩
      rcases mem_lobbyFieldAppend within with old | new
      · exact fits.serverUrl.2 old
      · exact zero_not_mem_cut text new
  | enterCode =>
      rw [handleTextInput]
      split
      next room =>
        refine ⟨fits.serverUrl, ⟨?_, fun c within => ?_⟩, fits.roomCode⟩
        · rw [lobbyFieldAppend]
          split
          next whole =>
            have size : codeSize = 8 := rfl
            rw [List.length_append]
            omega
          next => exact fits.codeInput.1
        · rcases mem_lobbyFieldAppend within with old | new
          · exact fits.codeInput.2 c old
          · obtain ⟨letter, there, rfl⟩ := List.mem_map.mp new
            refine ⟨upper_ne_zero fun zero => ?_, upper_upper letter⟩
            exact zero_not_mem_cut text (zero ▸ List.mem_of_mem_take there)
      next => exact fits
  | _ => exact fits

theorem Fits.backspace (fits : t.Fits) (sub : LobbySubState) :
    (t.backspace sub).Fits := by
  cases sub with
  | setup =>
      refine ⟨⟨?_, fun within => ?_⟩, fits.codeInput, fits.roomCode⟩
      · exact (List.dropLast_sublist _).length_le.trans_lt fits.serverUrl.1
      · exact fits.serverUrl.2 (List.dropLast_subset _ within)
  | enterCode =>
      refine ⟨fits.serverUrl, ⟨?_, fun c within => ?_⟩, fits.roomCode⟩
      · exact (List.dropLast_sublist _).length_le.trans fits.codeInput.1
      · exact fits.codeInput.2 c (List.dropLast_subset _ within)
  | _ => exact fits

theorem Fits.joinCode (fits : t.Fits) : t.joinCode.Fits where
  serverUrl := fits.serverUrl
  codeInput := fits.codeInput
  roomCode := by
    constructor
    · exact (List.take_sublist _ _).length_le.trans fits.codeInput.1
    · exact fun c within =>
        fits.codeInput.2 c (List.mem_of_mem_take within)

/-- No text ever leaves its array, and no code has small letters. -/
theorem always_fits (iosUrl : List UInt8) (events : List TextEvent) :
    (step iosUrl).Always Fits (init iosUrl) events := by
  refine Machine.always_of_invariant Fits (fun t event fits => ?_)
    (fun _ fits => fits) (init_fits iosUrl) events
  cases event with
  | input sub text => exact fits.input sub text
  | backspace sub => exact fits.backspace sub
  | createRoom draws =>
      exact ⟨fits.serverUrl, fits.codeInput,
        (length_genRoomCode draws).le, genRoomCode_letters draws⟩
  | joinRoom =>
      rw [step]
      split
      next => exact fits
      next => exact fits.joinCode
  | lobbyInit => exact init_fits iosUrl

theorem cut_word {piece : List UInt8} (word : 0 ∉ piece) :
    cut piece = piece := by
  have whole := cut_append word []
  have none_left : cut [] = [] := rfl
  rwa [none_left, List.append_nil] at whole

theorem handleTextInput_code {piece : List UInt8} (word : 0 ∉ piece)
    (room : t.codeInput.length + piece.length ≤ 6) :
    (t.handleTextInput .enterCode piece).codeInput =
      t.codeInput ++ piece.map upper := by
  rw [handleTextInput, cut_word word, List.take_of_length_le (by omega)]
  split
  next =>
    have size : codeSize = 8 := rfl
    exact if_pos (by rw [List.length_map]; omega)
  next full =>
    have none_left : piece = [] := List.length_eq_zero_iff.mp (by omega)
    rw [none_left, List.map_nil, List.append_nil]

theorem typed_pieces {pieces : List (List UInt8)}
    (words : ∀ piece ∈ pieces, 0 ∉ piece)
    (room : t.codeInput.length + pieces.flatten.length ≤ 6) :
    (pieces.foldl (fun t piece => t.handleTextInput .enterCode piece)
      t).codeInput = t.codeInput ++ pieces.flatten.map upper := by
  induction pieces generalizing t with
  | nil => exact (List.append_nil _).symm
  | cons piece pieces ih =>
      obtain ⟨word, others⟩ := List.forall_mem_cons.mp words
      rw [List.flatten_cons, List.length_append] at room
      have first := @handleTextInput_code t piece word (by omega)
      rw [List.foldl_cons, ih others, first, List.flatten_cons, List.map_append,
        List.append_assoc]
      rw [first, List.length_append, List.length_map]
      omega

theorem typed_full (full : t.codeInput.length = 6)
    (pieces : List (List UInt8)) :
    (pieces.foldl (fun t piece => t.handleTextInput .enterCode piece)
      t).codeInput = t.codeInput := by
  induction pieces generalizing t with
  | nil => rfl
  | cons piece pieces ih =>
      have same : t.handleTextInput .enterCode piece = t :=
        if_neg (by omega)
      rw [List.foldl_cons, same, ih full]

/-- Typed in pieces of any length and in any case, the code is the one that was
read out; what is typed behind it is dropped. -/
theorem typed_code {code : List UInt8} (six : code.length = 6)
    (empty : t.codeInput = []) {pieces : List (List UInt8)}
    (words : ∀ piece ∈ pieces, 0 ∉ piece)
    (same : pieces.flatten.map upper = code) (more : List (List UInt8)) :
    ((pieces ++ more).foldl
      (fun t piece => t.handleTextInput .enterCode piece) t).codeInput =
        code := by
  have length : pieces.flatten.length = 6 := by
    rw [← six, ← same, List.length_map]
  have typed := @typed_pieces t pieces words
    (by rw [empty, length]; exact Nat.le_refl 6)
  rw [empty, List.nil_append, same] at typed
  rw [List.foldl_append, typed_full (by rw [typed, six]), typed]

end LobbyTexts

end FuryClash.Client
