import FuryClash.Server.Accounts

namespace FuryClash.Server

open FuryClash.Data

/-! What holds of the accounts between any two calls of the requests, however
the requests are interleaved. -/

structure Account.Apart (account other : Account) : Prop where
  id : account.id ≠ other.id
  username : account.username ≠ other.username
  email : account.email ≠ other.email

/-- A row that a request may write. -/
structure Account.Legal (lib : Libraries) (account : Account) : Prop where
  username : isUsername account.username = true
  email : lib.isEmail account.email = true
  hashed : ∃ password salt, isPassword password = true ∧
    account.passwordHash = lib.hash password salt

/-- What the libraries promise: a password fits its own hash. -/
def Libraries.Honest (lib : Libraries) : Prop :=
  ∀ password salt, lib.compare password (lib.hash password salt) = true

namespace Accounts

def Opens (lib : Libraries) (id password : String) (a : Accounts) : Prop :=
  ∃ account ∈ a.accounts, account.id = id ∧
    lib.compare password account.passwordHash = true

/-- No two accounts share a name, an address or an id; what a request wrote was
checked; whoever has a token has shown the password of its account, and nobody
else has renamed one. -/
structure Sound (lib : Libraries) (a : Accounts) : Prop where
  apart : a.accounts.Pairwise Account.Apart
  legal : ∀ account ∈ a.accounts, account.Legal lib
  issued : ∀ issue ∈ a.issued, a.Opens lib issue.payload.sub issue.password
  renamed : ∀ given ∈ a.renamed, ∃ issue ∈ a.issued, issue.payload = given.1

structure Grows (a a' : Accounts) : Prop where
  accounts : ∀ account ∈ a.accounts, ∃ later ∈ a'.accounts,
    later.id = account.id ∧ later.email = account.email ∧
      later.passwordHash = account.passwordHash
  issued : a.issued ⊆ a'.issued

/-- A token that verifies has been signed here. -/
def Unforged (lib : Libraries) (a : Accounts) : AccountCall → Prop
  | .verify token => ∀ now payload, lib.verify token now = some payload →
      ∃ issue ∈ a.issued, issue.payload = payload
  | _ => True

variable {lib : Libraries} {a a' a'' : Accounts} {account : Account}
  {bearer : Payload} {id username email password passwordHash : String}

theorem Grows.refl (a : Accounts) : Grows a a :=
  ⟨fun account mem => ⟨account, mem, rfl, rfl, rfl⟩, List.Subset.refl _⟩

theorem Grows.trans (first : Grows a a') (second : Grows a' a'') :
    Grows a a'' := by
  refine ⟨fun account mem => ?_, List.Subset.trans first.issued second.issued⟩
  obtain ⟨next, memNext, id, email, hash⟩ := first.accounts account mem
  obtain ⟨last, memLast, id', email', hash'⟩ := second.accounts next memNext
  exact ⟨last, memLast, id'.trans id, email'.trans email, hash'.trans hash⟩

def contract (lib : Libraries) : Contract Accounts AccountCall where
  valid := Sound lib
  grows _ := Grows
  good := Unforged lib
  refl _ := Grows.refl
  trans := Grows.trans

theorem Opens.grows (opens : a.Opens lib id password) (grows : Grows a a') :
    a'.Opens lib id password := by
  obtain ⟨account, mem, isId, fits⟩ := opens
  obtain ⟨later, memLater, sameId, _, sameHash⟩ := grows.accounts account mem
  exact ⟨later, memLater, sameId.trans isId, sameHash ▸ fits⟩

theorem empty_sound (lib : Libraries) : empty.Sound lib where
  apart := .nil
  legal _ mem := by cases mem
  issued _ mem := by cases mem
  renamed _ mem := by cases mem

theorem Sound.of_grows (sound : a.Sound lib) (grows : Grows a a')
    (apart : a'.accounts.Pairwise Account.Apart)
    (legal : ∀ account ∈ a'.accounts, account.Legal lib)
    (issued : a'.issued = a.issued)
    (renamed : ∀ given ∈ a'.renamed,
      ∃ issue ∈ a'.issued, issue.payload = given.1) : a'.Sound lib where
  apart := apart
  legal := legal
  issued issue mem := (sound.issued issue (issued ▸ mem)).grows grows
  renamed := renamed

theorem Sound.create (sound : a.Sound lib) (legal : account.Legal lib) :
    (a.create account).2.Sound lib ∧ Grows a (a.create account).2 ∧
      ∀ row, (a.create account).1 = some row →
        row = account ∧ row ∈ (a.create account).2.accounts := by
  rw [Accounts.create]
  split
  next unique =>
    have grows : Grows a { a with accounts := a.accounts ++ [account] } :=
      ⟨fun old mem => ⟨old, List.mem_append_left _ mem, rfl, rfl, rfl⟩,
        List.Subset.refl _⟩
    refine ⟨sound.of_grows grows ?_ ?_ rfl sound.renamed, grows, ?_⟩
    · refine List.pairwise_append.mpr
        ⟨sound.apart, List.pairwise_singleton _ _, fun old mem new isNew => ?_⟩
      obtain ⟨id, username, email⟩ := unique old mem
      rw [List.mem_singleton.mp isNew]
      exact ⟨id, username, email⟩
    · exact List.forall_mem_append.mpr
        ⟨sound.legal, List.forall_mem_singleton.mpr legal⟩
    · rintro row ⟨⟩
      exact ⟨rfl, List.mem_append_right _ List.mem_cons_self⟩
  next =>
    exact ⟨sound, .refl a, fun row none => by cases none⟩

theorem byUsername_some (found : a.byUsername username = some account) :
    account ∈ a.accounts ∧ account.username = username :=
  ⟨List.mem_of_find?_eq_some found,
    by simpa using List.find?_some found⟩

@[simp] theorem rename_id (account : Account) :
    (rename id username account).id = account.id := by
  rw [rename]
  split <;> rfl

@[simp] theorem rename_email (account : Account) :
    (rename id username account).email = account.email := by
  rw [rename]
  split <;> rfl

@[simp] theorem rename_passwordHash (account : Account) :
    (rename id username account).passwordHash = account.passwordHash := by
  rw [rename]
  split <;> rfl

theorem rename_username_self (isId : account.id = id) :
    (rename id username account).username = username := by
  rw [rename, if_pos isId]

theorem rename_username_other (other : account.id ≠ id) :
    (rename id username account).username = account.username := by
  rw [rename, if_neg other]

theorem apart_rename (apart : a.accounts.Pairwise Account.Apart)
    (free : ∀ other ∈ a.accounts, other.id ≠ id →
      other.username ≠ username) :
    (a.accounts.map (rename id username)).Pairwise Account.Apart := by
  refine List.pairwise_map.mpr (apart.imp_of_mem fun memX memY apart => ?_)
  refine ⟨by simpa using apart.id, ?_, by simpa using apart.email⟩
  rename_i x y
  by_cases isX : x.id = id
  · have otherY : y.id ≠ id := fun isY => apart.id (isX.trans isY.symm)
    rw [rename_username_self isX, rename_username_other otherY]
    exact (free y memY otherY).symm
  · rw [rename_username_other isX]
    by_cases isY : y.id = id
    · rw [rename_username_self isY]
      exact free x memX isX
    · rw [rename_username_other isY]
      exact apart.username

theorem Sound.update (sound : a.Sound lib) {name : Option String}
    (legal : ∀ username, name = some username → isUsername username = true)
    (signed : ∃ issue ∈ a.issued, issue.payload = bearer) :
    (a.update bearer name).2.Sound lib ∧ Grows a (a.update bearer name).2 := by
  unfold Accounts.update
  split
  next => exact ⟨sound, .refl a⟩
  next => exact ⟨sound, .refl a⟩
  next account username _ =>
    split
    next free =>
      have grows : Grows a { a with
          accounts := a.accounts.map (rename bearer.sub username)
          renamed := a.renamed ++ [(bearer, username)] } :=
        ⟨fun old mem => ⟨_, List.mem_map_of_mem mem, rename_id old,
          rename_email old, rename_passwordHash old⟩, List.Subset.refl _⟩
      refine ⟨sound.of_grows grows (apart_rename sound.apart free) ?_ rfl ?_,
        grows⟩
      · intro renamed mem
        obtain ⟨old, memOld, rfl⟩ := List.mem_map.mp mem
        have was := sound.legal old memOld
        refine ⟨?_, by simpa using was.email, by simpa using was.hashed⟩
        by_cases isId : old.id = bearer.sub
        · rw [rename_username_self isId]
          exact legal username rfl
        · rw [rename_username_other isId]
          exact was.username
      · exact List.forall_mem_append.mpr
          ⟨sound.renamed, List.forall_mem_singleton.mpr signed⟩
    next => exact ⟨sound, .refl a⟩

theorem Sound.sign (sound : a.Sound lib)
    (opens : a.Opens lib bearer.sub password) :
    ({ a with issued := a.issued ++ [⟨bearer, password⟩] } :
        Accounts).Sound lib ∧
      Grows a { a with issued := a.issued ++ [⟨bearer, password⟩] } := by
  have grows : Grows a { a with issued := a.issued ++ [⟨bearer, password⟩] } :=
    ⟨fun old mem => ⟨old, mem, rfl, rfl, rfl⟩, List.subset_append_left _ _⟩
  refine ⟨⟨sound.apart, sound.legal, ?_, fun given mem => ?_⟩, grows⟩
  · exact List.forall_mem_append.mpr
      ⟨sound.issued, List.forall_mem_singleton.mpr opens⟩
  · obtain ⟨issue, memIssue, same⟩ := sound.renamed given mem
    exact ⟨issue, List.mem_append_left _ memIssue, same⟩

section

variable {α : Type} {task : Nat} {post : α → Accounts → Prop}

abbrev Keeps (lib : Libraries) (task : Nat) (post : α → Accounts → Prop)
    (code : AccountCode α) (a : Accounts) : Prop :=
  code.Safe (exec lib) (contract lib) task post a

theorem keeps_read {call : AccountCall} {next : call.Answer → AccountCode α}
    (reads : ∀ env a, (exec lib task env call a).2 = a)
    (rest : ∀ a' env, Grows a a' → Unforged lib a' call →
      Keeps lib task post (next (exec lib task env call a').1) a') :
    Keeps lib task post (.await call next) a := by
  intro later grows valid good env
  have kept := rest later env grows good
  rw [← reads env later] at kept
  refine ⟨?_, fun other _ => ?_, ?_⟩
  · rw [reads]
    exact valid
  · rw [reads]
    exact .refl later
  · rw [reads] at kept ⊢
    exact kept

theorem keeps_findByUsername {next : Option Account → AccountCode α}
    (rest : ∀ a' found, Grows a a' → (∀ row, found = some row →
        row ∈ a'.accounts ∧ row.username = username) →
      Keeps lib task post (next found) a') :
    Keeps lib task post (.await (.findByUsername username) next) a :=
  keeps_read (fun _ _ => rfl) fun a' _ grows _ =>
    rest a' (a'.byUsername username) grows fun _ => byUsername_some

theorem keeps_compare {next : Bool → AccountCode α}
    (rest : ∀ a', Grows a a' →
      Keeps lib task post (next (lib.compare password passwordHash)) a') :
    Keeps lib task post (.await (.compare password passwordHash) next) a :=
  keeps_read (fun _ _ => rfl) fun a' _ grows _ => rest a' grows

theorem keeps_verify {token : String} {next : Option Payload → AccountCode α}
    (rest : ∀ a' bearer, (∀ payload, bearer = some payload →
        ∃ issue ∈ a'.issued, issue.payload = payload) →
      Keeps lib task post (next bearer) a') :
    Keeps lib task post (.await (.verify token) next) a :=
  keeps_read (fun _ _ => rfl) fun a' env _ unforged =>
    rest a' (lib.verify token env.now) (unforged env.now)

theorem keeps_create {next : Option Account → AccountCode α}
    (legal : isUsername username = true ∧ lib.isEmail email = true)
    (hashed : ∃ password salt, isPassword password = true ∧
      passwordHash = lib.hash password salt)
    (rest : ∀ a' answer, (∀ row, answer = some row →
        row ∈ a'.accounts ∧ row.passwordHash = passwordHash) →
      Keeps lib task post (next answer) a') :
    Keeps lib task post (.await (.create username email passwordHash) next)
      a := by
  intro later _ valid _ env
  obtain ⟨sound, grows, made⟩ := @Sound.create lib later
    (newAccount env.id username email passwordHash env.now) valid
    ⟨legal.1, legal.2, hashed⟩
  refine ⟨sound, fun _ _ => grows, rest _ _ fun row isRow => ?_⟩
  obtain ⟨rfl, mem⟩ := made row isRow
  exact ⟨mem, rfl⟩

theorem keeps_update {name : Option String}
    {next : Option Account → AccountCode α}
    (legal : ∀ username, name = some username → isUsername username = true)
    (signed : ∃ issue ∈ a.issued, issue.payload = bearer)
    (rest : ∀ a' answer, Keeps lib task post (next answer) a') :
    Keeps lib task post (.await (.update bearer name) next) a := by
  intro later growth valid _ env
  obtain ⟨issue, mem, same⟩ := signed
  obtain ⟨sound, grows⟩ := @Sound.update lib later bearer valid name legal
    ⟨issue, growth.issued mem, same⟩
  exact ⟨sound, fun _ _ => grows, rest _ _⟩

theorem keeps_sign {next : String → AccountCode α}
    (opens : a.Opens lib bearer.sub password)
    (rest : ∀ a' answer, Keeps lib task post (next answer) a') :
    Keeps lib task post (.await (.sign bearer password) next) a := by
  intro later growth valid _ env
  obtain ⟨sound, grows⟩ := @Sound.sign lib later bearer password valid
    (opens.grows growth)
  exact ⟨sound, fun _ _ => grows, rest _ _⟩

theorem keeps_done (outcome : AccountOutcome) :
    Keeps lib task (fun _ _ => True) (pure outcome) a := trivial

theorem replyToken_keeps (statusCode : Nat) {player : Account}
    (mem : player ∈ a.accounts) (grows : Grows a a')
    (fits : lib.compare password player.passwordHash = true) :
    Keeps lib task (fun _ _ => True) (replyToken statusCode player password)
      a' :=
  keeps_sign (Opens.grows ⟨player, mem, rfl, fits⟩ grows) fun _ _ =>
    keeps_done _

theorem registerSchema_some {body : JsVal} {fields : RegisterBody}
    (checked : registerSchema lib body = some fields) :
    isUsername fields.username = true ∧ lib.isEmail fields.email = true ∧
      isPassword fields.password = true := by
  unfold registerSchema at checked
  split at checked
  next members =>
    simp only [Option.bind_eq_bind, Option.bind_eq_some_iff] at checked
    obtain ⟨username, _, email, _, password, _, checked⟩ := checked
    split at checked
    next all =>
      cases checked
      rw [Bool.and_eq_true, Bool.and_eq_true] at all
      exact ⟨all.1.1, all.1.2, all.2⟩
    next => cases checked
  next => cases checked

theorem updateSchema_some {body : JsVal} {name : Option String}
    (checked : updateSchema body = some name) :
    ∀ username, name = some username → isUsername username = true := by
  rintro username rfl
  unfold updateSchema at checked
  split at checked
  next =>
    split at checked
    next =>
      split at checked
      next => cases checked
      next =>
        split at checked
        next legal =>
          cases checked
          exact legal
        next => cases checked
      next => cases checked
    next => cases checked
  next => cases checked

theorem register_keeps (honest : lib.Honest) (body : JsVal) :
    Keeps lib task (fun _ _ => True) (register lib body) a := by
  rw [register]
  split
  next => exact keeps_done _
  next fields checked =>
    obtain ⟨username, email, password⟩ := registerSchema_some checked
    refine keeps_read (fun _ _ => rfl) fun a' env _ _ => ?_
    generalize (exec lib task env (.findFirst fields.username fields.email)
      a').1 = existing
    change Keeps lib task _ (ite _ _ _) a'
    split
    next => exact keeps_done _
    next =>
      split
      next => exact keeps_done _
      next =>
        refine keeps_read (fun _ _ => rfl) fun a' env _ _ => ?_
        refine keeps_create ⟨username, email⟩
          ⟨fields.password, env.salt, password, rfl⟩ fun a' answer made => ?_
        cases answer with
        | none => exact keeps_done _
        | some row =>
            obtain ⟨mem, isHash⟩ := made row rfl
            refine replyToken_keeps 201 mem (.refl a') ?_
            rw [isHash]
            exact honest fields.password env.salt

theorem login_keeps (body : JsVal) :
    Keeps lib task (fun _ _ => True) (login lib body) a := by
  rw [login]
  split
  next => exact keeps_done _
  next fields _ =>
    refine keeps_findByUsername fun a' found _ known => ?_
    cases found with
    | none => exact keeps_done _
    | some player =>
        obtain ⟨mem, _⟩ := known player rfl
        refine keeps_compare fun later grows => ?_
        change Keeps lib task _ (ite _ _ _) later
        split
        next fits => exact replyToken_keeps 200 mem grows fits
        next => exact keeps_done _

theorem withAuth_keeps {token : Option String}
    {handler : Payload → AccountCode AccountOutcome}
    (handles : ∀ a' bearer, (∃ issue ∈ a'.issued, issue.payload = bearer) →
      Keeps lib task (fun _ _ => True) (handler bearer) a') :
    Keeps lib task (fun _ _ => True) (withAuth token handler) a := by
  cases token with
  | none => exact keeps_done _
  | some token =>
      refine keeps_verify fun a' bearer signed => ?_
      cases bearer with
      | none => exact keeps_done _
      | some bearer => exact handles a' bearer (signed bearer rfl)

theorem getProfile_keeps (segment : String) (token : Option String) :
    Keeps lib task (fun _ _ => True) (getProfile segment token) a := by
  rw [getProfile]
  split
  next =>
    refine withAuth_keeps fun a' bearer _ => ?_
    refine keeps_read (fun _ _ => rfl) fun later env _ _ => ?_
    generalize (exec lib task env (.findById bearer.sub) later).1 = found
    cases found with
    | none => exact keeps_done _
    | some player => exact keeps_done _
  next =>
    refine keeps_findByUsername fun a' found _ _ => ?_
    cases found with
    | none => exact keeps_done _
    | some player => exact keeps_done _

theorem patchMe_keeps (token : Option String) (body : JsVal) :
    Keeps lib task (fun _ _ => True) (patchMe lib token body) a := by
  refine withAuth_keeps fun a' bearer signed => ?_
  split
  next => exact keeps_done _
  next name checked =>
    have legal := updateSchema_some checked
    have updating {later : Accounts} (grows : Grows a' later) :
        Keeps lib task (fun _ _ => True) (updatePlayer bearer name) later := by
      obtain ⟨issue, mem, same⟩ := signed
      refine keeps_update legal ⟨issue, grows.issued mem, same⟩
        fun _ answer => ?_
      cases answer with
      | none => exact keeps_done _
      | some updated => exact keeps_done _
    cases name with
    | none => exact updating (.refl a')
    | some username =>
        refine keeps_findByUsername fun later found grows _ => ?_
        change Keeps lib task _ (ite _ _ _) later
        split
        next => exact keeps_done _
        next => exact updating grows

theorem code_keeps (honest : lib.Honest) (request : AccountRequest) :
    Keeps lib task (fun _ _ => True) (request.code lib task) a := by
  cases request with
  | register body => exact register_keeps honest body
  | login body => exact login_keeps body
  | getProfile segment token => exact getProfile_keeps segment token
  | patchMe token body => exact patchMe_keeps token body

end

/-- However the requests are interleaved: no two accounts share a name, an
address or an id, what was written had been checked, whoever has been given a
token has shown the password of its account, and an account has been renamed by
the bearer of such a token only. -/
theorem always_sound (honest : lib.Honest) (sound : a.Sound lib)
    {events : List (PoolEvent AccountRequest AccountEnv)}
    (unforged : (Pool.step (exec lib) (AccountRequest.code lib)).Along
      (Pool.Good (Unforged lib)) ⟨a, []⟩ events) :
    (Pool.step (exec lib) (AccountRequest.code lib)).Always
      (fun pool => pool.shared.Sound lib) ⟨a, []⟩ events :=
  @Pool.always_valid _ _ _ _ _ _ (exec lib) (AccountRequest.code lib)
    (contract lib) a sound (fun _ request => code_keeps honest request) events
    unforged

end Accounts

def letterLibraries : Libraries where
  hash password _ := "$" ++ password
  compare password passwordHash := passwordHash == "$" ++ password
  sign payload _ := payload.sub ++ "." ++ payload.username
  verify token _ :=
    match token.toList with
    | id :: '.' :: name => some ⟨String.singleton id, String.ofList name⟩
    | _ => none
  isEmail text := text.toList.contains '@'
  complaint _ := "Invalid input"

theorem letterLibraries_honest : letterLibraries.Honest :=
  fun password _ => beq_self_eq_true ("$" ++ password)

def adaBody : JsVal :=
  some (.object [("username", .string "ada"),
    ("email", .string "ada@fury.gg"), ("password", .string "secret")])

def raceEnv (id : String) : AccountEnv := ⟨id, 0, 0, 0⟩

/-- Both look before either writes; the first to write logs in, and renames
its account. -/
def raceEvents : List (PoolEvent AccountRequest AccountEnv) :=
  [.start (.register adaBody), .start (.register adaBody),
    .resume 0 (raceEnv "1"), .resume 1 (raceEnv "2"),
    .resume 0 (raceEnv "1"), .resume 1 (raceEnv "2"),
    .resume 0 (raceEnv "1"), .resume 1 (raceEnv "2"),
    .resume 0 (raceEnv "1"),
    .start (.login adaBody), .resume 2 (raceEnv "3"), .resume 2 (raceEnv "3"),
    .resume 2 (raceEnv "3"),
    .start (.patchMe (some "1.ada")
      (some (.object [("username", .string "Ada")]))),
    .resume 3 (raceEnv "4"), .resume 3 (raceEnv "4"),
    .resume 3 (raceEnv "4")]

def Accounts.shows (a : Accounts) : AccountCall → Bool
  | .verify token => (letterLibraries.verify token 0).all fun payload =>
      a.issued.any fun issue => issue.payload = payload
  | _ => true

theorem unforged_of_shows {a : Accounts} {call : AccountCall}
    (shows : a.shows call = true) : a.Unforged letterLibraries call := by
  cases call with
  | verify token =>
      intro now payload verified
      change Option.all _ (letterLibraries.verify token now) = true at shows
      rw [verified] at shows
      obtain ⟨issue, mem, same⟩ := List.any_eq_true.mp shows
      exact ⟨issue, mem, of_decide_eq_true same⟩
  | _ => trivial

theorem raceEvents_unforged :
    (Pool.step (Accounts.exec letterLibraries)
      (AccountRequest.code letterLibraries)).Along
      (Pool.Good (Accounts.Unforged letterLibraries)) ⟨.empty, []⟩
      raceEvents := by
  have shows : (Pool.step (Accounts.exec letterLibraries)
      (AccountRequest.code letterLibraries)).Along
      (Pool.Good fun a call => a.shows call = true) ⟨.empty, []⟩
      raceEvents := by
    decide +kernel
  exact shows.mono fun _ _ => Pool.Good.mono fun _ _ => unforged_of_shows

theorem always_sound_race :
    (Pool.step (Accounts.exec letterLibraries)
      (AccountRequest.code letterLibraries)).Always
      (fun pool => pool.shared.Sound letterLibraries) ⟨.empty, []⟩
      raceEvents :=
  Accounts.always_sound letterLibraries_honest
    (Accounts.empty_sound letterLibraries) raceEvents_unforged

end FuryClash.Server
