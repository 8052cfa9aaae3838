import FuryClash.Data.JsValue
import FuryClash.Data.Tasks
import FuryClash.Server.Persistence

namespace FuryClash.Server

open FuryClash.Data

/-! `routes/auth.ts` and `routes/profile.ts`: the requests that make, open and
rename an account. A request stops at every `await`. -/

structure Account where
  id : String
  username : String
  email : String
  passwordHash : String
  stats : Player
  coins : Int
  createdAt : Nat
  deriving DecidableEq

structure Payload where
  sub : String
  username : String
  deriving DecidableEq

/-- `bcryptjs`, `@fastify/jwt`, and of `zod` the check of an address and the
texts of its complaints. -/
structure Libraries where
  hash : (password : String) → (salt : Nat) → String
  compare : (password passwordHash : String) → Bool
  sign : Payload → (now : Nat) → String
  verify : (token : String) → (now : Nat) → Option Payload
  isEmail : String → Bool
  complaint : JsVal → String

/-- The history of the tokens: the password of the request that got it. -/
structure Issue where
  payload : Payload
  password : String

/-- What is committed. `issued` and `renamed` are history: the tokens that have
been signed, and the names that have been given, by the bearer of a token. -/
structure Accounts where
  accounts : List Account
  issued : List Issue
  renamed : List (Payload × String)

inductive AccountCall where
  | findFirst (username email : String)
  | findByUsername (username : String)
  | findById (id : String)
  | hash (password : String)
  | compare (password passwordHash : String)
  | create (username email passwordHash : String)
  | update (bearer : Payload) (username : Option String)
  | sign (payload : Payload) (password : String)
  | verify (token : String)

@[reducible] def AccountCall.Answer : AccountCall → Type
  | .findFirst _ _ => Option Account
  | .findByUsername _ => Option Account
  | .findById _ => Option Account
  | .hash _ => String
  | .compare _ _ => Bool
  | .create _ _ _ => Option Account
  | .update _ _ => Option Account
  | .sign _ _ => String
  | .verify _ => Option Payload

/-- `pick` is the row that `findFirst` takes of several. -/
structure AccountEnv where
  id : String
  salt : Nat
  now : Nat
  pick : Nat

abbrev AccountCode := Async AccountCall AccountCall.Answer

namespace Accounts

def empty : Accounts := ⟨[], [], []⟩

def byUsername (username : String) (a : Accounts) : Option Account :=
  a.accounts.find? fun account => account.username = username

def byId (id : String) (a : Accounts) : Option Account :=
  a.accounts.find? fun account => account.id = id

def findFirst (username email : String) (pick : Nat) (a : Accounts) :
    Option Account :=
  let found := a.accounts.filter fun account =>
    account.username = username ∨ account.email = email
  found[pick]?.or found.head?

/-- The columns that the schema declares as unique. -/
def Unique (account : Account) (a : Accounts) : Prop :=
  ∀ other ∈ a.accounts, other.id ≠ account.id ∧
    other.username ≠ account.username ∧ other.email ≠ account.email

instance (account : Account) (a : Accounts) :
    Decidable (a.Unique account) :=
  inferInstanceAs (Decidable (∀ _ ∈ _, _))

/-- The row with the defaults of the schema. -/
def newAccount (id username email passwordHash : String) (createdAt : Nat) :
    Account :=
  ⟨id, username, email, passwordHash, ⟨1000, 0, 0, 0, 0⟩, 0, createdAt⟩

/-- `none` when the database refuses. -/
def create (account : Account) (a : Accounts) : Option Account × Accounts :=
  if a.Unique account then
    (some account, { a with accounts := a.accounts ++ [account] })
  else (none, a)

def rename (id username : String) (account : Account) : Account :=
  if account.id = id then { account with username := username } else account

/-- `none` when there is no such row, or another one has the name. -/
def update (bearer : Payload) (username : Option String) (a : Accounts) :
    Option Account × Accounts :=
  match a.byId bearer.sub, username with
  | none, _ => (none, a)
  | some account, none => (some account, a)
  | some account, some username =>
      if ∀ other ∈ a.accounts,
          other.id ≠ bearer.sub → other.username ≠ username then
        (some { account with username := username },
          { a with
            accounts := a.accounts.map (rename bearer.sub username)
            renamed := a.renamed ++ [(bearer, username)] })
      else (none, a)

def exec (lib : Libraries) (_task : Nat) (env : AccountEnv) :
    (call : AccountCall) → Accounts → call.Answer × Accounts
  | .findFirst username email, a => (a.findFirst username email env.pick, a)
  | .findByUsername username, a => (a.byUsername username, a)
  | .findById id, a => (a.byId id, a)
  | .hash password, a => (lib.hash password env.salt, a)
  | .compare password passwordHash, a =>
      (lib.compare password passwordHash, a)
  | .create username email passwordHash, a =>
      a.create (newAccount env.id username email passwordHash env.now)
  | .update bearer username, a => a.update bearer username
  | .sign payload password, a =>
      (lib.sign payload env.now,
        { a with issued := a.issued ++ [⟨payload, password⟩] })
  | .verify token, a => (lib.verify token env.now, a)

end Accounts

def textLength (text : String) : Nat :=
  (text.toList.map fun letter => if letter.toNat < 2 ^ 16 then 1 else 2).sum

def isWordLetter (letter : Char) : Bool := letter.isAlphanum || letter == '_'

def isUsername (text : String) : Bool :=
  decide (3 ≤ textLength text) && decide (textLength text ≤ 20) &&
    text.toList.all isWordLetter

def isPassword (text : String) : Bool :=
  decide (6 ≤ textLength text) && decide (textLength text ≤ 72)

structure RegisterBody where
  username : String
  email : String
  password : String

structure LoginBody where
  username : String
  password : String

def stringField (name : String) (members : List (String × Json)) :
    Option String :=
  match Json.get name members with
  | some (.string text) => some text
  | _ => none

def registerSchema (lib : Libraries) : JsVal → Option RegisterBody
  | some (.object members) => do
      let username ← stringField "username" members
      let email ← stringField "email" members
      let password ← stringField "password" members
      if isUsername username && lib.isEmail email && isPassword password then
        some ⟨username, email, password⟩
      else none
  | _ => none

def loginSchema : JsVal → Option LoginBody
  | some (.object members) => do
      let username ← stringField "username" members
      let password ← stringField "password" members
      some ⟨username, password⟩
  | _ => none

/-- The schema is strict: no other key is allowed. -/
def updateSchema : JsVal → Option (Option String)
  | some (.object members) =>
      if members.all fun member => member.1 == "username" then
        match Json.get "username" members with
        | none => some none
        | some (.string text) => if isUsername text then some text else none
        | some _ => none
      else none
  | _ => none

inductive AccountErrorCode where
  | authInvalidCredentials
  | authUsernameTaken
  | authEmailTaken
  | authTokenInvalid
  | notFound
  | validation
  deriving DecidableEq

def AccountErrorCode.text : AccountErrorCode → String
  | .authInvalidCredentials => "AUTH_001"
  | .authUsernameTaken => "AUTH_002"
  | .authEmailTaken => "AUTH_003"
  | .authTokenInvalid => "AUTH_004"
  | .notFound => "GEN_001"
  | .validation => "GEN_003"

structure AccountError where
  code : AccountErrorCode
  message : String
  statusCode : Nat
  deriving DecidableEq

/-- `safePlayer` of `auth.ts`. -/
structure SafePlayer where
  id : String
  username : String
  elo : Int
  wins : Nat
  losses : Nat
  coins : Int
  createdAt : Nat
  deriving DecidableEq

/-- `safe` of `profile.ts`. -/
structure PublicPlayer where
  id : String
  username : String
  stats : Player
  coins : Int
  createdAt : Nat
  deriving DecidableEq

def Account.safePlayer (p : Account) : SafePlayer :=
  ⟨p.id, p.username, p.stats.elo, p.stats.wins, p.stats.losses, p.coins,
    p.createdAt⟩

def Account.safe (p : Account) : PublicPlayer :=
  ⟨p.id, p.username, p.stats, p.coins, p.createdAt⟩

inductive AccountOutcome where
  | authenticated (statusCode : Nat) (token : String) (player : SafePlayer)
  | profile (player : PublicPlayer)
  | refused (error : AccountError)
  /-- A constraint of the table or a missing row: status 500. -/
  | internal
  deriving DecidableEq

namespace AccountCode

def findFirst (username email : String) : AccountCode (Option Account) :=
  .await (.findFirst username email) .done

def findByUsername (username : String) : AccountCode (Option Account) :=
  .await (.findByUsername username) .done

def findById (id : String) : AccountCode (Option Account) :=
  .await (.findById id) .done

def hash (password : String) : AccountCode String :=
  .await (.hash password) .done

def compare (password passwordHash : String) : AccountCode Bool :=
  .await (.compare password passwordHash) .done

def create (username email passwordHash : String) :
    AccountCode (Option Account) :=
  .await (.create username email passwordHash) .done

def update (bearer : Payload) (username : Option String) :
    AccountCode (Option Account) :=
  .await (.update bearer username) .done

def sign (payload : Payload) (password : String) : AccountCode String :=
  .await (.sign payload password) .done

def verify (token : String) : AccountCode (Option Payload) :=
  .await (.verify token) .done

end AccountCode

open AccountCode

def invalid (lib : Libraries) (body : JsVal) : AccountOutcome :=
  .refused ⟨.validation, lib.complaint body, 400⟩

def usernameTaken : AccountOutcome :=
  .refused ⟨.authUsernameTaken, "Username already taken", 400⟩

def emailTaken : AccountOutcome :=
  .refused ⟨.authEmailTaken, "Email already registered", 400⟩

def invalidCredentials : AccountOutcome :=
  .refused ⟨.authInvalidCredentials, "Invalid credentials", 401⟩

def tokenInvalid : AccountOutcome :=
  .refused ⟨.authTokenInvalid, "Invalid or missing token", 401⟩

def playerNotFound : AccountOutcome :=
  .refused ⟨.notFound, "Player not found", 404⟩

def replyToken (statusCode : Nat) (player : Account) (password : String) :
    AccountCode AccountOutcome := do
  let token ← sign ⟨player.id, player.username⟩ password
  return .authenticated statusCode token player.safePlayer

def register (lib : Libraries) (body : JsVal) :
    AccountCode AccountOutcome := do
  match registerSchema lib body with
  | none => return invalid lib body
  | some fields => do
      let existing ← findFirst fields.username fields.email
      if existing.any (·.username == fields.username) then
        return usernameTaken
      if existing.any (·.email == fields.email) then
        return emailTaken
      let passwordHash ← hash fields.password
      let player ← create fields.username fields.email passwordHash
      match player with
      | none => return .internal
      | some player => replyToken 201 player fields.password

def login (lib : Libraries) (body : JsVal) : AccountCode AccountOutcome := do
  match loginSchema body with
  | none => return invalid lib body
  | some fields => do
      let player ← findByUsername fields.username
      match player with
      | none => return invalidCredentials
      | some player => do
          let valid ← compare fields.password player.passwordHash
          if valid then replyToken 200 player fields.password
          else return invalidCredentials

def withAuth (token : Option String)
    (handler : Payload → AccountCode AccountOutcome) :
    AccountCode AccountOutcome := do
  match token with
  | none => return tokenInvalid
  | some token => do
      let bearer ← verify token
      match bearer with
      | none => return tokenInvalid
      | some bearer => handler bearer

def getMe (token : Option String) : AccountCode AccountOutcome :=
  withAuth token fun bearer => do
    let player ← findById bearer.sub
    match player with
    | none => return .internal
    | some player => return .profile player.safe

def getUsername (username : String) : AccountCode AccountOutcome := do
  let player ← findByUsername username
  match player with
  | none => return playerNotFound
  | some player => return .profile player.safe

/-- `GET` of `/api/profile/` and a segment: the path `/me` goes before the one
with a parameter. -/
def getProfile (segment : String) (token : Option String) :
    AccountCode AccountOutcome :=
  if segment = "me" then getMe token else getUsername segment

def updatePlayer (bearer : Payload) (username : Option String) :
    AccountCode AccountOutcome := do
  let updated ← update bearer username
  match updated with
  | none => return .internal
  | some updated => return .profile updated.safe

def patchMe (lib : Libraries) (token : Option String) (body : JsVal) :
    AccountCode AccountOutcome :=
  withAuth token fun bearer => do
    match updateSchema body with
    | none => return invalid lib body
    | some username => do
        let taken ← match username with
          | none => pure false
          | some username => do
              let player ← findByUsername username
              pure (player.any (·.id != bearer.sub))
        if taken then return usernameTaken
        updatePlayer bearer username

inductive AccountRequest where
  | register (body : JsVal)
  | login (body : JsVal)
  | getProfile (segment : String) (token : Option String)
  | patchMe (token : Option String) (body : JsVal)

def AccountRequest.code (lib : Libraries) (_task : Nat) :
    AccountRequest → AccountCode AccountOutcome
  | .register body => Server.register lib body
  | .login body => Server.login lib body
  | .getProfile segment token => Server.getProfile segment token
  | .patchMe token body => Server.patchMe lib token body

end FuryClash.Server
