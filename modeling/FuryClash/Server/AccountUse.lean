import FuryClash.Data.Traces
import FuryClash.Server.Passwords

namespace FuryClash.Server

open FuryClash.Data

/-! What a request does when it is left alone, from any state that the
interleaved ones can have led to. -/

def AccountRequest.token : AccountRequest → Option String
  | .register _ => none
  | .login _ => none
  | .getProfile _ token => token
  | .patchMe token _ => token

def AccountRequest.alone (lib : Libraries) (envs : Nat → AccountEnv)
    (request : AccountRequest) (a : Accounts) : AccountOutcome :=
  ((request.code lib 0).alone (Accounts.exec lib 0) envs 0 a).value

namespace Accounts

variable {lib : Libraries} {a : Accounts} {account : Account} {n : Nat}
  {envs : Nat → AccountEnv} {username password : String}

theorem Sound.byUsername (sound : a.Sound lib) (mem : account ∈ a.accounts) :
    a.byUsername account.username = some account :=
  find?_of_pairwise (sound.apart.imp fun apart => apart.username) mem

theorem Sound.byId (sound : a.Sound lib) (mem : account ∈ a.accounts) :
    a.byId account.id = some account :=
  find?_of_pairwise (sound.apart.imp fun apart => apart.id) mem

/-- What the code answers when nobody else changes the accounts. -/
def answer (lib : Libraries) (envs : Nat → AccountEnv) (n : Nat)
    (code : AccountCode AccountOutcome) (a : Accounts) : AccountOutcome :=
  (code.alone (exec lib 0) envs n a).value

/-- A name that was looked up is free for whoever has it already. -/
theorem Sound.free (sound : a.Sound lib) {id : String}
    (known : ∀ row, a.byUsername username = some row → row.id = id) :
    ∀ other ∈ a.accounts, other.id ≠ id → other.username ≠ username := by
  rintro other mem isOther rfl
  exact isOther (known other (sound.byUsername mem))

end Accounts

end FuryClash.Server
