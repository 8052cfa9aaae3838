import FuryClash.Data.Run
import Mathlib.Algebra.Ring.Int.Defs

namespace FuryClash.Server

open FuryClash.Data

/-! `POST /purchase` of `routes/shop.ts`, for the requests of one player. Each
statement goes to the database by itself; what is in a transaction is seen by
others when it commits. -/

structure ShopItem where
  id : String
  itemType : String
  coinCost : Int
  isActive : Bool

structure Unlock where
  itemType : String
  itemId : String
  deriving DecidableEq

def ShopItem.unlock (item : ShopItem) : Unlock := ⟨item.itemType, item.id⟩

inductive ShopErrorCode where
  | shopItemNotFound
  | shopInsufficientCoins
  | shopAlreadyOwned
  deriving DecidableEq

def ShopErrorCode.text : ShopErrorCode → String
  | .shopItemNotFound => "SHOP_001"
  | .shopInsufficientCoins => "SHOP_002"
  | .shopAlreadyOwned => "SHOP_003"

structure ShopError where
  code : ShopErrorCode
  message : String
  statusCode : Nat
  deriving DecidableEq

inductive PurchaseOutcome where
  | success (coinsRemaining : Int) (unlock : Unlock)
  | refused (error : ShopError)
  /-- The database refuses a second row of a player, type and item. -/
  | notUnique
  /-- The transaction is given up from outside, as after its time limit. -/
  | rolledBack
  deriving DecidableEq

/-- The row `p` that a transaction has read. `seen` is history: how many
unlocks there were then. -/
structure Balance where
  coins : Int
  seen : Nat

/-- A request, told by the statement that it comes to next. -/
inductive Purchase where
  | findItem (itemId : String)
  | findUnlock (item : ShopItem)
  | readPlayer (item : ShopItem)
  | updatePlayer (item : ShopItem) (p : Balance)
  | createUnlock (item : ShopItem) (p : Balance) (updated : Int)
  | commit (item : ShopItem) (p : Balance) (updated : Int)
  | finished (outcome : PurchaseOutcome)

namespace Purchase

/-- From its `update` on a transaction has the player's row locked. -/
def locksRow : Purchase → Bool
  | .createUnlock .. | .commit .. => true
  | _ => false

def inTransaction : Purchase → Bool
  | .readPlayer _ | .updatePlayer .. => true
  | purchase => purchase.locksRow

end Purchase

/-- What is committed, and the requests. -/
structure Shop where
  coins : Int
  unlocks : List Unlock
  purchases : List Purchase

inductive ShopEvent where
  | request (itemId : String)
  | proceed (which : Nat)
  | rollBack (which : Nat)

namespace Shop

def opened (coins : Int) (unlocks : List Unlock) : Shop := ⟨coins, unlocks, []⟩

def goOn (which : Nat) (purchase : Purchase) (s : Shop) : Shop :=
  { s with purchases := s.purchases.set which purchase }

def refuse (which : Nat) (code : ShopErrorCode) (message : String)
    (statusCode : Nat) (s : Shop) : Shop :=
  s.goOn which (.finished (.refused ⟨code, message, statusCode⟩))

def RowLocked (s : Shop) : Prop :=
  ∃ purchase ∈ s.purchases, purchase.locksRow = true

instance (s : Shop) : Decidable s.RowLocked :=
  inferInstanceAs (Decidable (∃ _ ∈ _, _))

variable (items : List ShopItem)

def findItem (itemId : String) : Option ShopItem :=
  items.find? fun item => item.id = itemId

/-- One statement. The `update` waits while another transaction has the row,
and subtracts from what is committed when it gets it. -/
def proceed (which : Nat) (s : Shop) : Purchase → Shop
  | .findItem itemId =>
      match findItem items itemId with
      | none => s.refuse which .shopItemNotFound "Item not found" 404
      | some item =>
          if item.isActive then s.goOn which (.findUnlock item)
          else s.refuse which .shopItemNotFound "Item not found" 404
  | .findUnlock item =>
      if item.unlock ∈ s.unlocks then
        s.refuse which .shopAlreadyOwned "Item already owned" 400
      else s.goOn which (.readPlayer item)
  | .readPlayer item =>
      if s.coins < item.coinCost then
        s.refuse which .shopInsufficientCoins "Not enough coins" 400
      else s.goOn which (.updatePlayer item ⟨s.coins, s.unlocks.length⟩)
  | .updatePlayer item p =>
      if s.RowLocked then s
      else s.goOn which (.createUnlock item p (s.coins - item.coinCost))
  | .createUnlock item p updated =>
      if item.unlock ∈ s.unlocks then s.goOn which (.finished .notUnique)
      else s.goOn which (.commit item p updated)
  | .commit item _ updated =>
      { s with
        coins := updated
        unlocks := s.unlocks ++ [item.unlock]
        purchases :=
          s.purchases.set which (.finished (.success updated item.unlock)) }
  | .finished _ => s

def step : Machine Shop ShopEvent
  | s, .request itemId =>
      { s with purchases := s.purchases ++ [.findItem itemId] }
  | s, .proceed which =>
      match s.purchases[which]? with
      | some purchase => proceed items which s purchase
      | none => s
  | s, .rollBack which =>
      match s.purchases[which]? with
      | some purchase =>
          if purchase.inTransaction then
            s.goOn which (.finished .rolledBack)
          else s
      | none => s

end Shop

end FuryClash.Server
