import FuryClash.Data.ListUpdate
import FuryClash.Server.Shop
import Mathlib.Data.List.Nodup

namespace FuryClash.Server

open FuryClash.Data

/-! The accounts of the shop. Whatever the order of the statements, the coins
deducted are the cost of the unlocks created; but the balance that a purchase
has checked is not the one that it is deducted from. -/

variable (items : List ShopItem)

def price (unlock : Unlock) : Int :=
  ((Shop.findItem items unlock.itemId).map fun item => item.coinCost).getD 0

def total (unlocks : List Unlock) : Int := (unlocks.map (price items)).sum

theorem total_concat (unlocks : List Unlock) (unlock : Unlock) :
    total items (unlocks ++ [unlock]) =
      total items unlocks + price items unlock := by
  rw [total, List.map_append, List.sum_append, List.map_singleton,
    List.sum_singleton]
  rfl

def ShopItem.Listed (item : ShopItem) : Prop :=
  Shop.findItem items item.id = some item

/-- The balance that was read, less what has been bought since, is there. -/
structure Balance.Follows (coins : Int) (unlocks : List Unlock)
    (p : Balance) : Prop where
  seen : p.seen ≤ unlocks.length
  spent : coins = p.coins - total items (unlocks.drop p.seen)

def Purchase.InOrder (coins : Int) (unlocks : List Unlock) : Purchase → Prop
  | .findItem _ | .finished _ => True
  | .findUnlock item | .readPlayer item => item.Listed items
  | .updatePlayer item p =>
      item.Listed items ∧ p.Follows items coins unlocks
  | .createUnlock item p updated =>
      item.Listed items ∧ p.Follows items coins unlocks ∧
        updated = coins - item.coinCost
  | .commit item p updated =>
      item.Listed items ∧ p.Follows items coins unlocks ∧
        updated = coins - item.coinCost ∧ item.unlock ∉ unlocks

variable {items} {item : ShopItem} {coins : Int} {unlocks : List Unlock}
  {purchase : Purchase}

theorem ShopItem.Listed.price (listed : item.Listed items) :
    price items item.unlock = item.coinCost := by
  rw [FuryClash.Server.price, ShopItem.unlock, listed]
  rfl

theorem Balance.Follows.commit {p : Balance}
    (follows : p.Follows items coins unlocks) (listed : item.Listed items) :
    p.Follows items (coins - item.coinCost) (unlocks ++ [item.unlock]) where
  seen := by
    rw [List.length_append]
    exact Nat.le_add_right_of_le follows.seen
  spent := by
    have spent := follows.spent
    rw [List.drop_append_of_le_length follows.seen, total_concat,
      listed.price]
    omega

/-- A purchase that is not itself in possession of the row does not notice. -/
theorem Purchase.InOrder.commit
    (inOrder : purchase.InOrder items coins unlocks)
    (listed : item.Listed items) (unlocked : purchase.locksRow = false) :
    purchase.InOrder items (coins - item.coinCost)
      (unlocks ++ [item.unlock]) := by
  cases purchase with
  | findItem itemId => trivial
  | findUnlock item => exact inOrder
  | readPlayer item => exact inOrder
  | updatePlayer item p => exact ⟨inOrder.1, inOrder.2.commit listed⟩
  | createUnlock item p updated => cases unlocked
  | commit item p updated => cases unlocked
  | finished outcome => trivial

def Purchase.committing : Purchase → Option (ShopItem × Balance)
  | .commit item p _ => some (item, p)
  | _ => none

namespace Shop

variable {s : Shop} {which : Nat} {old new : Purchase} {owned : List Unlock}

variable (items) in
structure Orderly (s : Shop) : Prop where
  inOrder : ∀ purchase ∈ s.purchases,
    purchase.InOrder items s.coins s.unlocks
  alone : ∀ (which other : Nat) (first second : Purchase),
    s.purchases[which]? = some first → first.locksRow = true →
    s.purchases[other]? = some second → second.locksRow = true →
    which = other

theorem goOn_orderly (orderly : s.Orderly items)
    (held : s.purchases[which]? = some old)
    (inOrder : new.InOrder items s.coins s.unlocks)
    (locks : new.locksRow = true → old.locksRow = true ∨ ¬ s.RowLocked) :
    (s.goOn which new).Orderly items where
  inOrder := forall_mem_set orderly.inOrder inOrder which
  alone := by
    have onlyThis (other : Nat) (second : Purchase)
        (held' : s.purchases[other]? = some second)
        (locks' : second.locksRow = true) (newLocks : new.locksRow = true) :
        which = other := by
      rcases locks newLocks with oldLocks | free
      · exact orderly.alone which other old second held oldLocks held' locks'
      · exact absurd ⟨second, List.mem_of_getElem? held', locks'⟩ free
    intro first second one two heldOne locksOne heldTwo locksTwo
    rw [goOn, getElem?_set_of_held held] at heldOne heldTwo
    split at heldOne
    next sameOne =>
      cases heldOne
      split at heldTwo
      next sameTwo => exact sameOne.symm.trans sameTwo
      next => exact sameOne ▸ onlyThis second two heldTwo locksTwo locksOne
    next =>
      split at heldTwo
      next sameTwo =>
        cases heldTwo
        exact sameTwo ▸ (onlyThis first one heldOne locksOne locksTwo).symm
      next =>
        exact orderly.alone first second one two heldOne locksOne heldTwo
          locksTwo

theorem request_orderly (orderly : s.Orderly items) (itemId : String) :
    (step items s (.request itemId)).Orderly items where
  inOrder := by
    intro purchase mem
    rcases List.mem_append.mp mem with known | new
    · exact orderly.inOrder purchase known
    · cases List.mem_singleton.mp new
      trivial
  alone := by
    intro first second one two heldOne locksOne heldTwo locksTwo
    rcases of_getElem?_concat heldOne with knownOne | ⟨_, rfl⟩
    · rcases of_getElem?_concat heldTwo with knownTwo | ⟨_, rfl⟩
      · exact orderly.alone first second one two knownOne locksOne knownTwo
          locksTwo
      · cases locksTwo
    · cases locksOne

theorem commit_orderly {p : Balance} {updated : Int}
    (orderly : s.Orderly items)
    (held : s.purchases[which]? = some (.commit item p updated)) :
    (proceed items which s (.commit item p updated)).Orderly items := by
  obtain ⟨listed, _, rfl, _⟩ :=
    orderly.inOrder _ (List.mem_of_getElem? held)
  -- which other purchases there are, and that none of them has the row
  have others (other : Nat) (purchase : Purchase)
      (held' : (proceed items which s
        (.commit item p (s.coins - item.coinCost))).purchases[other]? =
          some purchase) :
      (∃ outcome, purchase = .finished outcome) ∨
        purchase ∈ s.purchases ∧ purchase.locksRow = false := by
    rw [proceed, getElem?_set_of_held held] at held'
    split at held'
    next =>
      cases held'
      exact .inl ⟨_, rfl⟩
    next apart =>
      refine .inr ⟨List.mem_of_getElem? held', ?_⟩
      by_contra locks
      exact apart (orderly.alone which other _ purchase held rfl held'
        (by simpa using locks))
  constructor
  · intro purchase mem
    obtain ⟨other, held'⟩ := List.mem_iff_getElem?.mp mem
    rcases others other purchase held' with ⟨outcome, rfl⟩ | ⟨known, unlocked⟩
    · trivial
    · exact (orderly.inOrder purchase known).commit listed unlocked
  · intro first second one two heldOne locksOne
    rcases others first one heldOne with ⟨outcome, rfl⟩ | ⟨_, unlocked⟩
    · cases locksOne
    · rw [unlocked] at locksOne
      cases locksOne

theorem goOn_held (held : s.purchases[which]? = some old) :
    s.goOn which old = s := by
  rw [goOn, set_of_getElem? held]

/-- What a statement that is not a `commit` can do. -/
structure GoesOn (items : List ShopItem) (which : Nat) (old : Purchase)
    (s s' : Shop) (new : Purchase) : Prop where
  shape : s' = s.goOn which new
  inOrder : new.InOrder items s.coins s.unlocks
  locks : new.locksRow = true → old.locksRow = true ∨ ¬ s.RowLocked

theorem refuse_goesOn (code : ShopErrorCode) (message : String)
    (statusCode : Nat) :
    ∃ new, GoesOn items which old s (s.refuse which code message statusCode)
      new :=
  ⟨_, rfl, trivial, fun locks => by cases locks⟩

theorem proceed_goesOn (held : s.purchases[which]? = some old)
    (inOrder : old.InOrder items s.coins s.unlocks)
    (statement : old.committing = none) :
    ∃ new, GoesOn items which old s (proceed items which s old) new := by
  cases old with
  | findItem itemId =>
      rw [proceed]
      split
      next => exact refuse_goesOn ..
      next item found =>
        have listed : item.Listed items := by
          have same := List.find?_some found
          rw [decide_eq_true_eq] at same
          rw [ShopItem.Listed, same]
          exact found
        split
        next => exact ⟨_, rfl, listed, fun locks => by cases locks⟩
        next => exact refuse_goesOn ..
  | findUnlock item =>
      rw [proceed]
      split
      next => exact refuse_goesOn ..
      next => exact ⟨_, rfl, inOrder, fun locks => by cases locks⟩
  | readPlayer item =>
      rw [proceed]
      split
      next => exact refuse_goesOn ..
      next =>
        refine ⟨_, rfl, ⟨inOrder, Nat.le_refl _, ?_⟩, fun locks => by cases locks⟩
        simp [total]
  | updatePlayer item p =>
      rw [proceed]
      split
      next =>
        exact ⟨_, (goOn_held held).symm, inOrder, fun locks => by cases locks⟩
      next free => exact ⟨_, rfl, ⟨inOrder.1, inOrder.2, rfl⟩, fun _ => .inr free⟩
  | createUnlock item p updated =>
      rw [proceed]
      split
      next => exact ⟨_, rfl, trivial, fun locks => by cases locks⟩
      next new =>
        obtain ⟨listed, follows, fresh⟩ := inOrder
        exact ⟨_, rfl, ⟨listed, follows, fresh, new⟩, fun _ => .inl rfl⟩
  | commit item p updated => cases statement
  | finished outcome =>
      exact ⟨_, (goOn_held held).symm, trivial, fun locks => by cases locks⟩

def committing (s : Shop) : ShopEvent → Option (ShopItem × Balance)
  | .proceed which => s.purchases[which]?.bind Purchase.committing
  | _ => none

/-- What one event can do: nothing to what is committed, or a `commit`. -/
theorem step_cases (orderly : s.Orderly items) (event : ShopEvent) :
    (s.committing event = none ∧ (step items s event).Orderly items ∧
        (step items s event).coins = s.coins ∧
        (step items s event).unlocks = s.unlocks) ∨
      ∃ which item p, event = .proceed which ∧
        s.purchases[which]? =
          some (.commit item p (s.coins - item.coinCost)) := by
  cases event with
  | request itemId => exact .inl ⟨rfl, request_orderly orderly itemId, rfl, rfl⟩
  | proceed which =>
      cases held : s.purchases[which]? with
      | none =>
          rw [step, held]
          exact .inl ⟨by rw [committing, held]; rfl, orderly, rfl, rfl⟩
      | some old =>
          have inOrder := orderly.inOrder old (List.mem_of_getElem? held)
          cases statement : old.committing with
          | some bought =>
              cases old with
              | commit item p updated =>
                  obtain ⟨_, _, rfl, _⟩ := inOrder
                  exact .inr ⟨which, item, p, rfl, held⟩
              | _ => cases statement
          | none =>
              obtain ⟨new, shape, inOrder', locks⟩ :=
                proceed_goesOn held inOrder statement
              rw [step, held]
              dsimp only
              rw [shape]
              refine .inl ⟨?_, goOn_orderly orderly held inOrder' locks, rfl, rfl⟩
              rw [committing, held]
              exact statement
  | rollBack which =>
      rw [step]
      split
      next old held =>
        split
        next =>
          exact .inl ⟨rfl, goOn_orderly orderly held trivial
            (fun locks => by cases locks), rfl, rfl⟩
        next => exact .inl ⟨rfl, orderly, rfl, rfl⟩
      next => exact .inl ⟨rfl, orderly, rfl, rfl⟩

variable (items) in
/-- No item is unlocked twice, and what has gone of the coins is the cost of
the unlocks created. -/
structure Settled (coins : Int) (owned : List Unlock) (s : Shop) : Prop where
  once : s.unlocks.Nodup
  created : owned <+: s.unlocks
  deducted : coins - s.coins = total items (s.unlocks.drop owned.length)

theorem commit_settled {p : Balance} (orderly : s.Orderly items)
    (held : s.purchases[which]? =
      some (.commit item p (s.coins - item.coinCost)))
    (settled : s.Settled items coins owned) :
    (step items s (.proceed which)).Settled items coins owned := by
  obtain ⟨listed, _, _, fresh⟩ :=
    orderly.inOrder _ (List.mem_of_getElem? held)
  rw [step, held]
  constructor
  · have apart : s.unlocks.Disjoint [item.unlock] := by
      rw [List.disjoint_singleton]
      exact fresh
    exact List.Nodup.append settled.once (List.nodup_singleton _) apart
  · exact settled.created.trans (List.prefix_append ..)
  · have deducted := settled.deducted
    have seen := settled.created.length_le
    dsimp only [proceed]
    rw [List.drop_append_of_le_length seen, total_concat, listed.price]
    omega

theorem step_settled (orderly : s.Orderly items)
    (settled : s.Settled items coins owned) (event : ShopEvent) :
    (step items s event).Orderly items ∧
      (step items s event).Settled items coins owned := by
  rcases step_cases orderly event with
    ⟨_, orderly', sameCoins, sameUnlocks⟩ | ⟨which, item, p, rfl, held⟩
  · refine ⟨orderly', ?_, ?_, ?_⟩
    · rw [sameUnlocks]
      exact settled.once
    · rw [sameUnlocks]
      exact settled.created
    · rw [sameUnlocks, sameCoins]
      exact settled.deducted
  · refine ⟨?_, commit_settled orderly held settled⟩
    rw [step, held]
    exact commit_orderly orderly held

theorem opened_orderly : (opened coins owned).Orderly items where
  inOrder purchase mem := by cases mem
  alone which other first second held := by cases held

theorem opened_settled (once : owned.Nodup) :
    (opened coins owned).Settled items coins owned where
  once := once
  created := List.prefix_refl owned
  deducted := by
    simp [opened, total]

theorem always_settled (once : owned.Nodup) (events : List ShopEvent) :
    (step items).Always (Settled items coins owned) (opened coins owned)
      events := by
  refine Machine.always_of_invariant
    (fun s : Shop => s.Orderly items ∧ s.Settled items coins owned) ?_
    (fun _ both => both.2) ⟨opened_orderly, opened_settled once⟩ events
  exact fun s event both => step_settled both.1 both.2 event

variable (items) in
structure Accounted (coins : Int) (owned : List Unlock) (s : Shop) : Prop
    extends Settled items coins owned s where
  solvent : 0 ≤ s.coins

variable (items) in
/-- What was bought between a purchase's look at the balance and its `commit`
leaves enough of that balance. -/
def Covered (s : Shop) (event : ShopEvent) : Prop :=
  ∀ item p, s.committing event = some (item, p) →
    total items (s.unlocks.drop p.seen) ≤ p.coins - item.coinCost

theorem covered_iff (orderly : s.Orderly items) (solvent : 0 ≤ s.coins)
    (event : ShopEvent) :
    Covered items s event ↔ 0 ≤ (step items s event).coins := by
  rcases step_cases orderly event with
    ⟨none, _, sameCoins, _⟩ | ⟨which, item, p, rfl, held⟩
  · rw [sameCoins]
    refine iff_of_true ?_ solvent
    intro item p committing
    cases none.symm.trans committing
  · have spent := (orderly.inOrder _ (List.mem_of_getElem? held)).2.1.spent
    have left : (step items s (.proceed which)).coins =
        s.coins - item.coinCost := by
      rw [step, held]
      rfl
    have committing : s.committing (.proceed which) = some (item, p) := by
      rw [Shop.committing, held]
      rfl
    rw [left]
    constructor
    · intro covered
      have enough := covered item p committing
      omega
    · intro enough other p' committing'
      cases committing.symm.trans committing'
      omega

theorem accounted_iff_covered (solvent : 0 ≤ coins) (once : owned.Nodup)
    (events : List ShopEvent) :
    (step items).Always (Accounted items coins owned) (opened coins owned)
        events ↔
      (step items).Along (Covered items) (opened coins owned) events := by
  refine Machine.always_iff_along
    (fun s => s.Orderly items ∧ s.Accounted items coins owned) ?_
    (fun _ both => both.2) ?_
    ⟨opened_orderly, opened_settled once, solvent⟩
  · rintro s event ⟨orderly, accounted⟩ covered
    obtain ⟨orderly', settled⟩ :=
      step_settled orderly accounted.toSettled event
    exact ⟨orderly', settled,
      (covered_iff orderly accounted.solvent event).mp covered⟩
  · rintro s event ⟨orderly, accounted⟩ uncovered accounted'
    exact uncovered
      ((covered_iff orderly accounted.solvent event).mpr accounted'.solvent)

def twoSkins : List ShopItem :=
  [⟨"red", "skin", 60, true⟩, ⟨"blue", "skin", 60, true⟩]

def bothLook : List ShopEvent :=
  [.request "red", .request "blue", .proceed 0, .proceed 0, .proceed 0,
    .proceed 1, .proceed 1, .proceed 1, .proceed 0, .proceed 0, .proceed 0,
    .proceed 1, .proceed 1, .proceed 1]

theorem accounted_iff_covered_bothLook :
    (step twoSkins).Always (Accounted twoSkins 100 []) (opened 100 [])
        bothLook ↔
      (step twoSkins).Along (Covered twoSkins) (opened 100 []) bothLook :=
  accounted_iff_covered (by decide) List.nodup_nil bothLook

theorem bothLook_not_accounted :
    ¬ (step twoSkins).Always (Accounted twoSkins 100 []) (opened 100 [])
      bothLook := by
  intro always
  have left : ((step twoSkins).run (opened 100 []) bothLook).coins = -20 := by
    decide
  have solvent := always.last.solvent
  rw [left] at solvent
  exact absurd solvent (by decide)

end Shop

end FuryClash.Server
