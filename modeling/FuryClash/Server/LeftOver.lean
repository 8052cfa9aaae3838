import FuryClash.Server.Pairing
import Mathlib.Algebra.Group.Nat.Even

namespace FuryClash.Server

open FuryClash.Data

/-! Who is left over by a scan. With the entries sorted by their ratings every
pair is one of neighbours, so the range of the lower-rated alone decides. -/

namespace Matcher

theorem eloRange_mono {config : MatchmakerConfig} (entry : QueueEntry)
    {now later : Nat} (order : now ≤ later)
    (widens : 0 ≤ config.eloRangeExpansionPerSec) :
    eloRange config entry now ≤ eloRange config entry later := by
  have wait : (((now : Int) - entry.queuedAt : Int) : Rat) / 1000 ≤
      (((later : Int) - entry.queuedAt : Int) : Rat) / 1000 := by
    have shorter : (now : Int) - entry.queuedAt ≤ later - entry.queuedAt := by
      omega
    gcongr
  have rate : (0 : Rat) ≤ config.eloRangeExpansionPerSec :=
    Int.cast_nonneg widens
  have product := mul_le_mul_of_nonneg_right (roundDouble_mono wait) rate
  have expansion := Int.floor_mono (roundDouble_mono product)
  exact min_le_min_right _ (Int.add_le_add_left expansion _)

/-- The quotient 0.29 is rounded down, so the product stays below 29. -/
example : eloRange ⟨0, 100, 500, "ws://relay"⟩ (queuedPlayer "a") 290 = 28 := by
  decide +kernel

variable (config : MatchmakerConfig) (now : Nat)

/-- In the scan `a` takes `b`, which is behind it, if both are free. -/
def Covers (a b : QueueEntry) : Prop :=
  ((a.elo - b.elo).natAbs : Int) ≤ eloRange config a now

instance (a b : QueueEntry) : Decidable (Covers config now a b) :=
  inferInstanceAs (Decidable (_ ≤ _))

/-- The number of entries in a row, directly before this one and the closest
first, each of which covers the one behind it. -/
def streak : (before : List QueueEntry) → QueueEntry → Nat
  | [], _ => 0
  | a :: before, e => if Covers config now a e then streak before a + 1 else 0

/-- Nobody before the entry takes it, and it does not cover the next one. -/
def LeftOver (before : List QueueEntry) (e : QueueEntry)
    (behind : List QueueEntry) : Prop :=
  Even (streak config now before.reverse e) ∧
    ∀ next ∈ behind.head?, ¬ Covers config now e next

variable {config now} {region : Region} {oracle : Oracle} {n : Nat}
  {a e : QueueEntry} {entries rest : List QueueEntry} {matched : List String}

theorem opponent_head {b : QueueEntry}
    (sorted : (a :: b :: rest).Pairwise fun e e' => e.elo ≤ e'.elo)
    (free : b.playerId ∉ matched) :
    opponent a (eloRange config a now) matched (b :: rest) =
      if Covers config now a b then some b else none := by
  rw [opponent]
  split
  next covers =>
    rw [List.find?_cons_of_pos]
    exact decide_eq_true ⟨free, covers⟩
  next apart =>
    rw [List.find?_eq_none]
    intro c behind fits
    obtain ⟨above, rising⟩ := List.pairwise_cons.mp sorted
    have b_above : a.elo ≤ b.elo := above b List.mem_cons_self
    have c_above : b.elo ≤ c.elo := by
      rcases List.mem_cons.mp behind with rfl | later
      · exact le_refl _
      · exact (List.pairwise_cons.mp rising).1 c later
    have covers := (of_decide_eq_true fits).2
    rw [Covers] at apart
    omega

/-- What the scan has matched when it comes to these entries: at most the
first one, which the entry before it has taken. -/
structure Reached (config : MatchmakerConfig) (now : Nat)
    (before entries : List QueueEntry) (matched : List String) : Prop where
  first : ∀ first ∈ entries.head?, (first.playerId ∈ matched ↔
    ¬ Even (streak config now before first))
  others : ∀ e ∈ entries.tail, e.playerId ∉ matched

theorem streak_cons (before : List QueueEntry) (a e : QueueEntry) :
    streak config now (a :: before) e = if Covers config now a e then
      streak config now before a + 1 else 0 := rfl

theorem Reached.skip {before : List QueueEntry}
    (reached : Reached config now before (a :: rest) matched)
    (passes : ∀ next ∈ rest.head?, Covers config now a next →
      a.playerId ∈ matched) :
    Reached config now (a :: before) rest matched where
  first next head := by
    have free := reached.others next (List.mem_of_mem_head? head)
    rw [streak_cons]
    split
    next covers =>
      have odd := (reached.first a rfl).mp (passes next head covers)
      exact iff_of_false free (not_not.mpr (Nat.even_add_one.mpr odd))
    next => exact iff_of_false free (not_not.mpr Even.zero)
  others e behind := reached.others e (List.mem_of_mem_tail behind)

theorem Reached.take {before : List QueueEntry} {b : QueueEntry}
    (distinct : ((a :: b :: rest).map (·.playerId)).Nodup)
    (reached : Reached config now before (a :: b :: rest) matched)
    (free : a.playerId ∉ matched) (covers : Covers config now a b) :
    Reached config now (a :: before) (b :: rest)
      (b.playerId :: a.playerId :: matched) where
  first next head := by
    cases head
    have even : Even (streak config now before a) :=
      not_not.mp ((reached.first a rfl).not.mp free)
    rw [streak_cons, if_pos covers, Nat.even_add_one, not_not]
    exact iff_of_true List.mem_cons_self even
  others e behind := by
    obtain ⟨a_apart, distinct'⟩ := List.nodup_cons.mp distinct
    obtain ⟨b_apart, _⟩ := List.nodup_cons.mp distinct'
    have there : e.playerId ∈ rest.map (·.playerId) :=
      List.mem_map_of_mem behind
    rw [List.mem_cons, List.mem_cons]
    rintro (same | same | taken)
    · rw [same] at there
      exact b_apart there
    · rw [same] at there
      exact a_apart (List.mem_cons_of_mem _ there)
    · exact reached.others e (List.mem_cons_of_mem _ behind) taken

/-- A free entry is paired with its neighbour or not at all. -/
theorem turns_of_free (clock : ∀ n, oracle n .dateNow = now)
    {b : QueueEntry}
    (sorted : (a :: b :: rest).Pairwise fun e e' => e.elo ≤ e'.elo)
    (a_free : a.playerId ∉ matched) (b_free : b.playerId ∉ matched) :
    (turns config region oracle n (a :: b :: rest) matched).flatMap
        Turn.paired =
      if Covers config now a b then
        a.playerId :: b.playerId ::
          (turns config region oracle (n + 1 +
            ((createMatch config a b region).trace oracle (n + 1)).1.length)
            (b :: rest) (b.playerId :: a.playerId :: matched)).flatMap
            Turn.paired
      else (turns config region oracle (n + 1) (b :: rest) matched).flatMap
        Turn.paired := by
  rw [turns, if_neg a_free]
  dsimp only
  rw [clock, opponent_head sorted b_free]
  split_ifs <;> rfl

/-- What the scan decides about the entry that it has reached. -/
theorem unpaired_head_iff (clock : ∀ n, oracle n .dateNow = now)
    {before behind : List QueueEntry}
    (distinct : ((e :: behind).map (·.playerId)).Nodup)
    (sorted : (e :: behind).Pairwise fun e e' => e.elo ≤ e'.elo)
    (reached : Reached config now before (e :: behind) matched) :
    e.playerId ∉ matched ∧ e.playerId ∉
        (turns config region oracle n (e :: behind) matched).flatMap
          Turn.paired ↔
      Even (streak config now before e) ∧
        ∀ next ∈ behind.head?, ¬ Covers config now e next := by
  by_cases taken : e.playerId ∈ matched
  · have odd := (reached.first e rfl).mp taken
    exact iff_of_false (fun free => free.1 taken) fun even => odd even.1
  · have even := not_not.mp ((reached.first e rfl).not.mp taken)
    rw [and_iff_right taken, and_iff_right even]
    cases behind with
    | nil =>
        rw [turns, if_neg taken]
        simp [opponent, turns, Turn.paired]
    | cons b behind =>
        have b_free := reached.others b List.mem_cons_self
        rw [turns_of_free clock sorted taken b_free]
        simp only [List.head?_cons, Option.mem_some_iff, forall_eq']
        split
        next covers =>
          exact iff_of_false (fun free => free List.mem_cons_self)
            (not_not.mpr covers)
        next misses =>
          refine iff_of_true (fun paired => ?_) misses
          exact (List.nodup_cons.mp distinct).1 (paired_fresh paired).2

theorem unpaired_iff (clock : ∀ n, oracle n .dateNow = now)
    {before front behind : List QueueEntry}
    (distinct : (entries.map (·.playerId)).Nodup)
    (sorted : entries.Pairwise fun e e' => e.elo ≤ e'.elo)
    (reached : Reached config now before entries matched)
    (split : entries = front ++ e :: behind) :
    e.playerId ∉ matched ∧ e.playerId ∉
        (turns config region oracle n entries matched).flatMap Turn.paired ↔
      Even (streak config now (front.reverse ++ before) e) ∧
        ∀ next ∈ behind.head?, ¬ Covers config now e next := by
  induction entries generalizing n matched before front with
  | nil => simp at split
  | cons a rest ih =>
      have distinct' := (List.nodup_cons.mp distinct).2
      have sorted' := (List.pairwise_cons.mp sorted).2
      cases front with
      | nil =>
          cases split
          exact unpaired_head_iff clock distinct sorted reached
      | cons first front =>
          obtain ⟨rfl, inRest⟩ := List.cons.inj split
          rw [List.reverse_cons, List.append_assoc, List.singleton_append]
          by_cases taken : a.playerId ∈ matched
          · rw [turns, if_pos taken]
            exact ih distinct' sorted' (reached.skip fun _ _ _ => taken) inRest
          · cases rest with
            | nil => simp at inRest
            | cons b rest =>
                have b_free := reached.others b List.mem_cons_self
                rw [turns_of_free clock sorted taken b_free]
                split
                next covers =>
                  rw [← ih (n := n + 1 + _) distinct' sorted'
                    (reached.take distinct taken covers) inRest]
                  simp only [List.mem_cons, not_or]
                  tauto
                next misses =>
                  refine ih distinct' sorted' (reached.skip ?_) inRest
                  intro next head covers
                  cases head
                  exact absurd covers misses

/-- Two players whom the scan leaves unmatched are out of the range of both. -/
def WaitingHelps (config : MatchmakerConfig) (region : Region)
    (oracle : Oracle) (now : Nat) : Prop :=
  ∀ front a between b behind,
    entriesRead region oracle = front ++ a :: (between ++ b :: behind) →
    a.playerId ∉ (scanTurns config region oracle).flatMap Turn.paired →
    b.playerId ∉ (scanTurns config region oracle).flatMap Turn.paired →
      eloRange config a now < (a.elo - b.elo).natAbs ∧
        eloRange config b now < (a.elo - b.elo).natAbs

/-- Of two entries that are left over the higher-rated one does not cover the
other. -/
def NoneBelow (config : MatchmakerConfig) (now : Nat)
    (entries : List QueueEntry) : Prop :=
  ∀ front a between b behind,
    entries = front ++ a :: (between ++ b :: behind) →
    LeftOver config now front a (between ++ b :: behind) →
    LeftOver config now (front ++ a :: between) b behind →
      eloRange config b now < (a.elo - b.elo).natAbs

/-- Nobody behind an entry that is left over is in its range. -/
theorem LeftOver.apart {front between behind : List QueueEntry}
    {b : QueueEntry}
    (left : LeftOver config now front a (between ++ b :: behind))
    (sorted : (a :: (between ++ b :: behind)).Pairwise
      fun e e' => e.elo ≤ e'.elo) :
    eloRange config a now < (a.elo - b.elo).natAbs := by
  obtain ⟨above, rising⟩ := List.pairwise_cons.mp sorted
  obtain ⟨next, head, below⟩ : ∃ next,
      next ∈ (between ++ b :: behind).head? ∧ next.elo ≤ b.elo := by
    cases between with
    | nil => exact ⟨b, rfl, le_refl _⟩
    | cons next between =>
        refine ⟨next, rfl, (List.pairwise_cons.mp rising).1 b ?_⟩
        exact List.mem_append_right _ List.mem_cons_self
  have misses := left.2 next head
  have next_above := above next (List.mem_of_mem_head? head)
  rw [Covers] at misses
  omega

/-- Who a scan leaves unmatched, in terms of the entries it has read. -/
theorem scan_unpaired_iff (clock : ∀ n, oracle n .dateNow = now)
    (distinct : ((entriesRead region oracle).map (·.playerId)).Nodup)
    (sorted : (entriesRead region oracle).Pairwise
      fun e e' => e.elo ≤ e'.elo)
    (two : 2 ≤ (entriesRead region oracle).length)
    {front behind : List QueueEntry}
    (split : entriesRead region oracle = front ++ e :: behind) :
    e.playerId ∉ (scanTurns config region oracle).flatMap Turn.paired ↔
      LeftOver config now front e behind := by
  have reached : Reached config now [] (entriesRead region oracle) [] :=
    ⟨fun _ _ => iff_of_false List.not_mem_nil (not_not.mpr Even.zero),
      fun _ _ => List.not_mem_nil⟩
  rw [scanTurns, if_neg (not_lt.mpr two), LeftOver,
    ← List.append_nil front.reverse]
  exact (and_iff_right List.not_mem_nil).symm.trans
    (unpaired_iff clock distinct sorted reached split)

theorem waitingHelps_iff (config : MatchmakerConfig) (region : Region)
    (oracle : Oracle) (now : Nat)
    (distinct : ((entriesRead region oracle).map (·.playerId)).Nodup)
    (sorted : (entriesRead region oracle).Pairwise
      fun e e' => e.elo ≤ e'.elo)
    (clock : ∀ n, oracle n .dateNow = now) :
    WaitingHelps config region oracle now ↔
      NoneBelow config now (entriesRead region oracle) := by
  refine forall₅_congr fun front a between b behind => ?_
  refine imp_congr_right fun split => ?_
  have two : 2 ≤ (entriesRead region oracle).length := by
    rw [split]
    simp only [List.length_append, List.length_cons]
    omega
  have split' : entriesRead region oracle =
      (front ++ a :: between) ++ b :: behind := by
    rw [split, List.append_assoc, List.cons_append]
  rw [scan_unpaired_iff clock distinct sorted two split,
    scan_unpaired_iff clock distinct sorted two split']
  refine imp_congr_right fun left => imp_congr_right fun _ => ?_
  rw [split] at sorted
  exact and_iff_right (left.apart (List.pairwise_append.mp sorted).2.1)

theorem waitingHelps_iff_twoWaiting :
    WaitingHelps ⟨100, 10, 500, "ws://relay"⟩ .usEast twoWaiting 1000 ↔
      NoneBelow ⟨100, 10, 500, "ws://relay"⟩ 1000
        (entriesRead .usEast twoWaiting) :=
  waitingHelps_iff _ _ _ _ (by decide) (by decide) fun _ => rfl

def longWait : Oracle
  | _, .get "a" => some { queuedPlayer "a" with queuedAt := 60000 }
  | _, .get id => some { queuedPlayer id with elo := 1300 }
  | _, .dateNow => (60000 : Nat)
  | n, call => twoWaiting n call

/-- His range of 500 covers the first one, whose range of 100 decides. -/
theorem not_waitingHelps_longWait :
    ¬ WaitingHelps ⟨100, 10, 500, "ws://relay"⟩ .usEast longWait 60000 := by
  intro helps
  have apart := helps [] { queuedPlayer "a" with queuedAt := 60000 } []
    { queuedPlayer "b" with elo := 1300 } [] (by decide) (by decide +kernel)
    (by decide +kernel)
  exact absurd apart.2 (by decide +kernel)

end Matcher

end FuryClash.Server
