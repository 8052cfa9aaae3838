import Mathlib.Data.List.DropRight
import Mathlib.Data.List.Induction
import Mathlib.Data.List.Nodup
import Mathlib.Order.Lattice

namespace FuryClash.Data

/-! A log that merges the reports of several sources into one row for a key.
Only the last row is ever written again, so the order of the reports decides
whether the rows are what the reports say. -/

structure Report (Source Key Value : Type) where
  source : Source
  key : Key
  value : Value

structure LogRow (Source Key Value : Type) where
  key : Key
  values : Source → Value

structure MergedLog (Source Key Value : Type) where
  rows : List (LogRow Source Key Value)
  latest : Source → Value

namespace MergedLog

variable {Source Key Value : Type} [DecidableEq Source] [LinearOrder Key]

def initial (zero : Value) : MergedLog Source Key Value :=
  ⟨[], fun _ => zero⟩

def record (log : MergedLog Source Key Value)
    (report : Report Source Key Value) : MergedLog Source Key Value :=
  let latest := Function.update log.latest report.source report.value
  match log.rows.getLast? with
  | none => ⟨[⟨report.key, latest⟩], latest⟩
  | some last =>
      if last.key = report.key then
        ⟨log.rows.dropLast ++ [{ last with
          values := Function.update last.values report.source report.value }],
          latest⟩
      else ⟨log.rows ++ [⟨report.key, latest⟩], latest⟩

def recordAll (zero : Value) (reports : List (Report Source Key Value)) :
    MergedLog Source Key Value :=
  reports.foldl record (initial zero)

/-- The last value of the source for the key or an earlier one. -/
def valueAt (zero : Value) (reports : List (Report Source Key Value))
    (source : Source) (key : Key) : Value :=
  ((reports.filter fun report =>
      decide (report.source = source ∧ report.key ≤ key)).getLast?.map
    (·.value)).getD zero

/-- One row for each key that was reported, with the values of all sources. -/
structure Right (zero : Value) (reports : List (Report Source Key Value))
    (rows : List (LogRow Source Key Value)) : Prop where
  once : ∀ report ∈ reports,
    rows.countP (fun row => decide (row.key = report.key)) = 1
  only : ∀ row ∈ rows, ∃ report ∈ reports, report.key = row.key
  values : ∀ row ∈ rows, ∀ source,
    row.values source = valueAt zero reports source row.key

def InOrder (reports : List (Report Source Key Value)) : Prop :=
  reports.Pairwise fun earlier later => earlier.key ≤ later.key

/-- The last value of the source, whatever its key. -/
def lastValue (zero : Value) (reports : List (Report Source Key Value))
    (source : Source) : Value :=
  ((reports.filter fun report =>
      decide (report.source = source)).getLast?.map (·.value)).getD zero

/-- The reports up to the last one of the key. -/
def upTo (key : Key) (reports : List (Report Source Key Value)) :
    List (Report Source Key Value) :=
  reports.rdropWhile fun report => decide (report.key ≠ key)

/-- Between two reports of a key there are only reports of that key. -/
def Adjoining (reports : List (Report Source Key Value)) : Prop :=
  ∀ first mid second, [first, mid, second].Sublist reports →
    first.key = second.key → mid.key = first.key

/-- When the last report of a key comes, no source has got ahead with another
value, or is still to report one. -/
structure Timely (zero : Value) (reports : List (Report Source Key Value)) :
    Prop where
  adjoining : Adjoining reports
  current : ∀ report ∈ reports, ∀ source,
    lastValue zero (upTo report.key reports) source =
      valueAt zero reports source report.key

variable {zero : Value} {reports : List (Report Source Key Value)}
  {report : Report Source Key Value} {log : MergedLog Source Key Value}

@[simp] theorem recordAll_concat :
    recordAll zero (reports ++ [report]) =
      (recordAll zero reports).record report := by
  rw [recordAll, List.foldl_concat]
  rfl

omit [LinearOrder Key] in
theorem lastValue_concat : lastValue zero (reports ++ [report]) =
    Function.update (lastValue zero reports) report.source report.value := by
  funext source
  rw [lastValue, List.filter_append, List.filter_singleton,
    Function.update_apply]
  by_cases own : source = report.source
  · simp [own]
  · simp [own, Ne.symm own, lastValue]

omit [DecidableEq Source] in
theorem upTo_concat (key : Key) : upTo key (reports ++ [report]) =
    if report.key = key then reports ++ [report] else upTo key reports := by
  rw [upTo, List.rdropWhile_concat]
  by_cases own : report.key = key <;> simp [own, upTo]

def keys (log : MergedLog Source Key Value) : List Key :=
  log.rows.map (·.key)

theorem latest_record : (log.record report).latest =
    Function.update log.latest report.source report.value := by
  rw [record]
  split
  next => rfl
  next =>
    split
    next => rfl
    next => rfl

theorem latest_recordAll :
    (recordAll zero reports).latest = lastValue zero reports := by
  induction reports using List.reverseRecOn with
  | nil => rfl
  | append_singleton reports report ih =>
      rw [recordAll_concat, latest_record, ih, lastValue_concat]

def Newest (log : MergedLog Source Key Value) : Prop :=
  ∀ last ∈ log.rows.getLast?, last.values = log.latest

/-- The report is in the last row; in front of it the rows are as before. -/
theorem record_rows (newest : log.Newest)
    (report : Report Source Key Value) : ∃ front,
    (log.record report).rows = front ++
        [⟨report.key, (log.record report).latest⟩] ∧
      (front = log.rows ∧ log.keys.getLast? ≠ some report.key ∨
        ∃ last, log.rows = front ++ [last] ∧ last.key = report.key) := by
  rw [latest_record, record]
  split
  next empty =>
    have none_yet : log.rows = [] := List.getLast?_eq_none_iff.mp empty
    exact ⟨[], rfl, .inl ⟨none_yet.symm, by simp [keys, none_yet]⟩⟩
  next last isLast =>
    have rows : log.rows = log.rows.dropLast ++ [last] :=
      (List.dropLast_append_getLast? last isLast).symm
    split
    next same =>
      refine ⟨log.rows.dropLast, ?_, .inr ⟨last, rows, same⟩⟩
      rw [newest last isLast, same]
    next differs =>
      refine ⟨log.rows, rfl, .inl ⟨rfl, ?_⟩⟩
      simpa [keys, isLast] using differs

theorem Newest.record (newest : log.Newest) : (log.record report).Newest := by
  obtain ⟨front, rows, _⟩ := record_rows newest report
  intro last isLast
  rw [rows, List.getLast?_concat] at isLast
  cases isLast
  rfl

theorem newest_recordAll (zero : Value)
    (reports : List (Report Source Key Value)) :
    (recordAll zero reports).Newest := by
  induction reports using List.reverseRecOn with
  | nil =>
      intro last isLast
      cases isLast
  | append_singleton reports report ih =>
      rw [recordAll_concat]
      exact ih.record

theorem getLast_keys (zero : Value)
    (reports : List (Report Source Key Value)) :
    (recordAll zero reports).keys.getLast? = reports.getLast?.map (·.key) := by
  cases reports using List.reverseRecOn with
  | nil => rfl
  | append_singleton reports report =>
      obtain ⟨front, rows, _⟩ :=
        record_rows (newest_recordAll zero reports) report
      rw [recordAll_concat, keys, rows]
      simp

theorem rows_concat (zero : Value) (reports : List (Report Source Key Value))
    (report : Report Source Key Value) : ∃ front,
    (recordAll zero (reports ++ [report])).rows = front ++
        [⟨report.key, lastValue zero (reports ++ [report])⟩] ∧
      front ⊆ (recordAll zero reports).rows := by
  obtain ⟨front, rows, before⟩ :=
    record_rows (newest_recordAll zero reports) report
  refine ⟨front, ?_, ?_⟩
  · rw [← latest_recordAll, recordAll_concat, rows]
  · rcases before with ⟨same, _⟩ | ⟨last, longer, _⟩
    · exact same ▸ List.Subset.refl _
    · exact longer ▸ List.subset_append_left ..

theorem keys_concat : (recordAll zero (reports ++ [report])).keys =
    if reports.getLast?.map (·.key) = some report.key then
      (recordAll zero reports).keys
    else (recordAll zero reports).keys ++ [report.key] := by
  obtain ⟨front, rows, before⟩ :=
    record_rows (newest_recordAll zero reports) report
  rw [← getLast_keys zero, recordAll_concat, keys, rows]
  rcases before with ⟨same, differs⟩ | ⟨last, longer, same⟩
  · rw [if_neg differs, same]
    simp [keys]
  · rw [keys, longer]
    simp [same]

theorem keys_sublist :
    (recordAll zero reports).keys.Sublist (reports.map (·.key)) := by
  induction reports using List.reverseRecOn with
  | nil => exact .slnil
  | append_singleton reports report ih =>
      rw [keys_concat, List.map_append]
      split
      next => exact ih.trans (List.sublist_append_left ..)
      next => exact ih.append (List.Sublist.refl _)

theorem mem_keys_iff {key : Key} : key ∈ (recordAll zero reports).keys ↔
    ∃ report ∈ reports, report.key = key := by
  refine ⟨fun mem => List.mem_map.mp (keys_sublist.mem mem), ?_⟩
  rintro ⟨report, mem, rfl⟩
  induction reports using List.reverseRecOn with
  | nil => cases mem
  | append_singleton reports last ih =>
      rw [keys_concat]
      rcases List.mem_append.mp mem with old | new
      · split
        next => exact ih old
        next => exact List.mem_append_left _ (ih old)
      · cases List.mem_singleton.mp new
        split
        next same =>
          refine List.mem_of_getLast? ?_
          rw [getLast_keys, same]
        next => exact List.mem_append_right _ (List.mem_singleton_self _)

theorem sublist_concat_cases {α : Type} {list : List α} {last added : α}
    (front : List α) (within : (front ++ [last]).Sublist (list ++ [added])) :
    (front ++ [last]).Sublist list ∨ last = added ∧ front.Sublist list := by
  rw [← List.reverse_sublist, List.reverse_concat, List.reverse_concat]
    at within
  cases within with
  | cons _ inside =>
      rw [← List.reverse_concat] at inside
      exact .inl (List.reverse_sublist.mp inside)
  | cons_cons _ inside =>
      exact .inr ⟨rfl, List.reverse_sublist.mp inside⟩

omit [DecidableEq Source] [LinearOrder Key] in
theorem Adjoining.sublist {reports' : List (Report Source Key Value)}
    (adjoining : Adjoining reports) (within : reports'.Sublist reports) :
    Adjoining reports' :=
  fun first mid second triple =>
    adjoining first mid second (triple.trans within)

omit [DecidableEq Source] [LinearOrder Key] in
theorem adjoining_concat : Adjoining (reports ++ [report]) ↔
    Adjoining reports ∧ ∀ first mid, [first, mid].Sublist reports →
      first.key = report.key → mid.key = report.key := by
  constructor
  · intro adjoining
    refine ⟨adjoining.sublist (List.sublist_append_left ..), ?_⟩
    intro first mid pair same
    exact same ▸ adjoining first mid report
      (pair.append (List.Sublist.refl [report])) same
  · rintro ⟨adjoining, behind⟩ first mid second triple same
    rcases sublist_concat_cases [first, mid] triple with
      inside | ⟨isLast, inside⟩
    · exact adjoining first mid second inside same
    · rw [isLast] at same
      exact (behind first mid inside same).trans same.symm

omit [DecidableEq Source] in
/-- A report of the same key as the one before it starts no block, and another
one must be of a key that has not been reported. -/
theorem adjoining_concat_iff : Adjoining (reports ++ [report]) ↔
    Adjoining reports ∧ (reports.getLast?.map (·.key) ≠ some report.key →
      ∀ earlier ∈ reports, earlier.key ≠ report.key) := by
  rw [adjoining_concat]
  refine and_congr_right fun adjoining => ?_
  cases reports using List.reverseRecOn with
  | nil => simp
  | append_singleton reports last =>
      simp only [List.getLast?_concat, Option.map_some, ne_eq,
        Option.some.injEq]
      constructor
      · intro behind differs earlier mem same
        refine differs (behind earlier last ?_ same)
        rcases List.mem_append.mp mem with old | new
        · exact (List.singleton_sublist.mpr old).append (.refl [last])
        · cases List.mem_singleton.mp new
          exact absurd same differs
      · intro fresh first mid pair same
        by_cases again : last.key = report.key
        · rcases sublist_concat_cases [first] pair with
            inside | ⟨isLast, _⟩
          · exact ((adjoining_concat.mp adjoining).2 first mid inside
              (same.trans again.symm)).trans again
          · exact isLast ▸ again
        · exact absurd same (fresh again first (pair.mem List.mem_cons_self))

theorem nodup_keys_iff (zero : Value) :
    (recordAll zero reports).keys.Nodup ↔ Adjoining reports := by
  induction reports using List.reverseRecOn with
  | nil => exact iff_of_true .nil fun _ _ _ triple => by cases triple
  | append_singleton reports report ih =>
      rw [adjoining_concat_iff, ← ih, keys_concat]
      split
      next same => simp [same]
      next differs =>
        simp [differs, List.nodup_append, mem_keys_iff]

theorem values_of_adjoining (adjoining : Adjoining reports)
    {row : LogRow Source Key Value} (mem : row ∈ (recordAll zero reports).rows) :
    row.values = lastValue zero (upTo row.key reports) := by
  induction reports using List.reverseRecOn with
  | nil => cases mem
  | append_singleton reports report ih =>
      obtain ⟨front, rows, before⟩ :=
        rows_concat zero reports report
      have nodup := (nodup_keys_iff zero).mpr adjoining
      rw [keys, rows, List.map_append, List.nodup_append] at nodup
      rw [rows] at mem
      rw [upTo_concat]
      rcases List.mem_append.mp mem with old | new
      · have other : report.key ≠ row.key := fun same =>
          nodup.2.2 row.key (List.mem_map_of_mem old) report.key (by simp)
            same.symm
        rw [if_neg other]
        exact ih (adjoining.sublist (List.sublist_append_left ..)) (before old)
      · cases List.mem_singleton.mp new
        rw [if_pos rfl]

omit [DecidableEq Source] in
theorem count_keys (rows : List (LogRow Source Key Value)) (key : Key) :
    (rows.map (·.key)).count key =
      rows.countP fun row => decide (row.key = key) := by
  rw [List.count_eq_countP, List.countP_map]
  exact List.countP_congr fun row _ => by simp

theorem Right.timely
    (right : Right zero reports (recordAll zero reports).rows) :
    Timely zero reports := by
  have adjoining : Adjoining reports := by
    refine (nodup_keys_iff zero).mp ?_
    refine List.nodup_iff_count_le_one.mpr fun key => ?_
    by_cases reported : key ∈ (recordAll zero reports).keys
    · obtain ⟨report, mem, rfl⟩ := mem_keys_iff.mp reported
      rw [keys, count_keys, right.once report mem]
    · rw [List.count_eq_zero.mpr reported]
      exact Nat.zero_le 1
  refine ⟨adjoining, fun report mem source => ?_⟩
  have logged : report.key ∈ (recordAll zero reports).keys :=
    mem_keys_iff.mpr ⟨report, mem, rfl⟩
  obtain ⟨row, held, same⟩ := List.mem_map.mp logged
  rw [← same, ← right.values row held, values_of_adjoining adjoining held]

theorem Timely.right (timely : Timely zero reports) :
    Right zero reports (recordAll zero reports).rows where
  once report mem := by
    rw [← count_keys]
    exact List.count_eq_one_of_mem ((nodup_keys_iff zero).mpr timely.adjoining)
      (mem_keys_iff.mpr ⟨report, mem, rfl⟩)
  only row mem := mem_keys_iff.mp (List.mem_map_of_mem mem)
  values row mem source := by
    have logged : row.key ∈ (recordAll zero reports).keys :=
      List.mem_map_of_mem mem
    obtain ⟨report, reported, same⟩ := mem_keys_iff.mp logged
    rw [values_of_adjoining timely.adjoining mem, ← same,
      timely.current report reported]

theorem right_iff_timely : Right zero reports (recordAll zero reports).rows ↔
    Timely zero reports :=
  ⟨Right.timely, Timely.right⟩

omit [DecidableEq Source] in
theorem upTo_of_inOrder (inOrder : InOrder reports) {key : Key}
    (reported : ∃ report ∈ reports, report.key = key) :
    upTo key reports = reports.filter fun report => decide (report.key ≤ key) := by
  obtain ⟨report, mem, rfl⟩ := reported
  induction reports using List.reverseRecOn with
  | nil => cases mem
  | append_singleton reports last ih =>
      obtain ⟨before, _, across⟩ := List.pairwise_append.mp inOrder
      have newest (earlier) (held : earlier ∈ reports) :
          earlier.key ≤ last.key := across earlier held last (by simp)
      rw [upTo_concat]
      split
      next same =>
        refine (List.filter_eq_self.mpr fun earlier held => ?_).symm
        rcases List.mem_append.mp held with old | new
        · simpa [← same] using newest earlier old
        · cases List.mem_singleton.mp new
          simp [same]
      next differs =>
        have old : report ∈ reports := by
          rcases List.mem_append.mp mem with old | new
          · exact old
          · exact absurd (List.mem_singleton.mp new ▸ rfl) differs
        have later : report.key < last.key :=
          lt_of_le_of_ne (newest report old) (Ne.symm differs)
        rw [ih before old, List.filter_append]
        simp [later]

theorem timely_of_inOrder (inOrder : InOrder reports) :
    Timely zero reports where
  adjoining first mid second triple same := by
    have sorted := inOrder.sublist triple
    simp only [List.pairwise_cons, List.mem_cons] at sorted
    exact le_antisymm (same ▸ sorted.2.1 second (by simp))
      (sorted.1 mid (by simp))
  current report mem source := by
    rw [upTo_of_inOrder inOrder ⟨report, mem, rfl⟩, lastValue, valueAt,
      List.filter_filter]
    simp

theorem sorted_of_inOrder (inOrder : InOrder reports) :
    (recordAll zero reports).keys.Pairwise (· < ·) := by
  have increasing : (reports.map (·.key)).Pairwise (· ≤ ·) :=
    List.pairwise_map.mpr inOrder
  have timely : Timely zero reports := timely_of_inOrder inOrder
  have nodup : (recordAll zero reports).keys.Nodup :=
    (nodup_keys_iff zero).mpr timely.adjoining
  exact ((increasing.sublist keys_sublist).and nodup).imp
    fun both => lt_of_le_of_ne both.1 both.2

def SameStreams (reports reports' : List (Report Source Key Value)) : Prop :=
  ∀ source, reports.filter (fun report => decide (report.source = source)) =
    reports'.filter fun report => decide (report.source = source)

variable {reports' : List (Report Source Key Value)}

omit [LinearOrder Key] in
theorem SameStreams.mem (same : SameStreams reports reports') :
    report ∈ reports ↔ report ∈ reports' := by
  have own := congrArg (report ∈ ·) (same report.source)
  simpa [List.mem_filter] using own

theorem SameStreams.valueAt (same : SameStreams reports reports')
    (source : Source) (key : Key) :
    valueAt zero reports source key = valueAt zero reports' source key := by
  have split (list : List (Report Source Key Value)) :
      list.filter (fun report =>
          decide (report.source = source ∧ report.key ≤ key)) =
        (list.filter fun report => decide (report.source = source)).filter
          fun report => decide (report.key ≤ key) := by
    rw [List.filter_filter]
    simp [Bool.and_comm]
  rw [MergedLog.valueAt, MergedLog.valueAt, split, split, same]

theorem rows_subset {rows : List (LogRow Source Key Value)}
    (same : SameStreams reports reports') (right : Right zero reports rows)
    (right' : Right zero reports' (recordAll zero reports').rows)
    {row : LogRow Source Key Value} (mem : row ∈ rows) :
    row ∈ (recordAll zero reports').rows := by
  obtain ⟨report, reported, key⟩ := right.only row mem
  have logged : report.key ∈ (recordAll zero reports').keys :=
    mem_keys_iff.mpr ⟨report, same.mem.mp reported, rfl⟩
  obtain ⟨row', held, key'⟩ := List.mem_map.mp logged
  have keys : row'.key = row.key := key'.trans key
  have values : row'.values = row.values := by
    funext source
    rw [right'.values row' held, right.values row mem, keys, same.valueAt]
  have equal : row' = row := by
    cases row'
    cases row
    simp_all
  exact equal ▸ held

theorem rows_eq_of_sameStreams (same : SameStreams reports reports')
    (inOrder : InOrder reports) (inOrder' : InOrder reports') :
    (recordAll zero reports).rows = (recordAll zero reports').rows := by
  have right : Right zero reports _ := (timely_of_inOrder inOrder).right
  have right' : Right zero reports' _ := (timely_of_inOrder inOrder').right
  have sorted {reports : List (Report Source Key Value)}
      (inOrder : InOrder reports) : (recordAll zero reports).rows.Pairwise
        fun earlier later => earlier.key < later.key :=
    List.pairwise_map.mp (sorted_of_inOrder inOrder)
  have nodup {reports : List (Report Source Key Value)}
      (inOrder : InOrder reports) : (recordAll zero reports).rows.Nodup := by
    refine (sorted inOrder).imp fun before equal => ?_
    exact before.ne (congrArg LogRow.key equal)
  have perm : (recordAll zero reports).rows.Perm
      (recordAll zero reports').rows := by
    refine (List.perm_ext_iff_of_nodup (nodup inOrder)
      (nodup inOrder')).mpr fun row => ⟨?_, ?_⟩
    · exact rows_subset same right right'
    · exact rows_subset (fun source => (same source).symm) right' right
  refine perm.eq_of_pairwise (fun _ _ _ _ before after => ?_)
    (sorted inOrder) (sorted inOrder')
  exact absurd before after.not_gt

omit [DecidableEq Source] in
theorem upTo_append_cons {front back : List (Report Source Key Value)}
    {key : Key} (own : report.key = key) :
    upTo key (front ++ report :: back) = front ++ report :: upTo key back := by
  induction back using List.reverseRecOn with
  | nil => rw [upTo_concat, if_pos own, upTo, List.rdropWhile_nil]
  | append_singleton back last ih =>
      rw [← List.cons_append, ← List.append_assoc, upTo_concat, upTo_concat,
        ih]
      split <;> simp

omit [DecidableEq Source] in
theorem key_of_mem_upTo {key : Key} (mem : report ∈ upTo key reports) :
    report.key = key ∨
      ∃ second, second.key = key ∧ [report, second].Sublist reports := by
  induction reports using List.reverseRecOn with
  | nil => cases mem
  | append_singleton reports last ih =>
      rw [upTo_concat] at mem
      split at mem
      next same =>
        rcases List.mem_append.mp mem with old | new
        · exact .inr ⟨last, same,
            (List.singleton_sublist.mpr old).append (.refl [last])⟩
        · exact .inl (List.mem_singleton.mp new ▸ same)
      next =>
        rcases ih mem with own | ⟨second, same, pair⟩
        · exact .inl own
        · exact .inr ⟨second, same, pair.trans (List.sublist_append_left ..)⟩

/-- A value that has overtaken a report of an earlier key is taken for that
key. -/
theorem Timely.overtaken {before after : List (Report Source Key Value)}
    {early late : Report Source Key Value}
    (timely : Timely zero (before ++ late :: early :: after))
    (sources : early.source ≠ late.source)
    (others : ∀ report ∈ after, report.source = late.source →
      report.key ≠ early.key) :
    valueAt zero (before ++ late :: early :: after) late.source early.key =
      late.value := by
  have shape : before ++ late :: early :: after =
      (before ++ [late]) ++ early :: after := by simp
  have silent : ∀ report ∈ early :: upTo early.key after,
      report.source ≠ late.source := by
    intro report mem own
    rcases List.mem_cons.mp mem with rfl | behind
    · exact sources own
    · have inAfter : report ∈ after :=
        (List.rdropWhile_prefix _ _).subset behind
      refine others report inAfter own ?_
      rcases key_of_mem_upTo behind with same | ⟨second, same, pair⟩
      · exact same
      · refine timely.adjoining early report second ?_ same.symm
        rw [shape]
        exact (pair.cons_cons early).trans (List.sublist_append_right ..)
  have none_behind : (early :: upTo early.key after).filter
      (fun report => decide (report.source = late.source)) = [] :=
    List.filter_eq_nil_iff.mpr fun report mem => by simp [silent report mem]
  rw [← timely.current early (by simp), shape, upTo_append_cons rfl, lastValue,
    List.filter_append, none_behind]
  simp

theorem valueAt_eq_zero {source : Source} {key : Key}
    (silent : ∀ report ∈ reports, report.source = source → report.key ≤ key →
      report.value = zero) : valueAt zero reports source key = zero := by
  rw [valueAt]
  cases last : (reports.filter fun report =>
      decide (report.source = source ∧ report.key ≤ key)).getLast? with
  | none => rfl
  | some report =>
      obtain ⟨mem, own⟩ := List.mem_filter.mp (List.mem_of_getLast? last)
      obtain ⟨source, key⟩ := of_decide_eq_true own
      exact silent report mem source key

end MergedLog

/-- A list that is not in order has two neighbours that are not. -/
theorem exists_descent {α Key : Type} [LinearOrder Key] (key : α → Key)
    {list : List α}
    (outOfOrder : ¬ list.Pairwise fun earlier later =>
      key earlier ≤ key later) :
    ∃ before late early after, list = before ++ late :: early :: after ∧
      key early < key late := by
  induction list with
  | nil => exact absurd List.Pairwise.nil outOfOrder
  | cons first rest ih =>
      by_cases tail : rest.Pairwise fun earlier later =>
          key earlier ≤ key later
      · cases rest with
        | nil => exact absurd (List.pairwise_singleton ..) outOfOrder
        | cons second rest =>
            refine ⟨[], first, second, rest, rfl, ?_⟩
            by_contra notSwapped
            refine outOfOrder (List.pairwise_cons.mpr ⟨?_, tail⟩)
            intro later mem
            refine (not_lt.mp notSwapped).trans ?_
            rcases List.mem_cons.mp mem with rfl | behind
            · exact le_rfl
            · exact (List.pairwise_cons.mp tail).1 later behind
      · obtain ⟨before, late, early, after, shape, swapped⟩ := ih tail
        exact ⟨first :: before, late, early, after, by rw [shape]; rfl,
          swapped⟩

end FuryClash.Data
