import Mathlib.Algebra.BigOperators.Group.List.Basic
import Mathlib.Algebra.Ring.Int.Defs
import Mathlib.Data.List.Basic

namespace FuryClash.Data

/-! Tables as lists: what holds of the rows and of their sums after one row has
been written. -/

variable {α β : Type}

theorem forall_mem_modify {P : α → Prop} {f : α → α}
    (kept : ∀ x, P x → P (f x)) {l : List α} (all : ∀ x ∈ l, P x)
    (i : Nat) : ∀ x ∈ l.modify i f, P x := by
  intro x mem
  obtain ⟨j, at_j⟩ := List.mem_iff_getElem?.mp mem
  rw [List.getElem?_modify] at at_j
  obtain ⟨y, held, rfl⟩ := Option.map_eq_some_iff.mp at_j
  have known := all y (List.mem_of_getElem? held)
  split
  next => exact kept y known
  next => exact known

theorem exists_mem_modify {P : α → Prop} {f : α → α}
    (kept : ∀ x, P x → P (f x)) {l : List α} (found : ∃ x ∈ l, P x)
    (i : Nat) : ∃ x ∈ l.modify i f, P x := by
  obtain ⟨x, mem, holds⟩ := found
  obtain ⟨j, at_j⟩ := List.mem_iff_getElem?.mp mem
  have moved : (l.modify i f)[j]? = some (if i = j then f x else x) := by
    rw [List.getElem?_modify, at_j]
    rfl
  refine ⟨_, List.mem_of_getElem? moved, ?_⟩
  split
  next => exact kept x holds
  next => exact holds

theorem find?_of_pairwise [DecidableEq β] {key : α → β} {l : List α}
    (distinct : l.Pairwise fun x y => key x ≠ key y) {x : α} (mem : x ∈ l) :
    l.find? (fun y => key y = key x) = some x := by
  induction l with
  | nil => cases mem
  | cons y l ih =>
      obtain ⟨first, others⟩ := List.pairwise_cons.mp distinct
      rcases List.mem_cons.mp mem with rfl | behind
      · exact List.find?_cons_of_pos (decide_eq_true rfl)
      · rw [List.find?_cons_of_neg, ih others behind]
        simpa using first x behind

theorem exists_mem_set {P : α → Prop} {l : List α} {i : Nat} {old new : α}
    (held : l[i]? = some old) (kept : P old → P new)
    (found : ∃ x ∈ l, P x) : ∃ x ∈ l.set i new, P x := by
  obtain ⟨x, mem, holds⟩ := found
  obtain ⟨j, at_j⟩ := List.mem_iff_getElem?.mp mem
  by_cases same : i = j
  · subst same
    cases held.symm.trans at_j
    obtain ⟨bound, _⟩ := List.getElem?_eq_some_iff.mp held
    exact ⟨new, List.mem_set bound new, kept holds⟩
  · refine ⟨x, List.mem_of_getElem? (i := j) ?_, holds⟩
    rw [List.getElem?_set_ne same]
    exact at_j

theorem map_modify_of_same {f : α → α} {g : α → β} {l : List α}
    (same : ∀ x ∈ l, g (f x) = g x) (i : Nat) :
    (l.modify i f).map g = l.map g := by
  apply List.ext_getElem?
  intro j
  rw [List.getElem?_map, List.getElem?_map, List.getElem?_modify]
  cases held : l[j]? with
  | none => rfl
  | some x =>
      have kept := same x (List.mem_of_getElem? held)
      by_cases here : i = j <;> simp [here, kept]

theorem set_of_getElem? {l : List α} {i : Nat} {x : α}
    (held : l[i]? = some x) : l.set i x = l := by
  obtain ⟨bound, rfl⟩ := List.getElem?_eq_some_iff.mp held
  exact List.set_getElem_self bound

theorem getElem?_set_of_held {l : List α} {i : Nat} {old : α}
    (held : l[i]? = some old) (new : α) (j : Nat) :
    (l.set i new)[j]? = if i = j then some new else l[j]? := by
  obtain ⟨bound, _⟩ := List.getElem?_eq_some_iff.mp held
  rw [List.getElem?_set, if_pos bound]

theorem modify_of_held {l : List α} {i : Nat} {x : α}
    (held : l[i]? = some x) (f : α → α) : l.modify i f = l.set i (f x) := by
  apply List.ext_getElem?
  intro j
  rw [List.getElem?_modify, getElem?_set_of_held held]
  split
  next here =>
    rw [← here, held]
    rfl
  next => rw [id_map']

theorem getElem?_concat_of_held {l : List α} {i : Nat} {x : α}
    (held : l[i]? = some x) (new : α) : (l ++ [new])[i]? = some x := by
  obtain ⟨bound, _⟩ := List.getElem?_eq_some_iff.mp held
  rw [List.getElem?_append_left bound, held]

theorem of_getElem?_concat {l : List α} {i : Nat} {x new : α}
    (held : (l ++ [new])[i]? = some x) :
    l[i]? = some x ∨ i = l.length ∧ x = new := by
  rw [List.getElem?_append] at held
  split at held
  next => exact .inl held
  next outside =>
    obtain ⟨bound, shape⟩ := List.getElem?_eq_some_iff.mp held
    rw [List.length_singleton] at bound
    refine .inr ⟨by omega, ?_⟩
    rw [← shape, List.getElem_singleton]

theorem sum_map_set {l : List α} {i : Nat} {old : α}
    (held : l[i]? = some old) (new : α) (f : α → Int) :
    ((l.set i new).map f).sum = (l.map f).sum - f old + f new := by
  induction l generalizing i with
  | nil => cases held
  | cons x rest ih =>
      cases i with
      | zero =>
          cases held
          simp only [List.set_cons_zero, List.map_cons, List.sum_cons]
          omega
      | succ i =>
          have tail := ih (by simpa using held)
          simp only [List.set_cons_succ, List.map_cons, List.sum_cons, tail]
          omega

/-- A row that had nothing to show before shows it after. -/
theorem flatMap_set_perm {l : List α} {i : Nat} {old : α}
    (held : l[i]? = some old) (new : α) {f : α → List β}
    (nothing : f old = []) :
    ((l.set i new).flatMap f).Perm (l.flatMap f ++ f new) := by
  induction l generalizing i with
  | nil => cases held
  | cons x rest ih =>
      cases i with
      | zero =>
          cases held
          rw [List.set_cons_zero, List.flatMap_cons, List.flatMap_cons,
            nothing, List.nil_append]
          exact List.perm_append_comm
      | succ i =>
          have tail := ih (by simpa using held)
          rw [List.set_cons_succ, List.flatMap_cons, List.flatMap_cons,
            List.append_assoc]
          exact tail.append_left (f x)

theorem forall_mem_set {P : α → Prop} {l : List α} (all : ∀ x ∈ l, P x)
    {new : α} (holds : P new) (i : Nat) : ∀ x ∈ l.set i new, P x := by
  intro x mem
  rcases List.mem_or_eq_of_mem_set mem with old | rfl
  · exact all x old
  · exact holds

end FuryClash.Data
