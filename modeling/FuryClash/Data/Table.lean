import Mathlib.Data.List.AList

namespace FuryClash.Data

universe u v

/-! A table whose entries can be told from their values. -/

theorem length_keys_of_values {α : Type u} {β : Type v} [DecidableEq α]
    {table : AList fun _ : α => β} {values : List β} (key : β → α)
    (nodup : values.Nodup)
    (found : ∀ value ∈ values, table.lookup (key value) = some value)
    (listed : ∀ k value, table.lookup k = some value →
      value ∈ values ∧ k = key value) :
    table.keys.length = values.length := by
  have injective : ∀ first ∈ values, ∀ second ∈ values,
      key first = key second → first = second := by
    intro first memFirst second memSecond same
    have both := found first memFirst
    rw [same, found second memSecond] at both
    exact (Option.some.inj both).symm
  have perm : table.keys.Perm (values.map key) := by
    rw [List.perm_ext_iff_of_nodup table.keys_nodup
      (nodup.map_on injective)]
    intro k
    rw [← AList.mem_keys, ← AList.lookup_isSome, List.mem_map]
    constructor
    · intro present
      obtain ⟨value, at_k⟩ := Option.isSome_iff_exists.mp present
      obtain ⟨mem, isKey⟩ := listed k value at_k
      exact ⟨value, mem, isKey.symm⟩
    · rintro ⟨value, mem, rfl⟩
      rw [found value mem]
      rfl
  rw [perm.length_eq, List.length_map]

end FuryClash.Data
