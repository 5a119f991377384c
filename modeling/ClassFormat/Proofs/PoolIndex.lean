import ClassFormat.Proofs.PoolLayout
import Mathlib.Data.List.Nodup

/-!
# Indices of a constant pool

In a pool that is laid out properly no slot number is cut off when it becomes an index.  The list of
constants then has every constant at its index once and in the order of the indices, and an index
that leads to no constant is reserved or lies behind the last slot.
-/

namespace ClassFormat

namespace ConstantPool

/-- The constants of a pool with the numbers of their slots. -/
def positions (pool : ConstantPool) : List (Nat × Entry) :=
  pool.slots.toList.zipIdx.filterMap fun (slot, position) =>
    slot.entry?.map fun entry => (position, entry)

theorem mem_positions_iff {pool : ConstantPool} {position : Nat} {entry : Entry} :
    (position, entry) ∈ pool.positions ↔ pool.slots[position]? = some (.filled entry) := by
  simp only [positions, List.mem_filterMap, Prod.exists, List.mem_zipIdx_iff_getElem?,
    Option.map_eq_some_iff, Prod.mk.injEq, Array.getElem?_toList]
  constructor
  · rintro ⟨slot, _, found, actual, filled, rfl, rfl⟩
    cases slot with
    | filled entry =>
        cases filled
        exact found
    | reserved => cases filled
  · intro found
    exact ⟨.filled entry, position, found, entry, rfl, rfl, rfl⟩

theorem positions_pairwise (pool : ConstantPool) :
    pool.positions.Pairwise fun first second => first.1 < second.1 := by
  have numbered : pool.slots.toList.zipIdx.Pairwise fun first second => first.2 < second.2 := by
    apply List.pairwise_map.mp
    rw [List.zipIdx_map_snd]
    exact List.pairwise_lt_range'
  refine numbered.filterMap _ ?_
  rintro ⟨slot, position⟩ ⟨slot', position'⟩ before _ found _ found'
  obtain ⟨_, _, rfl⟩ := Option.map_eq_some_iff.mp found
  obtain ⟨_, _, rfl⟩ := Option.map_eq_some_iff.mp found'
  exact before

theorem get?_eq_some_iff {pool : ConstantPool} {index : UInt16} {entry : Entry} :
    pool.get? index = some entry ↔ pool.slot? index = some (.filled entry) := by
  rw [get?, Option.bind_eq_some_iff]
  constructor
  · rintro ⟨slot, found, filled⟩
    cases slot with
    | filled actual =>
        cases filled
        exact found
    | reserved => cases filled
  · intro found
    exact ⟨_, found, rfl⟩

section Layout

variable {pool : ConstantPool} (layout : pool.Layout)
include layout

/-- No slot number is cut off in the list of constants. -/
theorem Layout.entries_toNat :
    pool.entries.map (fun (index, entry) => (index.toNat, entry)) = pool.positions := by
  rw [entries, positions, List.map_filterMap]
  apply List.filterMap_congr
  rintro ⟨slot, position⟩ mem
  have inside : position < pool.slots.size := by
    have := (List.mem_zipIdx mem).2.1
    simpa using this
  have small : position < 2 ^ 16 := by
    have := layout.size_le
    omega
  have kept : (position.toUInt16).toNat = position := UInt16.toNat_ofNat_of_lt' small
  simp only [Option.map_map]
  congr 1
  funext entry
  simp only [Function.comp_apply, kept]

/-- The list has a constant with an index exactly if the index addresses the constant. -/
theorem Layout.mem_entries_iff {index : UInt16} {entry : Entry} :
    (index, entry) ∈ pool.entries ↔ pool.get? index = some entry := by
  have injective : Function.Injective fun (item : UInt16 × Entry) => (item.1.toNat, item.2) := by
    rintro ⟨first, _⟩ ⟨second, _⟩ same
    simp only [Prod.mk.injEq] at same ⊢
    exact ⟨UInt16.toNat_inj.mp same.1, same.2⟩
  rw [← List.mem_map_of_injective injective, get?_eq_some_iff, slot?, ← mem_positions_iff,
    ← layout.entries_toNat]

/-- The indices in the list increase. -/
theorem Layout.entries_pairwise :
    pool.entries.Pairwise fun first second => first.1 < second.1 := by
  have increasing := pool.positions_pairwise
  rw [← layout.entries_toNat, List.pairwise_map] at increasing
  exact increasing.imp fun before => UInt16.lt_iff_toNat_lt.mpr before

/-- A constant stands in the list once. -/
theorem Layout.count_entries {index : UInt16} {entry : Entry}
    (found : pool.get? index = some entry) : pool.entries.count (index, entry) = 1 := by
  have distinct : pool.entries.Nodup := by
    refine layout.entries_pairwise.imp ?_
    rintro first _ before rfl
    exact UInt16.lt_irrefl _ before
  exact List.count_eq_one_of_mem distinct (layout.mem_entries_iff.mpr found)

/-- An index addresses a constant, a reserved slot, or nothing because it is not below the
count. -/
theorem Layout.addressed_cases (index : UInt16) :
    (∃ entry, pool.get? index = some entry) ∨
      pool.slot? index = some .reserved ∨
      pool.count ≤ index ∧ pool.slot? index = none := by
  cases slot_eq : pool.slot? index with
  | some slot =>
      cases slot with
      | filled entry => exact .inl ⟨entry, get?_eq_some_iff.mpr slot_eq⟩
      | reserved => exact .inr (.inl rfl)
  | none =>
      refine .inr (.inr ⟨?_, rfl⟩)
      rw [UInt16.le_iff_toNat_le, layout.toNat_count]
      exact Array.getElem?_eq_none_iff.mp slot_eq

end Layout

theorem map_snd_entries (pool : ConstantPool) :
    pool.entries.map Prod.snd = pool.constants := by
  rw [entries, constants, List.map_filterMap]
  have split : pool.slots.toList = pool.slots.toList.zipIdx.map Prod.fst :=
    (List.zipIdx_map_fst 0 _).symm
  conv => rhs; rw [split, List.filterMap_map]
  apply List.filterMap_congr
  rintro ⟨slot, position⟩ _
  cases slot <;> rfl

/-- The count is one more than the number of slots that the constants take. -/
theorem Layout.toNat_count_eq_widths {pool : ConstantPool} (layout : pool.Layout) :
    pool.count.toNat = 1 + (pool.entries.map fun item => item.2.width).sum := by
  rw [layout.toNat_count]
  obtain ⟨constants, rfl, _⟩ := layout_iff.mp layout
  have widths : (ofConstants constants).entries.map (fun item => item.2.width) =
      constants.map Entry.width := by
    conv => rhs; rw [← constants_ofConstants constants, ← map_snd_entries, List.map_map]
    rfl
  rw [widths, size_ofConstants]
  rfl

theorem Layout.isEmpty_iff {pool : ConstantPool} (layout : pool.Layout) :
    pool.isEmpty = true ↔ pool.entryCount = 0 := by
  obtain ⟨constants, rfl, _⟩ := layout_iff.mp layout
  have length_eq : (ofConstants constants).entryCount = constants.length := by
    rw [entryCount, ← List.length_map Prod.snd, map_snd_entries, constants_ofConstants]
  rw [length_eq, List.length_eq_zero_iff, ← totalWidth_eq_zero_iff]
  simp only [isEmpty, size_ofConstants, decide_eq_true_eq]
  omega

end ConstantPool

end ClassFormat
