import ClassFormat.Constant.Pool
import ClassFormat.Proofs.EntryCodec
import Mathlib.Data.List.Basic

/-!
# The layout of a constant pool

The slots of a pool are laid out properly if slot 0 is reserved, exactly the slots behind constants
of two slots are reserved besides it, and the count fits 16 bits (`ConstantPool.Layout`).  A pool is
laid out properly exactly if its slots are those of a list of constants, one after the other
(`ConstantPool.layout_iff`).  Through that list, appending a constant appends to it and storing a
constant of the same width replaces one element of it.
-/

namespace ClassFormat

/-- The slots that a constant takes. -/
def Entry.slots (entry : Entry) : List Slot :=
  .filled entry :: if entry.isWide then [.reserved] else []

theorem Entry.length_slots (entry : Entry) : entry.slots.length = entry.width := by
  unfold slots width
  split <;> rfl

theorem Entry.filterMap_slots (entry : Entry) : entry.slots.filterMap Slot.entry? = [entry] := by
  unfold slots
  split <;> rfl

namespace ConstantPool

/-- The slots of a list of constants, one after the other. -/
def slotsOf (constants : List Entry) : List Slot :=
  constants.flatMap Entry.slots

/-- The number of slots that a list of constants takes. -/
def totalWidth (constants : List Entry) : Nat :=
  (constants.map Entry.width).sum

@[simp]
theorem slotsOf_nil : slotsOf [] = [] :=
  rfl

@[simp]
theorem slotsOf_cons (entry : Entry) (constants : List Entry) :
    slotsOf (entry :: constants) = entry.slots ++ slotsOf constants :=
  rfl

@[simp]
theorem slotsOf_append (first second : List Entry) :
    slotsOf (first ++ second) = slotsOf first ++ slotsOf second :=
  List.flatMap_append

@[simp]
theorem totalWidth_nil : totalWidth [] = 0 :=
  rfl

@[simp]
theorem totalWidth_cons (entry : Entry) (constants : List Entry) :
    totalWidth (entry :: constants) = entry.width + totalWidth constants :=
  rfl

@[simp]
theorem totalWidth_append (first second : List Entry) :
    totalWidth (first ++ second) = totalWidth first + totalWidth second := by
  simp [totalWidth]

theorem totalWidth_eq_zero_iff {constants : List Entry} :
    totalWidth constants = 0 ↔ constants = [] := by
  cases constants with
  | nil => simp
  | cons entry constants =>
      have positive := entry.width_eq_one_or_two
      simp only [totalWidth_cons, reduceCtorEq, iff_false]
      omega

theorem length_slotsOf (constants : List Entry) :
    (slotsOf constants).length = totalWidth constants := by
  induction constants with
  | nil => rfl
  | cons entry constants ih => simp [Entry.length_slots, ih]

theorem filterMap_slotsOf (constants : List Entry) :
    (slotsOf constants).filterMap Slot.entry? = constants := by
  induction constants with
  | nil => rfl
  | cons entry constants ih => simp [Entry.filterMap_slots, ih]

/-! ## Slots as constants one after the other -/

/-- The first slot is not reserved, and the slot behind another one is reserved exactly if that one
holds a constant of two slots. -/
private def Alternates (slots : List Slot) : Prop :=
  slots[0]? ≠ some .reserved ∧
    ∀ i : Nat, slots[i + 1]? = some .reserved ↔
      ∃ entry, slots[i]? = some (.filled entry) ∧ entry.isWide = true

private theorem alternates_slotsOf (constants : List Entry) : Alternates (slotsOf constants) := by
  induction constants with
  | nil => simp [Alternates]
  | cons entry constants ih =>
      obtain ⟨first, behind⟩ := ih
      refine ⟨by simp [Entry.slots], fun i => ?_⟩
      by_cases wide : entry.isWide = true
      · match i with
        | 0 => simp [Entry.slots, wide]
        | 1 => simpa [Entry.slots, wide] using first
        | i + 2 => simpa [Entry.slots, wide] using behind i
      · match i with
        | 0 => simpa [Entry.slots, wide] using first
        | i + 1 => simpa [Entry.slots, wide] using behind i

private theorem exists_eq_slotsOf {slots : List Slot} (alternates : Alternates slots) :
    ∃ constants, slots = slotsOf constants := by
  obtain ⟨first, behind⟩ := alternates
  match slots with
  | [] => exact ⟨[], rfl⟩
  | .reserved :: _ => exact absurd rfl first
  | .filled entry :: rest =>
      by_cases wide : entry.isWide = true
      · have next := (behind 0).mpr ⟨entry, rfl, wide⟩
        match rest with
        | [] => simp at next
        | .filled _ :: _ => simp at next
        | .reserved :: rest =>
            have alternates : Alternates rest :=
              ⟨fun reserved => by simpa using (behind 1).mp reserved, fun i => behind (i + 2)⟩
            obtain ⟨constants, rfl⟩ := exists_eq_slotsOf alternates
            exact ⟨entry :: constants, by simp [Entry.slots, wide]⟩
      · have alternates : Alternates rest :=
          ⟨fun reserved => wide (by simpa using (behind 0).mp reserved), fun i => behind (i + 1)⟩
        obtain ⟨constants, rfl⟩ := exists_eq_slotsOf alternates
        exact ⟨entry :: constants, by simp [Entry.slots, wide]⟩

/-- The constants of a pool, in order. -/
def constants (pool : ConstantPool) : List Entry :=
  pool.slots.toList.filterMap Slot.entry?

/-- The pool of a list of constants. -/
def ofConstants (constants : List Entry) : ConstantPool :=
  ⟨(.reserved :: slotsOf constants).toArray⟩

@[simp]
theorem size_ofConstants (constants : List Entry) :
    (ofConstants constants).slots.size = 1 + totalWidth constants := by
  simp [ofConstants, length_slotsOf, Nat.add_comm]

@[simp]
theorem constants_ofConstants (constants : List Entry) :
    (ofConstants constants).constants = constants :=
  filterMap_slotsOf constants

/-- The slots are laid out properly and can be counted with 16 bits. -/
structure Layout (pool : ConstantPool) : Prop where
  size_pos : 1 ≤ pool.slots.size
  size_le : pool.slots.size ≤ 65535
  first_reserved : pool.slots[0]? = some .reserved
  /-- A slot behind the first is reserved exactly if the one before it holds a constant of two
  slots. -/
  reserved_iff : ∀ i, 1 ≤ i → i < pool.slots.size →
    (pool.slots[i]? = some .reserved ↔
      ∃ entry, pool.slots[i - 1]? = some (.filled entry) ∧ entry.isWide = true)
  last_narrow : ∀ entry, pool.slots[pool.slots.size - 1]? = some (.filled entry) →
    entry.isWide = false

private theorem alternates_of_layout {pool : ConstantPool} {slots : List Slot}
    (layout : pool.Layout) (slots_eq : pool.slots.toList = .reserved :: slots) :
    Alternates slots := by
  have shift : ∀ i : Nat, slots[i]? = pool.slots[i + 1]? := by
    intro i
    rw [← Array.getElem?_toList, slots_eq, List.getElem?_cons_succ]
  refine ⟨fun reserved => ?_, fun i => ?_⟩
  · rw [shift] at reserved
    have inside := (Array.getElem?_eq_some_iff.mp reserved).1
    obtain ⟨entry, filled, _⟩ := (layout.reserved_iff 1 (Nat.le_refl 1) inside).mp reserved
    rw [Nat.sub_self, layout.first_reserved] at filled
    cases filled
  · rw [shift, shift]
    constructor
    · intro reserved
      have inside := (Array.getElem?_eq_some_iff.mp reserved).1
      exact (layout.reserved_iff (i + 2) (by omega) inside).mp reserved
    · rintro ⟨entry, filled, wide⟩
      have inside := (Array.getElem?_eq_some_iff.mp filled).1
      by_cases last : i + 1 = pool.slots.size - 1
      · rw [last] at filled
        rw [layout.last_narrow entry filled] at wide
        cases wide
      · exact (layout.reserved_iff (i + 2) (by omega) (by omega)).mpr ⟨entry, filled, wide⟩

theorem layout_ofConstants {constants : List Entry} (bound : 1 + totalWidth constants ≤ 65535) :
    (ofConstants constants).Layout := by
  obtain ⟨first, behind⟩ := alternates_slotsOf constants
  have shift : ∀ i : Nat, (ofConstants constants).slots[i + 1]? = (slotsOf constants)[i]? := by
    intro i
    simp [ofConstants]
  constructor
  · rw [size_ofConstants]
    omega
  · rw [size_ofConstants]
    exact bound
  · simp [ofConstants]
  · intro i positive _
    match i, positive with
    | 1, _ =>
        rw [shift]
        simp [ofConstants, first]
    | i + 2, _ =>
        rw [shift, Nat.add_sub_cancel (i + 1) 1, shift]
        exact behind i
  · intro entry filled
    rw [size_ofConstants, Nat.add_sub_cancel_left] at filled
    cases width_eq : totalWidth constants with
    | zero =>
        rw [width_eq] at filled
        simp [ofConstants] at filled
    | succ last =>
        rw [width_eq, shift] at filled
        have none_behind : (slotsOf constants)[last + 1]? ≠ some .reserved := by
          rw [List.getElem?_eq_none (by rw [length_slotsOf, width_eq])]
          exact nofun
        exact Bool.eq_false_iff.mpr fun wide =>
          none_behind ((behind last).mpr ⟨entry, filled, wide⟩)

/-- A pool is laid out properly exactly if it is the pool of a list of constants that leaves the
count within 16 bits. -/
theorem layout_iff {pool : ConstantPool} :
    pool.Layout ↔
      ∃ constants, pool = ofConstants constants ∧ 1 + totalWidth constants ≤ 65535 := by
  constructor
  · intro layout
    have front : pool.slots.toList[0]? = some .reserved := by
      rw [Array.getElem?_toList]
      exact layout.first_reserved
    match slots_eq : pool.slots.toList with
    | [] => simp [slots_eq] at front
    | first :: rest =>
        obtain rfl : first = .reserved := by simpa [slots_eq] using front
        obtain ⟨constants, rfl⟩ := exists_eq_slotsOf (alternates_of_layout layout slots_eq)
        have pool_eq : pool = ofConstants constants := by
          obtain ⟨slots⟩ := pool
          simp only [ofConstants, ← slots_eq]
        exact ⟨constants, pool_eq, by rw [← size_ofConstants, ← pool_eq]; exact layout.size_le⟩
  · rintro ⟨constants, rfl, bound⟩
    exact layout_ofConstants bound

/-- As long as there is room, the count of a pool is the place of the next constant. -/
theorem toNat_count_of_hasRoom {pool : ConstantPool} {entry : Entry}
    (room : pool.hasRoom entry = true) : pool.count.toNat = pool.slots.size := by
  simp only [hasRoom, decide_eq_true_eq] at room
  exact UInt16.toNat_ofNat_of_lt' (Nat.lt_of_le_of_lt (Nat.le_add_right _ _) room)

/-- The stored count is the number of slots. -/
theorem Layout.toNat_count {pool : ConstantPool} (layout : pool.Layout) :
    pool.count.toNat = pool.slots.size :=
  UInt16.toNat_ofNat_of_lt' (Nat.lt_of_le_of_lt layout.size_le (by decide))

/-! ## Operations on the list of constants -/

theorem empty_eq_ofConstants : empty = ofConstants [] :=
  rfl

theorem append_ofConstants (constants : List Entry) (entry : Entry) :
    (ofConstants constants).append entry = ofConstants (constants ++ [entry]) := by
  unfold append ofConstants
  by_cases wide : entry.isWide = true
  · simp [Entry.slots, wide]
  · simp [Entry.slots, wide]

private theorem getElem?_slotsOf_eq_filled_iff {constants : List Entry} {i : Nat}
    {entry : Entry} :
    (slotsOf constants)[i]? = some (.filled entry) ↔
      ∃ before after, constants = before ++ entry :: after ∧ i = totalWidth before := by
  constructor
  · intro filled
    induction constants generalizing i with
    | nil => simp at filled
    | cons first constants ih =>
        rw [slotsOf_cons, List.getElem?_append, Entry.length_slots] at filled
        split at filled
        · rename_i inside
          obtain ⟨rfl, rfl⟩ : i = 0 ∧ first = entry := by
            unfold Entry.slots at filled
            cases i with
            | zero => simpa using filled
            | succ i => split at filled <;> simp [List.getElem?_cons] at filled
          exact ⟨[], constants, rfl, rfl⟩
        · rename_i outside
          obtain ⟨before, after, rfl, width_eq⟩ := ih filled
          refine ⟨first :: before, after, rfl, ?_⟩
          rw [totalWidth_cons, ← width_eq]
          omega
  · rintro ⟨before, after, rfl, rfl⟩
    rw [slotsOf_append, ← length_slotsOf, List.getElem?_append_right (Nat.le_refl _),
      Nat.sub_self]
    rfl

/-- The index of a constant says how many slots the constants before it take. -/
theorem get?_ofConstants_eq_some_iff {constants : List Entry} {index : UInt16} {entry : Entry} :
    (ofConstants constants).get? index = some entry ↔
      ∃ before after, constants = before ++ entry :: after ∧
        index.toNat = 1 + totalWidth before := by
  have filled_iff : (ofConstants constants).get? index = some entry ↔
      (.reserved :: slotsOf constants)[index.toNat]? = some (.filled entry) := by
    rw [get?, slot?, Option.bind_eq_some_iff]
    constructor
    · rintro ⟨slot, found, filled⟩
      cases slot with
      | filled actual =>
          cases filled
          simpa [ofConstants] using found
      | reserved => cases filled
    · intro found
      exact ⟨.filled entry, by simpa [ofConstants] using found, rfl⟩
  rw [filled_iff]
  cases index_eq : index.toNat with
  | zero =>
      simp only [List.getElem?_cons_zero, Option.some.injEq, reduceCtorEq, false_iff]
      rintro ⟨before, _, _, impossible⟩
      omega
  | succ i =>
      simp only [List.getElem?_cons_succ, getElem?_slotsOf_eq_filled_iff, Nat.add_comm 1,
        Nat.add_right_cancel_iff]

/-- Storing a constant of the same width replaces one constant of the list. -/
theorem set_ofConstants {before after : List Entry} {current entry : Entry} {index : UInt16}
    (index_eq : index.toNat = 1 + totalWidth before) (width_eq : current.isWide = entry.isWide) :
    (ofConstants (before ++ current :: after)).set index entry =
      ofConstants (before ++ entry :: after) := by
  have replaced : (slotsOf (before ++ current :: after)).set (totalWidth before) (.filled entry) =
      slotsOf (before ++ entry :: after) := by
    rw [slotsOf_append, ← length_slotsOf, List.set_append_right _ _ (Nat.le_refl _), Nat.sub_self,
      slotsOf_cons, slotsOf_append, slotsOf_cons]
    simp only [Entry.slots, width_eq, List.cons_append, List.set_cons_zero]
  rw [set, index_eq, Nat.add_comm]
  simp only [ofConstants, List.setIfInBounds_toArray, List.set_cons_succ, replaced]

/-- Appending a constant for which there is room keeps the layout. -/
theorem Layout.append {pool : ConstantPool} {entry : Entry} (layout : pool.Layout)
    (room : pool.hasRoom entry = true) : (pool.append entry).Layout := by
  obtain ⟨constants, rfl, _⟩ := layout_iff.mp layout
  simp only [hasRoom, size_ofConstants, decide_eq_true_eq] at room
  refine layout_iff.mpr ⟨constants ++ [entry], append_ofConstants constants entry, ?_⟩
  simp only [totalWidth_append, totalWidth_cons, totalWidth_nil]
  omega

/-- Storing a constant in the place of one of the same width keeps the layout. -/
theorem Layout.set {pool : ConstantPool} {index : UInt16} {current entry : Entry}
    (layout : pool.Layout) (found : pool.get? index = some current)
    (width_eq : current.isWide = entry.isWide) : (pool.set index entry).Layout := by
  obtain ⟨constants, rfl, bound⟩ := layout_iff.mp layout
  obtain ⟨before, after, rfl, index_eq⟩ := get?_ofConstants_eq_some_iff.mp found
  refine layout_iff.mpr ⟨before ++ entry :: after, set_ofConstants index_eq width_eq, ?_⟩
  simpa [Entry.width, width_eq] using bound

theorem layout_empty : empty.Layout := by
  rw [empty_eq_ofConstants]
  exact layout_ofConstants (by decide)

end ConstantPool

end ClassFormat
