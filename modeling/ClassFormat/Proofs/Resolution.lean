import ClassFormat.ClassFile.Resolve
import ClassFormat.Proofs.PoolIndex

/-!
# Looking up constants

An index leads to a string or to a class exactly if the pool has a constant of that kind there.  A
pool that has been appended to, or in which a string has been stored, still has a constant of the
same kind at every index that had one.
-/

namespace ClassFormat

namespace ConstantPool

variable {pool : ConstantPool} {index : UInt16}

theorem utf8_eq_ok_iff {string : ModifiedUtf8} :
    pool.utf8 index = .ok string ↔ pool.get? index = some (.utf8 string) := by
  unfold utf8
  cases pool.get? index with
  | none => simp
  | some entry => cases entry <;> simp [Entry.utf8?]

theorem classNameIndex_eq_ok_iff {nameIndex : UInt16} :
    pool.classNameIndex index = .ok nameIndex ↔ pool.get? index = some (.classRef nameIndex) := by
  unfold classNameIndex
  cases pool.get? index with
  | none => simp
  | some entry => cases entry <;> simp [Entry.classNameIndex?]

theorem isUtf8_iff :
    pool.isUtf8 index = true ↔ ∃ string, pool.get? index = some (.utf8 string) := by
  unfold isUtf8
  cases pool.get? index with
  | none => simp
  | some entry => cases entry <;> simp [Entry.utf8?]

theorem isClass_iff :
    pool.isClass index = true ↔ ∃ nameIndex, pool.get? index = some (.classRef nameIndex) := by
  unfold isClass
  cases pool.get? index with
  | none => simp
  | some entry => cases entry <;> simp [Entry.classNameIndex?]

/-- A string can be read as a text. -/
theorem text_eq_ok_of_isUtf8 (isUtf8 : pool.isUtf8 index = true) :
    ∃ text, pool.text index = .ok text := by
  rcases isUtf8_iff.mp isUtf8 with ⟨string, found⟩
  exact ⟨string.text, by rw [text, utf8_eq_ok_iff.mpr found]; rfl⟩

theorem mem_slots_of_get?_eq_some {entry : Entry} (found : pool.get? index = some entry) :
    .filled entry ∈ pool.slots :=
  Array.mem_of_getElem? (get?_eq_some_iff.mp found)

/-! ## After a change -/

theorem get?_append_of_eq_some {entry other : Entry} (found : pool.get? index = some entry) :
    (pool.append other).get? index = some entry := by
  rw [get?_eq_some_iff, slot?] at found ⊢
  have inside := (Array.getElem?_eq_some_iff.mp found).1
  unfold append
  split
  · rw [Array.getElem?_push_lt (by rw [Array.size_push]; omega)]
    simpa [Array.getElem_push, inside] using (Array.getElem?_eq_some_iff.mp found).2
  · rw [Array.getElem?_push_lt inside]
    simpa using (Array.getElem?_eq_some_iff.mp found).2

theorem mem_slots_append_iff {entry other : Entry} :
    .filled entry ∈ (pool.append other).slots ↔ .filled entry ∈ pool.slots ∨ entry = other := by
  unfold append
  split <;> simp

/-- Storing a constant in a slot that exists changes what its index leads to and nothing else. -/
theorem get?_set {current entry : Entry} (found : pool.get? index = some current)
    (other : UInt16) :
    (pool.set index entry).get? other =
      if other = index then some entry else pool.get? other := by
  have inside := (Array.getElem?_eq_some_iff.mp (get?_eq_some_iff.mp found)).1
  unfold get? slot? set
  by_cases same : other = index
  · subst same
    rw [if_pos rfl, Array.getElem?_setIfInBounds_self_of_lt inside]
    rfl
  · have different : index.toNat ≠ other.toNat := fun equal =>
      same (UInt16.toNat_inj.mp equal.symm)
    rw [if_neg same, Array.getElem?_setIfInBounds_ne different]

/-- What does not tell a constant from the one that is stored in its place is as before. -/
theorem apply_get?_set {α : Type} (f : Option Entry → α) {current : Entry}
    (found : pool.get? index = some current) (entry : Entry)
    (same : f (some entry) = f (some current)) (other : UInt16) :
    f ((pool.set index entry).get? other) = f (pool.get? other) := by
  rw [get?_set found]
  by_cases here : other = index
  · rw [if_pos here, here, found, same]
  · rw [if_neg here]

theorem mem_slots_set {entry other : Entry} (mem : .filled entry ∈ (pool.set index other).slots) :
    .filled entry ∈ pool.slots ∨ entry = other := by
  rcases Array.mem_or_eq_of_mem_setIfInBounds mem with old | new
  · exact .inl old
  · cases new
    exact .inr rfl

/-- What is found in a pool is found in the next one with the same kind, and a class that is new
there has a name that was found before. -/
structure Extends (pool next : ConstantPool) : Prop where
  utf8 : ∀ index, pool.isUtf8 index = true → next.isUtf8 index = true
  classRef : ∀ index, pool.isClass index = true → next.isClass index = true
  newClass : ∀ nameIndex, .filled (.classRef nameIndex) ∈ next.slots →
    .filled (.classRef nameIndex) ∈ pool.slots ∨ pool.isUtf8 nameIndex = true

theorem extends_append {entry : Entry}
    (named : ∀ nameIndex, entry = .classRef nameIndex → pool.isUtf8 nameIndex = true) :
    pool.Extends (pool.append entry) where
  utf8 index isUtf8 := by
    rcases isUtf8_iff.mp isUtf8 with ⟨string, found⟩
    exact isUtf8_iff.mpr ⟨string, get?_append_of_eq_some found⟩
  classRef index isClass := by
    rcases isClass_iff.mp isClass with ⟨nameIndex, found⟩
    exact isClass_iff.mpr ⟨nameIndex, get?_append_of_eq_some found⟩
  newClass nameIndex mem := by
    rcases mem_slots_append_iff.mp mem with old | new
    · exact .inl old
    · exact .inr (named nameIndex new.symm)

theorem extends_set_utf8 {string : ModifiedUtf8} (isUtf8 : pool.isUtf8 index = true) :
    pool.Extends (pool.set index (.utf8 string)) := by
  rcases isUtf8_iff.mp isUtf8 with ⟨old, found⟩
  constructor
  · intro other otherUtf8
    rcases isUtf8_iff.mp otherUtf8 with ⟨otherString, otherFound⟩
    rw [isUtf8_iff, get?_set found]
    by_cases same : other = index
    · exact ⟨string, if_pos same⟩
    · exact ⟨otherString, (if_neg same).trans otherFound⟩
  · intro other otherClass
    rcases isClass_iff.mp otherClass with ⟨nameIndex, otherFound⟩
    have different : other ≠ index := by
      rintro rfl
      rw [found] at otherFound
      cases otherFound
    rw [isClass_iff, get?_set found, if_neg different]
    exact ⟨nameIndex, otherFound⟩
  · intro nameIndex mem
    rcases mem_slots_set mem with mem | impossible
    · exact .inl mem
    · cases impossible

end ConstantPool

/-! ## Look-ups one after the other -/

theorem mapM_eq_ok_iff {α β ε : Type} {f : α → Except ε β} {items : List α} {results : List β} :
    items.mapM f = .ok results ↔
      List.Forall₂ (fun item result => f item = .ok result) items results := by
  induction items generalizing results with
  | nil =>
      simp [List.mapM_nil, pure, Except.pure, eq_comm]
  | cons item items ih =>
      simp only [List.mapM_cons, bind, Except.bind, pure, Except.pure]
      cases first : f item with
      | error error =>
          simp only [reduceCtorEq, false_iff]
          rintro (_ | ⟨head, _⟩)
          rw [first] at head
          cases head
      | ok result =>
          cases rest : items.mapM f with
          | error error =>
              simp only [reduceCtorEq, false_iff]
              rintro (_ | ⟨_, tail⟩)
              rw [ih.mpr tail] at rest
              cases rest
          | ok more =>
              simp only [Except.ok.injEq]
              constructor
              · rintro rfl
                exact .cons first (ih.mp rest)
              · rintro (_ | ⟨head, tail⟩)
                rw [first] at head
                rw [ih.mpr tail] at rest
                cases head
                cases rest
                rfl

/-- Look-ups that all succeed succeed one after the other. -/
theorem mapM_eq_ok_of_forall {α β ε : Type} {f : α → Except ε β} {items : List α}
    (succeed : ∀ item ∈ items, ∃ result, f item = .ok result) :
    ∃ results, items.mapM f = .ok results := by
  induction items with
  | nil => exact ⟨[], rfl⟩
  | cons item items ih =>
      rcases succeed item List.mem_cons_self with ⟨result, head⟩
      rcases ih fun other mem => succeed other (List.mem_cons_of_mem item mem) with
        ⟨results, tail⟩
      exact ⟨result :: results, mapM_eq_ok_iff.mpr (.cons head (mapM_eq_ok_iff.mp tail))⟩

end ClassFormat
