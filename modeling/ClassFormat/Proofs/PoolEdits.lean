import ClassFormat.Proofs.HandleStability

/-!
# Editing the constants as a list

The constants of a pool are a list, and the index of a constant is one more than the slots of the
constants in front of it.  In this view appending a constant is appending to the list, and replacing
one is replacing an element of the list; both refuse what would move another constant or would not
fit the count.

So no operation ever moves a constant: over every run of operations an index that led to a constant
leads to one of the same width, and it leads to another constant only if an operation of the run
says so (`Document.Touches`).
-/

namespace ClassFormat

theorem Entry.width_eq_width_iff {first second : Entry} :
    first.width = second.width ↔ first.isWide = second.isWide := by
  unfold width
  cases first.isWide <;> cases second.isWide <;> simp

namespace ConstantPool

variable {pool : ConstantPool} {index : UInt16} {entry : Entry}

/-! ## The list of constants -/

theorem positions_slotsOf (constants : List Entry) (start : Nat) :
    (((slotsOf constants).zipIdx start).filterMap fun (slot, position) =>
        slot.entry?.map fun entry => (position, entry)) =
      constants.mapIdx fun position entry =>
        (start + totalWidth (constants.take position), entry) := by
  induction constants generalizing start with
  | nil => rfl
  | cons entry constants ih =>
      have own : ((entry.slots.zipIdx start).filterMap fun (slot, position) =>
          slot.entry?.map fun entry => (position, entry)) = [(start, entry)] := by
        unfold Entry.slots
        split <;> rfl
      rw [slotsOf_cons, List.zipIdx_append, List.filterMap_append, own, Entry.length_slots, ih,
        List.mapIdx_cons]
      simp [Nat.add_assoc]

/-- The constants stand one behind the other. -/
theorem Layout.positions_eq (layout : pool.Layout) :
    pool.positions = pool.constants.mapIdx fun position entry =>
      (1 + totalWidth (pool.constants.take position), entry) := by
  rcases layout_iff.mp layout with ⟨constants, rfl, _⟩
  rw [constants_ofConstants, ← positions_slotsOf]
  rfl

/-- The index leads to the constant at a position of the list of constants. -/
structure LeadsTo (pool : ConstantPool) (index : UInt16) (position : Nat) (entry : Entry) :
    Prop where
  constant : pool.constants[position]? = some entry
  index_eq : index.toNat = 1 + totalWidth (pool.constants.take position)

theorem Layout.get?_eq_some_iff_leadsTo (layout : pool.Layout) :
    pool.get? index = some entry ↔ ∃ position, pool.LeadsTo index position entry := by
  rw [get?_eq_some_iff, slot?, ← mem_positions_iff, layout.positions_eq, List.mem_mapIdx]
  constructor
  · rintro ⟨position, inside, placed⟩
    simp only [Prod.mk.injEq] at placed
    exact ⟨position, List.getElem?_eq_some_iff.mpr ⟨inside, placed.2⟩, placed.1.symm⟩
  · rintro ⟨position, constant, index_eq⟩
    rcases List.getElem?_eq_some_iff.mp constant with ⟨inside, rfl⟩
    exact ⟨position, inside, by rw [index_eq]⟩

/-! ## Appending -/

/-- What appending a constant has to come to: the result, and the pool afterwards. -/
inductive Pushes (pool : ConstantPool) (entry : Entry) :
    Except PoolFull UInt16 → ConstantPool → Prop where
  | appended {grown : ConstantPool} (room : pool.count.toNat + entry.width ≤ 65535)
      (constants_eq : grown.constants = pool.constants ++ [entry]) :
      Pushes pool entry (.ok pool.count) grown
  | full (full : 65535 < pool.count.toNat + entry.width) : Pushes pool entry (.error {}) pool

theorem constants_append (pool : ConstantPool) (entry : Entry) :
    (pool.append entry).constants = pool.constants ++ [entry] := by
  unfold constants append
  split <;> simp [Slot.entry?]

theorem size_append (pool : ConstantPool) (entry : Entry) :
    (pool.append entry).slots.size = pool.slots.size + entry.width := by
  unfold append Entry.width
  split <;> simp

theorem Layout.hasRoom_iff (layout : pool.Layout) :
    pool.hasRoom entry = true ↔ pool.count.toNat + entry.width ≤ 65535 := by
  rw [hasRoom, decide_eq_true_eq, layout.toNat_count]
  exact Nat.lt_succ_iff

theorem push_cases (pool : ConstantPool) (entry : Entry) :
    pool.hasRoom entry = true ∧
        pool.push entry = .ok (pool.count, pool.append entry) ∧
        pool.perform (.push entry 1) =
          (.ok (.pushed (some (.ok pool.count)) (pool.append entry).count), pool.append entry) ∨
      ¬ pool.hasRoom entry = true ∧
        pool.push entry = .error {} ∧
        pool.perform (.push entry 1) = (.ok (.pushed (some (.error {})) pool.count), pool) := by
  by_cases room : pool.hasRoom entry = true
  · exact .inl ⟨room, if_pos room, by simp only [perform, pushTimes, push, if_pos room]⟩
  · exact .inr ⟨room, if_neg room, by simp only [perform, pushTimes, push, if_neg room]⟩

theorem Layout.pushes (layout : pool.Layout) (entry : Entry) :
    ∃ result after, pool.Pushes entry result after ∧
      pool.push entry = result.map (fun index => (index, after)) ∧
      pool.perform (.push entry 1) = (.ok (.pushed (some result) after.count), after) := by
  rcases pool.push_cases entry with ⟨room, pushed, performed⟩ | ⟨noRoom, pushed, performed⟩
  · exact ⟨_, _, .appended (layout.hasRoom_iff.mp room) (pool.constants_append entry), pushed,
      performed⟩
  · have full := Nat.lt_of_not_le (mt layout.hasRoom_iff.mpr noRoom)
    exact ⟨_, _, .full full, pushed, performed⟩

/-- An appended constant has the old count as its index, and no other index is concerned. -/
theorem Layout.get?_append (layout : pool.Layout) (entry : Entry) (index : UInt16) :
    (pool.append entry).get? index =
      if index = pool.count then some entry else pool.get? index := by
  by_cases last : index = pool.count
  · rw [if_pos last, last, get?_append_count layout]
  · have apart : index.toNat ≠ pool.slots.size := by
      rw [← layout.toNat_count]
      exact mt UInt16.toNat_inj.mp last
    rw [if_neg last]
    unfold get? slot? ConstantPool.append
    split
    · rw [Array.getElem?_push, Array.size_push]
      split
      · -- The second slot of a wide constant is reserved, and before there was no such slot.
        rename_i behind
        rw [behind, Array.getElem?_eq_none (Nat.le_succ _)]
        rfl
      · rw [Array.getElem?_push, if_neg apart]
    · rw [Array.getElem?_push, if_neg apart]

/-! ## Replacing -/

/-- What replacing a constant has to come to: the result, and the pool afterwards. -/
inductive Replaces (pool : ConstantPool) (index : UInt16) (entry : Entry) :
    Except ReplaceError Entry → ConstantPool → Prop where
  | missing (nowhere : ∀ position current, ¬ pool.LeadsTo index position current) :
      Replaces pool index entry (.error (.noSuchEntry index)) pool
  | mismatched {position : Nat} {current : Entry} (leads : pool.LeadsTo index position current)
      (width_ne : current.width ≠ entry.width) :
      Replaces pool index entry (.error (.widthMismatch index current.kind entry.kind)) pool
  | replaced {position : Nat} {current : Entry} {changed : ConstantPool}
      (leads : pool.LeadsTo index position current) (width_eq : current.width = entry.width)
      (constants_eq : changed.constants = pool.constants.set position entry) :
      Replaces pool index entry (.ok current) changed

theorem Layout.constants_set (layout : pool.Layout) {position : Nat} {current : Entry}
    (leads : pool.LeadsTo index position current) (width_eq : current.isWide = entry.isWide) :
    (pool.set index entry).constants = pool.constants.set position entry := by
  rcases layout_iff.mp layout with ⟨constants, rfl, _⟩
  rcases leads with ⟨constant, index_eq⟩
  rw [constants_ofConstants] at constant index_eq ⊢
  rcases List.getElem?_eq_some_iff.mp constant with ⟨inside, rfl⟩
  have split : constants =
      constants.take position ++ constants[position] :: constants.drop (position + 1) := by
    rw [← List.drop_eq_getElem_cons, List.take_append_drop]
  have stored : (ofConstants constants).set index entry =
      ofConstants (constants.take position ++ entry :: constants.drop (position + 1)) := by
    conv => lhs; rw [split]
    exact set_ofConstants index_eq width_eq
  rw [stored, constants_ofConstants, List.set_eq_take_append_cons_drop, if_pos inside]

theorem replace_cases (pool : ConstantPool) (index : UInt16) (entry : Entry) :
    (pool.get? index = none ∧
        pool.replace index entry = .error (.noSuchEntry index) ∧
        (pool.perform (.replace index entry)).2 = pool) ∨
      ∃ current, pool.get? index = some current ∧
        (current.isWide = entry.isWide ∧
            pool.replace index entry = .ok (current, pool.set index entry) ∧
            (pool.perform (.replace index entry)).2 = pool.set index entry ∨
          current.isWide ≠ entry.isWide ∧
            pool.replace index entry = .error (.widthMismatch index current.kind entry.kind) ∧
            (pool.perform (.replace index entry)).2 = pool) := by
  cases found : pool.get? index with
  | none =>
      have replaced : pool.replace index entry = .error (.noSuchEntry index) := by
        rw [replace, found]
      exact .inl ⟨rfl, replaced, by rw [perform, replaced]⟩
  | some current =>
      refine .inr ⟨current, rfl, ?_⟩
      by_cases width_eq : current.isWide = entry.isWide
      · have replaced : pool.replace index entry = .ok (current, pool.set index entry) := by
          rw [replace, found]
          exact if_pos width_eq
        exact .inl ⟨width_eq, replaced, by rw [perform, replaced]⟩
      · have replaced : pool.replace index entry =
            .error (.widthMismatch index current.kind entry.kind) := by
          rw [replace, found]
          exact if_neg width_eq
        exact .inr ⟨width_eq, replaced, by rw [perform, replaced]⟩

theorem Layout.replaces (layout : pool.Layout) (index : UInt16) (entry : Entry) :
    ∃ result after, pool.Replaces index entry result after ∧
      pool.replace index entry = result.map (fun old => (old, after)) ∧
      (pool.perform (.replace index entry)).2 = after := by
  rcases pool.replace_cases index entry with ⟨missing, replaced, performed⟩ |
    ⟨current, found, possible⟩
  · refine ⟨_, _, .missing fun position current leads => ?_, replaced, performed⟩
    rw [layout.get?_eq_some_iff_leadsTo.mpr ⟨position, leads⟩] at missing
    cases missing
  · rcases layout.get?_eq_some_iff_leadsTo.mp found with ⟨position, leads⟩
    rcases possible with ⟨width_eq, replaced, performed⟩ | ⟨width_ne, replaced, performed⟩
    · exact ⟨.ok current, _, .replaced leads (Entry.width_eq_width_iff.mpr width_eq)
        (layout.constants_set leads width_eq), replaced, performed⟩
    · exact ⟨_, _, .mismatched leads (mt Entry.width_eq_width_iff.mp width_ne), replaced,
        performed⟩

end ConstantPool

/-! ## Operations -/

/-- An operation on an open class file that may concern its constants. -/
inductive PoolOperation where
  | push (entry : Entry)
  | replace (index : UInt16) (entry : Entry)
  | edit (edit : Edit)

/-- The index of the constant that an operation is to change. -/
def PoolOperation.target? : PoolOperation → Option UInt16
  | .replace index _ => some index
  | .edit (.setUtf8 handle _) => some handle.index
  | _ => none

namespace Document

/-- Perform an operation. -/
def operate (document : Document) : PoolOperation → Document
  | .push entry => { document with file.pool := (document.file.pool.perform (.push entry 1)).2 }
  | .replace index entry =>
      { document with file.pool := (document.file.pool.perform (.replace index entry)).2 }
  | .edit edit => (document.perform edit).document

/-- Perform operations one after the other.  Operations that fail are passed over. -/
def operateAll (document : Document) (operations : List PoolOperation) : Document :=
  operations.foldl operate document

/-- The operation is to change the constant at the index, or it appends one that gets the index. -/
def Touches (document : Document) (operation : PoolOperation) (index : UInt16) : Prop :=
  operation.target? = some index ∨
    index = document.file.pool.count ∧
      document.file.pool.count < (document.operate operation).file.pool.count

end Document

/-- Everything that an operation can do to the constants. -/
inductive PoolOperation.Step (operation : PoolOperation) (pool : ConstantPool) :
    ConstantPool → Prop where
  | unchanged : Step operation pool pool
  | appended {entry : Entry} (room : pool.hasRoom entry = true) :
      Step operation pool (pool.append entry)
  | stored {index : UInt16} {current entry : Entry} (targets : operation.target? = some index)
      (found : pool.get? index = some current) (width_eq : current.isWide = entry.isWide) :
      Step operation pool (pool.set index entry)

/-- An edit that alters a string is to change the constant at its index. -/
theorem PoolOperation.target?_of_alters {edit : Edit} {index : UInt16} {string : ModifiedUtf8}
    (alters : edit.alteration? = some (.utf8 index string)) :
    (PoolOperation.edit edit).target? = some index := by
  cases edit with
  | setUtf8 =>
      cases alters
      rfl
  | _ => cases alters

namespace Document

/-- An operation takes one step. -/
theorem operate_step (document : Document) (operation : PoolOperation) :
    operation.Step document.file.pool (document.operate operation).file.pool := by
  cases operation with
  | push entry =>
      rw [operate]
      rcases document.file.pool.push_cases entry with ⟨room, _, performed⟩ | ⟨_, _, performed⟩
      · rw [performed]
        exact .appended room
      · rw [performed]
        exact .unchanged
  | replace index entry =>
      rw [operate]
      rcases document.file.pool.replace_cases index entry with ⟨_, _, performed⟩ |
        ⟨current, found, ⟨width_eq, _, performed⟩ | ⟨_, _, performed⟩⟩
      · rw [performed]
        exact .unchanged
      · rw [performed]
        exact .stored rfl found width_eq
      · rw [performed]
        exact .unchanged
  | edit edit =>
      have outcome := document.perform_outcome edit
      rw [operate]
      generalize document.perform edit = edited at outcome ⊢
      cases outcome with
      | refused | found | full => exact .unchanged
      | appended _ _ _ room => exact .appended room
      | @altered alteration passed alters =>
          cases alteration with
          | word place change =>
              rw [ClassFile.alter, ClassFile.pool_modifyWord]
              exact .unchanged
          | interfaces indices => exact .unchanged
          | utf8 index string =>
              rcases has_of_admits alters (firstFailure?_eq_none_iff.mp passed) with ⟨old, found⟩
              exact .stored (PoolOperation.target?_of_alters alters) found rfl

end Document

namespace PoolOperation.Step

variable {operation : PoolOperation} {before after : ConstantPool} {index : UInt16} {entry : Entry}

theorem layout (step : operation.Step before after) (layout : before.Layout) : after.Layout := by
  cases step with
  | unchanged => exact layout
  | appended room => exact layout.append room
  | stored _ found width_eq => exact layout.set found width_eq

/-- Where there was a constant there is one of the same width. -/
theorem get?_of_eq_some (step : operation.Step before after)
    (found : before.get? index = some entry) :
    ∃ current, after.get? index = some current ∧ current.width = entry.width := by
  cases step with
  | unchanged => exact ⟨entry, found, rfl⟩
  | appended _ => exact ⟨entry, ConstantPool.get?_append_of_eq_some found, rfl⟩
  | @stored target current replacement _ foundTarget width_eq =>
      rw [ConstantPool.get?_set foundTarget]
      by_cases same : index = target
      · subst same
        rw [found] at foundTarget
        cases foundTarget
        exact ⟨replacement, if_pos rfl, Entry.width_eq_width_iff.mpr width_eq.symm⟩
      · exact ⟨entry, (if_neg same).trans found, rfl⟩

/-- Only the constant that the operation is to change or appends is another one afterwards. -/
theorem concerns (step : operation.Step before after) (layout : before.Layout)
    (changed : after.get? index ≠ before.get? index) :
    operation.target? = some index ∨ index = before.count ∧ before.count < after.count := by
  cases step with
  | unchanged => exact absurd rfl changed
  | @appended added room =>
      rw [layout.get?_append] at changed
      have last : index = before.count := by
        by_contra other
        exact changed (if_neg other)
      refine .inr ⟨last, UInt16.lt_iff_toNat_lt.mpr ?_⟩
      rw [layout.toNat_count, (layout.append room).toNat_count, ConstantPool.size_append]
      have positive := added.width_eq_one_or_two
      omega
  | @stored target _ _ targets found _ =>
      rw [ConstantPool.get?_set found] at changed
      have same : index = target := by
        by_contra other
        exact changed (if_neg other)
      exact .inl (same ▸ targets)

end PoolOperation.Step

/-! ## Runs of operations -/

namespace Document

variable {document : Document} {index : UInt16}

theorem operateAll_append (document : Document) (earlier later : List PoolOperation) :
    document.operateAll (earlier ++ later) = (document.operateAll earlier).operateAll later :=
  List.foldl_append

theorem layout_operateAll (layout : document.file.pool.Layout) (operations : List PoolOperation) :
    (document.operateAll operations).file.pool.Layout := by
  induction operations generalizing document with
  | nil => exact layout
  | cons operation operations ih => exact ih ((document.operate_step operation).layout layout)

theorem get?_operateAll_of_eq_some {entry : Entry} (operations : List PoolOperation)
    (found : document.file.pool.get? index = some entry) :
    ∃ current, (document.operateAll operations).file.pool.get? index = some current ∧
      current.width = entry.width := by
  induction operations generalizing document entry with
  | nil => exact ⟨entry, found, rfl⟩
  | cons operation operations ih =>
      rcases (document.operate_step operation).get?_of_eq_some found with ⟨next, foundNext, width⟩
      rcases ih foundNext with ⟨current, foundCurrent, width'⟩
      exact ⟨current, foundCurrent, width'.trans width⟩

/-- An index leads to another constant after a run only if an operation of the run touches it. -/
theorem exists_touches (layout : document.file.pool.Layout) (operations : List PoolOperation)
    (changed : (document.operateAll operations).file.pool.get? index ≠
      document.file.pool.get? index) :
    ∃ front operation back, operations = front ++ operation :: back ∧
      (document.operateAll front).Touches operation index := by
  -- The operation to look for is the first one after which the index leads elsewhere.
  induction operations generalizing document with
  | nil => exact absurd rfl changed
  | cons operation operations ih =>
      have step := document.operate_step operation
      by_cases kept : (document.operate operation).file.pool.get? index =
          document.file.pool.get? index
      · rw [← kept] at changed
        rcases ih (step.layout layout) changed with ⟨front, later, back, rfl, touches⟩
        exact ⟨operation :: front, later, back, rfl, touches⟩
      · exact ⟨[], operation, operations, rfl, step.concerns layout kept⟩

end Document

namespace ConstantPool

/-- A reachable pool is the list of its constants, each at the index behind the ones in front of it.
Appending appends to the list and replacing replaces one element of it, or they fail and change
nothing.  Over every run of operations, an index that once led to a constant leads to one of the
same width ever after, and to another one only if an operation touches it. -/
theorem Reachable.edits_are_list_edits {pool : ConstantPool} (reachable : pool.Reachable) :
    pool.entries.map (fun (index, entry) => (index.toNat, entry)) =
        pool.constants.mapIdx (fun position entry =>
          (1 + totalWidth (pool.constants.take position), entry)) ∧
      (∀ index entry, pool.get? index = some entry ↔
        ∃ position, pool.LeadsTo index position entry) ∧
      (∀ entry, ∃ result after, pool.Pushes entry result after ∧
        pool.push entry = result.map (fun index => (index, after)) ∧
        pool.perform (.push entry 1) = (.ok (.pushed (some result) after.count), after)) ∧
      (∀ index entry, ∃ result after, pool.Replaces index entry result after ∧
        pool.replace index entry = result.map (fun old => (old, after)) ∧
        (pool.perform (.replace index entry)).2 = after) ∧
      ∀ document : Document, document.file.pool = pool → ∀ earlier later : List PoolOperation,
        let once := document.operateAll earlier
        let after := document.operateAll (earlier ++ later)
        (∀ index entry, once.file.pool.get? index = some entry →
          ∃ current, after.file.pool.get? index = some current ∧ current.width = entry.width) ∧
        ∀ index, after.file.pool.get? index ≠ once.file.pool.get? index →
          ∃ front operation back, later = front ++ operation :: back ∧
            (once.operateAll front).Touches operation index := by
  have layout := reachable.layout
  refine ⟨layout.entries_toNat.trans layout.positions_eq,
    fun _ _ => layout.get?_eq_some_iff_leadsTo, layout.pushes, layout.replaces, ?_⟩
  rintro document rfl earlier later
  rw [Document.operateAll_append]
  exact ⟨fun _ _ found => Document.get?_operateAll_of_eq_some later found,
    fun _ changed => Document.exists_touches (Document.layout_operateAll layout earlier) later
      changed⟩

/-- Operations of every sort on the class file `Document.sampleFile`.  One is refused. -/
def sampleOperations : List PoolOperation :=
  [.replace 1 (.classRef 3), .push (.long 6), .edit (.addUtf8 "C"), .edit (.addClass ⟨⟨0⟩, 7⟩),
    .edit (.setUtf8 ⟨⟨0⟩, 7⟩ "B")]

theorem edits_are_list_edits_sample :
    Document.sampleFile.pool.Reachable ∧
      ((Document.mk ⟨0⟩ Document.sampleFile).operateAll
        ([.replace 1 (.double 7)] ++ sampleOperations)).file.pool.constants =
          [.double 7, .utf8 ⟨[0x41]⟩, .classRef 3, .long 6, .utf8 ⟨[0x42]⟩, .classRef 7] ∧
      ∃ current,
        ((Document.mk ⟨0⟩ Document.sampleFile).operateAll
          ([.replace 1 (.double 7)] ++ sampleOperations)).file.pool.get? 1 = some current ∧
        current.width = (Entry.double 7).width := by
  have decoded : decoder 5 [5, 0, 0, 0, 0, 0, 0, 0, 7, 1, 0, 1, 0x41, 7, 0, 3] =
      .ok Document.sampleFile.pool [] := rfl
  have found : ((Document.mk ⟨0⟩ Document.sampleFile).operateAll
      [.replace 1 (.double 7)]).file.pool.get? 1 = some (.double 7) := by decide +kernel
  have runs := (Reachable.read decoded).edits_are_list_edits.2.2.2.2
  exact ⟨.read decoded, by decide +kernel,
    (runs ⟨⟨0⟩, Document.sampleFile⟩ rfl _ sampleOperations).1 1 (.double 7) found⟩

end ConstantPool

end ClassFormat
