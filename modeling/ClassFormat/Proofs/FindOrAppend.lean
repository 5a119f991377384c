import ClassFormat.Proofs.ModifiedText
import ClassFormat.Proofs.PoolEdits
import Mathlib.Order.Bounds.Basic

/-!
# Adding constants that may be there already

A string or a class is added by looking for it first and appending it only if there is none.  The
handle that is given is always that of the first constant of its sort.  Since appending never moves
a constant and always appends behind all of them, the first one stays the first: the same call gives
the same handle ever after, and does nothing else, until a string is rewritten.
-/

namespace ClassFormat

namespace ConstantPool

variable {pool : ConstantPool} {entry other : Entry} {index : UInt16}

/-- The indices at which a pool has a constant. -/
def indicesOf (pool : ConstantPool) (entry : Entry) : Set UInt16 :=
  {index | pool.get? index = some entry}

theorem mem_indicesOf : index ∈ pool.indicesOf entry ↔ pool.get? index = some entry :=
  Iff.rfl

/-! ## The first constant of its sort -/

section Layout

variable (layout : pool.Layout)
include layout

/-- Looking for a constant gives the least of its indices. -/
theorem Layout.isLeast_of_indexOf? (found : pool.indexOf? entry = some index) :
    IsLeast (pool.indicesOf entry) index := by
  refine ⟨get?_of_indexOf? layout found, fun candidate isCandidate => ?_⟩
  rcases Option.map_eq_some_iff.mp found with ⟨⟨_, first⟩, first_eq, rfl⟩
  rcases List.find?_eq_some_iff_append.mp first_eq with ⟨_, earlier, later, split, passed⟩
  have mem : (candidate, entry) ∈ pool.entries := layout.mem_entries_iff.mpr isCandidate
  have increasing := layout.entries_pairwise
  rw [split] at mem increasing
  rcases List.mem_append.mp mem with before | behind
  · -- Everything in front of the one that was found is another constant.
    simpa using passed _ before
  · rcases List.mem_cons.mp behind with same | behind
    · rw [← same]
      exact UInt16.le_refl _
    · have ordered := (List.pairwise_append.mp increasing).2.1
      exact UInt16.le_of_lt ((List.pairwise_cons.mp ordered).1 _ behind)

theorem Layout.indexOf?_eq_none_iff :
    pool.indexOf? entry = none ↔ pool.indicesOf entry = ∅ := by
  rw [indexOf?, Option.map_eq_none_iff, List.find?_eq_none, Set.eq_empty_iff_forall_notMem]
  constructor
  · intro absent index found
    simpa using absent (index, entry) (layout.mem_entries_iff.mpr found)
  · rintro absent ⟨index, candidate⟩ mem
    rw [beq_iff_eq]
    rintro rfl
    exact absent index (layout.mem_entries_iff.mp mem)

theorem Layout.indexOf?_eq_some_iff :
    pool.indexOf? entry = some index ↔ IsLeast (pool.indicesOf entry) index := by
  refine ⟨layout.isLeast_of_indexOf?, fun least => ?_⟩
  cases found : pool.indexOf? entry with
  | none =>
      have absent := layout.indexOf?_eq_none_iff.mp found
      exact absurd least.1 (Set.eq_empty_iff_forall_notMem.mp absent index)
  | some actual =>
      have isLeast := layout.isLeast_of_indexOf? found
      rw [UInt16.le_antisymm (isLeast.2 least.1) (least.2 isLeast.1)]

/-! ## Appending -/

theorem Layout.hasRoom_narrow_iff (narrow : entry.isWide = false) :
    pool.hasRoom entry = true ↔ pool.count ≠ 65535 := by
  have width_eq : entry.width = 1 := by simp [Entry.width, narrow]
  have bound : pool.count.toNat < 65536 := pool.count.toNat_lt
  have full_iff : pool.count = 65535 ↔ pool.count.toNat = 65535 := UInt16.toNat_inj.symm
  rw [layout.hasRoom_iff, width_eq, ne_eq, full_iff]
  omega

/-- An appended constant that was not there is the first of its sort. -/
theorem Layout.isLeast_append_count (absent : pool.indicesOf entry = ∅) :
    IsLeast ((pool.append entry).indicesOf entry) pool.count := by
  refine ⟨get?_append_count layout entry, fun candidate isCandidate => ?_⟩
  rw [mem_indicesOf, layout.get?_append] at isCandidate
  split at isCandidate
  · rename_i last
    exact last ▸ UInt16.le_refl _
  · exact absurd isCandidate (Set.eq_empty_iff_forall_notMem.mp absent candidate)

/-- Whatever is appended, the first constant of its sort stays the first. -/
theorem Layout.isLeast_append (least : IsLeast (pool.indicesOf entry) index) :
    IsLeast ((pool.append other).indicesOf entry) index := by
  refine ⟨get?_append_of_eq_some least.1, fun candidate isCandidate => ?_⟩
  rw [mem_indicesOf, layout.get?_append] at isCandidate
  split at isCandidate
  · rename_i last
    have inside := (Array.getElem?_eq_some_iff.mp (get?_eq_some_iff.mp least.1)).1
    rw [last, UInt16.le_iff_toNat_le, layout.toNat_count]
    exact Nat.le_of_lt inside
  · exact least.2 isCandidate

end Layout

end ConstantPool

namespace PoolOperation.Step

variable {operation : PoolOperation} {before after : ConstantPool} {entry : Entry} {index : UInt16}

/-- An operation that is to change no constant leaves or appends to the constants. -/
theorem eq_or_append (step : operation.Step before after) (noTarget : operation.target? = none) :
    after = before ∨ ∃ added, after = before.append added := by
  cases step with
  | unchanged => exact .inl rfl
  | @appended added _ => exact .inr ⟨added, rfl⟩
  | stored targets _ _ =>
      rw [noTarget] at targets
      cases targets

theorem get?_of_noTarget (step : operation.Step before after)
    (noTarget : operation.target? = none) (found : before.get? index = some entry) :
    after.get? index = some entry := by
  rcases step.eq_or_append noTarget with rfl | ⟨added, rfl⟩
  · exact found
  · exact ConstantPool.get?_append_of_eq_some found

/-- The first constant of every sort stays the first. -/
theorem isLeast (step : operation.Step before after) (noTarget : operation.target? = none)
    (layout : before.Layout) (least : IsLeast (before.indicesOf entry) index) :
    IsLeast (after.indicesOf entry) index := by
  rcases step.eq_or_append noTarget with rfl | ⟨added, rfl⟩
  · exact least
  · exact layout.isLeast_append least

end PoolOperation.Step

theorem Edit.target?_of_mayAdd {edit : Edit} (mayAdd : edit.mayAdd = true) :
    (PoolOperation.edit edit).target? = none := by
  cases edit with
  | addUtf8 | addClass => rfl
  | _ => cases mayAdd

namespace Document

variable {document : Document}

/-! ## Runs of edits -/

/-- Edits keep the identity of a document, the layout of its constants and what handles need. -/
theorem performAll_retains (layout : document.file.pool.Layout) (edits : List Edit) :
    (document.performAll edits).identity = document.identity ∧
      (document.performAll edits).file.pool.Layout ∧
      document.file.Retains (document.performAll edits).file := by
  induction edits generalizing document with
  | nil => exact ⟨rfl, layout, .refl document.file⟩
  | cons edit edits ih =>
      rcases document.perform_retains edit with ⟨identity_eq, retains⟩
      rcases ih (layout_perform edit layout) with ⟨later_eq, laterLayout, laterRetains⟩
      exact ⟨later_eq.trans identity_eq, laterLayout, retains.trans laterRetains⟩

/-- Edits that add constants leave the first constant of every sort the first. -/
theorem isLeast_performAll {entry : Entry} {index : UInt16} {edits : List Edit}
    (add : ∀ edit ∈ edits, edit.mayAdd = true) (layout : document.file.pool.Layout)
    (least : IsLeast (document.file.pool.indicesOf entry) index) :
    IsLeast ((document.performAll edits).file.pool.indicesOf entry) index := by
  induction edits generalizing document with
  | nil => exact least
  | cons edit edits ih =>
      rcases List.forall_mem_cons.mp add with ⟨adds, add⟩
      have step := document.operate_step (.edit edit)
      exact ih add (step.layout layout)
        (step.isLeast (Edit.target?_of_mayAdd adds) layout least)

/-! ## Finding or appending -/

/-- What it comes to when a constant is looked for and appended if there is none. -/
structure FindsOrAppends {α : Type} (document : Document) (entry : Entry) (handle : UInt16 → α)
    (edited : Edited α) : Prop where
  /-- The handle that is given is that of the first constant of its sort. -/
  least : ∀ given, edited.result = .ok given →
    ∃ index, given = handle index ∧ IsLeast (edited.document.file.pool.indicesOf entry) index
  /-- If the constant is there, it is found and nothing changes. -/
  found : (document.file.pool.indicesOf entry).Nonempty →
    (∃ given, edited.result = .ok given) ∧ edited.document = document
  /-- If it is not there, it is appended at the old count and nothing else changes. -/
  appended : document.file.pool.indicesOf entry = ∅ → document.file.pool.count ≠ 65535 →
    edited.result = .ok (handle document.file.pool.count) ∧
      edited.document =
        { document with file.pool := ⟨document.file.pool.slots.push (.filled entry)⟩ }
  full_iff : edited.result = .error (.poolFull {}) ↔
    document.file.pool.indicesOf entry = ∅ ∧ document.file.pool.count = 65535
  /-- The only error is that there is no room, and it leaves the document as it is. -/
  refused : ∀ refusal, edited.result = .error refusal →
    refusal = .poolFull {} ∧ edited.document = document

/-- A constant that is there is found. -/
theorem findOrPush_of_isLeast (layout : document.file.pool.Layout) {entry : Entry}
    {index : UInt16} (least : IsLeast (document.file.pool.indicesOf entry) index)
    (added : UInt16 → Event) :
    document.findOrPush (document.file.pool.indexOf? entry) entry added =
      ⟨.ok index, document, []⟩ := by
  rw [layout.indexOf?_eq_some_iff.mpr least]
  rfl

theorem findOrPush_findsOrAppends {α : Type} (layout : document.file.pool.Layout) {entry : Entry}
    (narrow : entry.isWide = false) (added : UInt16 → Event) (handle : UInt16 → α) :
    document.FindsOrAppends entry handle
      ((document.findOrPush (document.file.pool.indexOf? entry) entry added).map handle) := by
  have room_iff := layout.hasRoom_narrow_iff narrow
  rcases document.findOrPush_cases (document.file.pool.indexOf? entry) entry added with
    ⟨index, found, pushed⟩ | ⟨notFound, ⟨room, pushed⟩ | ⟨noRoom, pushed⟩⟩
  · have least := layout.isLeast_of_indexOf? found
    have present : document.file.pool.indicesOf entry ≠ ∅ :=
      Set.nonempty_iff_ne_empty.mp ⟨index, least.1⟩
    rw [pushed]
    constructor
    · rintro _ ⟨⟩
      exact ⟨index, rfl, least⟩
    · exact fun _ => ⟨⟨_, rfl⟩, rfl⟩
    · exact fun absent => absurd absent present
    · constructor
      · rintro ⟨⟩
      · exact fun isFull => absurd isFull.1 present
    · rintro _ ⟨⟩
  · have absent := layout.indexOf?_eq_none_iff.mp notFound
    have appended : document.file.pool.append entry =
        ⟨document.file.pool.slots.push (.filled entry)⟩ := by
      simp [ConstantPool.append, narrow]
    rw [pushed]
    constructor
    · rintro _ ⟨⟩
      exact ⟨_, rfl, layout.isLeast_append_count absent⟩
    · exact fun present => absurd absent (Set.nonempty_iff_ne_empty.mp present)
    · exact fun _ _ => ⟨rfl, by rw [← appended]; rfl⟩
    · constructor
      · rintro ⟨⟩
      · exact fun isFull => absurd isFull.2 (room_iff.mp room)
    · rintro _ ⟨⟩
  · have absent := layout.indexOf?_eq_none_iff.mp notFound
    have full : document.file.pool.count = 65535 := by
      by_contra notFull
      rw [room_iff.mpr notFull] at noRoom
      cases noRoom
    rw [pushed]
    constructor
    · rintro _ ⟨⟩
    · exact fun present => absurd absent (Set.nonempty_iff_ne_empty.mp present)
    · exact fun _ notFull => absurd full notFull
    · exact ⟨fun _ => ⟨absent, full⟩, fun _ => rfl⟩
    · rintro _ ⟨⟩
      exact ⟨rfl, rfl⟩

theorem addUtf8_findsOrAppends (layout : document.file.pool.Layout) (text : String) :
    document.FindsOrAppends (.utf8 (.ofString text)) (Utf8Handle.mk document.identity)
      (document.addUtf8 text) := by
  rw [addUtf8_eq]
  exact findOrPush_findsOrAppends layout rfl _ _

theorem addClass_findsOrAppends (layout : document.file.pool.Layout) {name : Utf8Handle}
    (admitted : document.admits (.utf8 name) = true) :
    document.FindsOrAppends (.classRef name.index) (ClassHandle.mk document.identity)
      (document.addClass name) := by
  rw [addClass_of_checked (checkUtf8_of_admits admitted)]
  exact findOrPush_findsOrAppends layout rfl _ _

/-! ## The same call again -/

theorem addUtf8_of_isLeast (layout : document.file.pool.Layout) {text : String} {index : UInt16}
    (least : IsLeast (document.file.pool.indicesOf (.utf8 (.ofString text))) index) :
    document.addUtf8 text = ⟨.ok ⟨document.identity, index⟩, document, []⟩ := by
  rw [addUtf8_eq, ConstantPool.findUtf8?, findOrPush_of_isLeast layout least]
  rfl

theorem addClass_of_isLeast (layout : document.file.pool.Layout) {name : Utf8Handle}
    {index : UInt16} (admitted : document.admits (.utf8 name) = true)
    (least : IsLeast (document.file.pool.indicesOf (.classRef name.index)) index) :
    document.addClass name = ⟨.ok ⟨document.identity, index⟩, document, []⟩ := by
  rw [addClass_of_checked (checkUtf8_of_admits admitted), ConstantPool.findClass?,
    findOrPush_of_isLeast layout least]
  rfl

theorem map_result_eq_ok_iff {α β : Type} {edited : Edited α} {f : α → β} {value : β} :
    (edited.map f).result = .ok value ↔ ∃ given, edited.result = .ok given ∧ f given = value := by
  unfold Edited.map
  cases edited.result with
  | error refusal => simp [Except.map]
  | ok given => simp [Except.map]

/-- A call that has added a constant or found it gives the same handle after any further additions,
and then changes nothing. -/
theorem perform_again (layout : document.file.pool.Layout) {edit : Edit}
    (mayAdd : edit.mayAdd = true) {answer : EditAnswer}
    (given : (document.perform edit).result = .ok answer) {further : List Edit}
    (add : ∀ later ∈ further, later.mayAdd = true) :
    let after := (document.perform edit).document.performAll further
    (after.perform edit).result = .ok answer ∧ (after.perform edit).document = after := by
  intro after
  have admitted := admits_of_perform_eq_ok given
  have firstLayout := layout_perform edit layout
  rcases document.perform_retains edit with ⟨first_eq, firstRetains⟩
  rcases performAll_retains firstLayout further with ⟨after_eq, afterLayout, afterRetains⟩
  have identity_eq : after.identity = document.identity := after_eq.trans first_eq
  cases edit with
  | addUtf8 text =>
      rcases map_result_eq_ok_iff.mp given with ⟨_, made, rfl⟩
      rcases (addUtf8_findsOrAppends layout text).least _ made with ⟨index, rfl, least⟩
      have again : after.addUtf8 text = ⟨.ok ⟨after.identity, index⟩, after, []⟩ :=
        addUtf8_of_isLeast afterLayout (isLeast_performAll add firstLayout least)
      rw [perform, again, identity_eq]
      exact ⟨rfl, rfl⟩
  | addClass name =>
      have nameAdmitted : document.admits (.utf8 name) = true := admitted _ List.mem_cons_self
      rcases map_result_eq_ok_iff.mp given with ⟨_, made, rfl⟩
      rcases (addClass_findsOrAppends layout nameAdmitted).least _ made with ⟨index, rfl, least⟩
      have again : after.addClass name = ⟨.ok ⟨after.identity, index⟩, after, []⟩ :=
        addClass_of_isLeast afterLayout
          (admits_of_retains identity_eq (firstRetains.trans afterRetains) nameAdmitted)
          (isLeast_performAll add firstLayout least)
      rw [perform, again, identity_eq]
      exact ⟨rfl, rfl⟩
  | _ => cases mayAdd

/-! ## Texts -/

/-- The text of the string that a handle leads to. -/
def textOf (document : Document) (handle : Utf8Handle) : Except Misuse String :=
  (document.utf8Index handle).bind document.file.pool.text

/-- The name of the class that a handle leads to. -/
def nameOf (document : Document) (handle : ClassHandle) : Except Misuse String :=
  (document.classIndex handle).bind document.file.pool.className

theorem textOf_of_get? {handle : Utf8Handle} {string : ModifiedUtf8}
    (owner_eq : handle.owner = document.identity)
    (found : document.file.pool.get? handle.index = some (.utf8 string)) :
    document.textOf handle = .ok string.text := by
  rw [textOf, utf8Index, checkOwner_eq_ok_iff.mpr owner_eq]
  change document.file.pool.text handle.index = _
  rw [ConstantPool.text, ConstantPool.utf8_eq_ok_iff.mpr found]
  rfl

theorem nameOf_of_get? {handle : ClassHandle} {name : Utf8Handle}
    (owner_eq : handle.owner = document.identity) (name_eq : name.owner = document.identity)
    (found : document.file.pool.get? handle.index = some (.classRef name.index)) :
    document.nameOf handle = document.textOf name := by
  rw [nameOf, classIndex, checkOwner_eq_ok_iff.mpr owner_eq, textOf, utf8Index,
    checkOwner_eq_ok_iff.mpr name_eq]
  change document.file.pool.className handle.index = document.file.pool.text name.index
  rw [ConstantPool.className, ConstantPool.classNameIndex_eq_ok_iff.mpr found]
  rfl

/-- A string that was added reads as the text it was added for. -/
theorem textOf_addUtf8 (layout : document.file.pool.Layout) {text : String} {handle : Utf8Handle}
    (given : (document.addUtf8 text).result = .ok handle) :
    (document.addUtf8 text).document.textOf handle = .ok text := by
  rcases (addUtf8_findsOrAppends layout text).least _ given with ⟨index, rfl, least⟩
  have identity_eq : (document.addUtf8 text).document.identity = document.identity :=
    (document.perform_retains (.addUtf8 text)).1
  have found := ConstantPool.mem_indicesOf.mp least.1
  rw [textOf_of_get? identity_eq.symm found, ModifiedUtf8.text_ofString]

/-- A class that was added has the text of its name as its name. -/
theorem nameOf_addClass (layout : document.file.pool.Layout) {name : Utf8Handle}
    (admitted : document.admits (.utf8 name) = true) {handle : ClassHandle}
    (given : (document.addClass name).result = .ok handle) :
    ∃ text, document.textOf name = .ok text ∧
      (document.addClass name).document.textOf name = .ok text ∧
      (document.addClass name).document.nameOf handle = .ok text := by
  rcases (addClass_findsOrAppends layout admitted).least _ given with ⟨index, rfl, least⟩
  have identity_eq : (document.addClass name).document.identity = document.identity :=
    (document.perform_retains (.addClass name)).1
  rcases admits_iff.mp admitted with ⟨owner_eq, isUtf8⟩
  rcases ConstantPool.isUtf8_iff.mp isUtf8 with ⟨string, found⟩
  have kept : (document.addClass name).document.file.pool.get? name.index = some (.utf8 string) :=
    (document.operate_step (.edit (.addClass name))).get?_of_noTarget rfl found
  have added := ConstantPool.mem_indicesOf.mp least.1
  have stillOwned := owner_eq.trans identity_eq.symm
  have read := textOf_of_get? stillOwned kept
  refine ⟨string.text, textOf_of_get? owner_eq found, read, ?_⟩
  rw [nameOf_of_get? identity_eq.symm stillOwned added]
  exact read

/-- Adding a string, or a class by a name that the document admits, finds the first such constant or
appends one, and fails only if there is none and the pool is full.  Once it has succeeded, the same
call gives the same handle and changes nothing, also after further additions that may fail.  A
string that was added reads as its text, and a class as the text of its name. -/
theorem add_finds_or_appends (document : Document) (layout : document.file.pool.Layout) :
    (∀ text, document.FindsOrAppends (.utf8 (.ofString text)) (Utf8Handle.mk document.identity)
        (document.addUtf8 text)) ∧
      (∀ name, document.admits (.utf8 name) = true →
        document.FindsOrAppends (.classRef name.index) (ClassHandle.mk document.identity)
          (document.addClass name)) ∧
      (∀ edit : Edit, edit.mayAdd = true → ∀ answer,
        (document.perform edit).result = .ok answer →
        ∀ further : List Edit, (∀ later ∈ further, later.mayAdd = true) →
          let after := (document.perform edit).document.performAll further
          (after.perform edit).result = .ok answer ∧ (after.perform edit).document = after) ∧
      (∀ text handle, (document.addUtf8 text).result = .ok handle →
        (document.addUtf8 text).document.textOf handle = .ok text) ∧
      ∀ name, document.admits (.utf8 name) = true → ∀ handle,
        (document.addClass name).result = .ok handle →
        ∃ text, document.textOf name = .ok text ∧
          (document.addClass name).document.textOf name = .ok text ∧
          (document.addClass name).document.nameOf handle = .ok text :=
  ⟨addUtf8_findsOrAppends layout, fun _ => addClass_findsOrAppends layout,
    fun _ mayAdd _ given _ => perform_again layout mayAdd given,
    fun _ _ => textOf_addUtf8 layout, fun _ admitted _ => nameOf_addClass layout admitted⟩

/-- A string is there already, another one is appended, and a class of that name is appended twice
as one.  In between a handle of another document is refused. -/
theorem add_finds_or_appends_sample :
    let document : Document := ⟨⟨0⟩, sampleFile⟩
    let grown := (document.addUtf8 "B").document
    let further : List Edit := [.addClass ⟨⟨0⟩, 5⟩, .addClass ⟨⟨1⟩, 5⟩, .addUtf8 "C"]
    sampleFile.pool.Layout ∧
      (document.addUtf8 "A").document = document ∧
      (document.addUtf8 "B").result = .ok ⟨⟨0⟩, 5⟩ ∧ grown.textOf ⟨⟨0⟩, 5⟩ = .ok "B" ∧
      (grown.addClass ⟨⟨0⟩, 5⟩).result = .ok ⟨⟨0⟩, 6⟩ ∧
      (grown.addClass ⟨⟨0⟩, 5⟩).document.nameOf ⟨⟨0⟩, 6⟩ = .ok "B" ∧
      (grown.performAll further).file.pool.entryCount = 6 ∧
      ((grown.performAll further).perform (.addUtf8 "B")).document = grown.performAll further := by
  intro document grown further
  have opened : (parse ⟨0⟩ .reject sampleBytes).result = .ok document := rfl
  have layout : document.file.pool.Layout := layout_of_parse opened
  have grownLayout : grown.file.pool.Layout := layout_perform (.addUtf8 "B") layout
  have adds := document.add_finds_or_appends layout
  have given : (document.addUtf8 "B").result = .ok ⟨⟨0⟩, 5⟩ := rfl
  have classGiven : (grown.addClass ⟨⟨0⟩, 5⟩).result = .ok ⟨⟨0⟩, 6⟩ := rfl
  have text_eq := adds.2.2.2.1 "B" ⟨⟨0⟩, 5⟩ given
  have name_eq : (grown.addClass ⟨⟨0⟩, 5⟩).document.nameOf ⟨⟨0⟩, 6⟩ = .ok "B" := by
    rcases (grown.add_finds_or_appends grownLayout).2.2.2.2 ⟨⟨0⟩, 5⟩ rfl _ classGiven with
      ⟨text, read, _, named⟩
    rw [named, ← read, text_eq]
  have counted : (grown.performAll further).file.pool.entryCount = 6 := by decide +kernel
  have again := adds.2.2.1 (.addUtf8 "B") rfl (.handle (.utf8 ⟨⟨0⟩, 5⟩)) rfl further (by decide)
  exact ⟨layout, ((adds.1 "A").found ⟨3, rfl⟩).2, given, text_eq, classGiven, name_eq, counted,
    again.2⟩

end Document

end ClassFormat
