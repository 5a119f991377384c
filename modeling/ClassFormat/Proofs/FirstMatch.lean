import ClassFormat.Proofs.ClassFileCodec
import ClassFormat.Proofs.Resolution
import ClassFormat.Workspace.Command
import Mathlib.Order.Bounds.Basic

/-!
# Looking for members and attributes by name

A search tests the elements of a table in order.  It ends at the first element that matches or that
cannot be tested because an index leads nowhere; nothing behind that element matters
(`Search.Ends`).

For members and attributes this is told without the search (`Search.FindsFirst`): which positions
match, and which have an obstacle that no match stands in front of.  The descriptor of a member is
an obstacle only if the member has the name that is looked for, so the descriptors of all the others
can be anything.
-/

namespace ClassFormat

/-- What is reported about an index that does not lead to a string. -/
def ConstantPool.notUtf8 (pool : ConstantPool) (index : UInt16) : Misuse :=
  match pool.get? index with
  | none => .missingConstant index .utf8
  | some entry => .wrongKind index entry.kind .utf8

namespace Search

/-! ## Searching with a test that may fail -/

section Ends

variable {α ε : Type} {test : α → Except ε Bool} {items : List α}

/-- The elements in front of a position can be tested and do not match. -/
def Passes (test : α → Except ε Bool) (items : List α) (position : Nat) : Prop :=
  ∀ earlier < position, ∀ item, items[earlier]? = some item → test item = .ok false

theorem passes_zero : Passes test items 0 :=
  fun earlier before => absurd before (Nat.not_lt_zero earlier)

theorem Passes.cons {first : α} {position : Nat} (tested : test first = .ok false)
    (passed : Passes test items position) : Passes test (first :: items) (position + 1) := by
  intro earlier before item found
  cases earlier with
  | zero =>
      cases found
      exact tested
  | succ earlier => exact passed earlier (Nat.lt_of_succ_lt_succ before) item found

/-- The ways in which a search through a list can end.  Positions are counted from `start`. -/
inductive Ends (test : α → Except ε Bool) (start : Nat) (items : List α) :
    Except ε (Option Nat) → Prop where
  | absent (passed : Passes test items items.length) : Ends test start items (.ok none)
  | found {position : Nat} {item : α} (passed : Passes test items position)
      (here : items[position]? = some item) (hit : test item = .ok true) :
      Ends test start items (.ok (some (start + position)))
  | failed {position : Nat} {item : α} {error : ε} (passed : Passes test items position)
      (here : items[position]? = some item) (broken : test item = .error error) :
      Ends test start items (.error error)

/-- An element that does not match moves the end of the search by one position. -/
theorem Ends.cons {first : α} {start : Nat} {result : Except ε (Option Nat)}
    (tested : test first = .ok false) (ends : Ends test (start + 1) items result) :
    Ends test start (first :: items) result := by
  cases ends with
  | absent passed => exact .absent (passed.cons tested)
  | found passed here hit =>
      rw [Nat.add_right_comm, Nat.add_assoc]
      exact .found (passed.cons tested) here hit
  | failed passed here broken => exact .failed (passed.cons tested) here broken

theorem firstMatch_ends (test : α → Except ε Bool) (start : Nat) (items : List α) :
    Ends test start items (firstMatch test start items) := by
  induction items generalizing start with
  | nil => exact .absent passes_zero
  | cons first items ih =>
      rw [firstMatch]
      cases tested : test first with
      | error error => exact .failed passes_zero rfl tested
      | ok matched =>
          cases matched with
          | false => exact (ih (start + 1)).cons tested
          | true => exact .found passes_zero rfl tested

/-- Only what the test says about the elements matters to a search. -/
theorem firstMatch_congr {others : List α} (start : Nat)
    (same : List.Forall₂ (fun item other => test item = test other) items others) :
    firstMatch test start items = firstMatch test start others := by
  induction same generalizing start with
  | nil => rfl
  | cons head tail ih => rw [firstMatch, firstMatch, head, ih]

end Ends

/-! ## The law of a search -/

section Law

variable {α β : Type}

/-- The positions of the elements that match. -/
def hits (Matches : α → Prop) (items : List α) : Set Nat :=
  { position | ∃ item, items[position]? = some item ∧ Matches item }

/-- The positions of the elements that have an obstacle and no match in front of them. -/
def stops (Matches : α → Prop) (Obstructs : α → UInt16 → Prop) (items : List α) : Set Nat :=
  { position | (∃ item index, items[position]? = some item ∧ Obstructs item index) ∧
    ∀ earlier < position, earlier ∉ hits Matches items }

/-- The result is what stands at the first position that matches, if there is one, unless the search
is stopped.  It is stopped exactly if there is a position to stop at, and reports the obstacle at
the first of them. -/
structure FindsFirst (pool : ConstantPool) (Matches : α → Prop) (Obstructs : α → UInt16 → Prop)
    (items : List α) (at? : Nat → Option β) (result : Except Misuse (Option β)) : Prop where
  found : ∀ value, result = .ok (some value) →
    ∃ position, IsLeast (hits Matches items) position ∧ at? position = some value
  absent : result = .ok none → hits Matches items = ∅
  stopped_iff : (∃ misuse, result = .error misuse) ↔ (stops Matches Obstructs items).Nonempty
  obstacle : ∀ misuse, result = .error misuse → ∃ position item index,
    IsLeast (stops Matches Obstructs items) position ∧ items[position]? = some item ∧
      Obstructs item index ∧ misuse = pool.notUtf8 index

/-- The test of a search says which elements match and which have an obstacle. -/
structure Decides (pool : ConstantPool) (Matches : α → Prop) (Obstructs : α → UInt16 → Prop)
    (test : α → Except Misuse Bool) : Prop where
  hit_iff : ∀ item, test item = .ok true ↔ Matches item
  error_iff : ∀ item misuse, test item = .error misuse ↔
    ∃ index, Obstructs item index ∧ misuse = pool.notUtf8 index

variable {pool : ConstantPool} {Matches : α → Prop} {Obstructs : α → UInt16 → Prop}
  {test : α → Except Misuse Bool} {items : List α} {at? : Nat → Option β}

theorem Decides.notMem_hits (decides : Decides pool Matches Obstructs test) {limit position : Nat}
    (passed : Passes test items limit) (before : position < limit) :
    position ∉ hits Matches items := by
  rintro ⟨item, here, matched⟩
  have tested := passed position before item here
  rw [(decides.hit_iff item).mpr matched] at tested
  cases tested

theorem Decides.notMem_stops (decides : Decides pool Matches Obstructs test)
    {limit position : Nat} (passed : Passes test items limit) (before : position < limit) :
    position ∉ stops Matches Obstructs items := by
  rintro ⟨⟨item, index, here, obstructs⟩, _⟩
  have tested := passed position before item here
  rw [(decides.error_iff item (pool.notUtf8 index)).mpr ⟨index, obstructs, rfl⟩] at tested
  cases tested

/-- A search that passes every element meets no match and no obstacle. -/
theorem Decides.eq_empty_of_passes (decides : Decides pool Matches Obstructs test)
    (passed : Passes test items items.length) :
    hits Matches items = ∅ ∧ stops Matches Obstructs items = ∅ := by
  simp only [Set.eq_empty_iff_forall_notMem]
  constructor
  · rintro position ⟨item, here, matched⟩
    exact decides.notMem_hits passed (List.getElem?_eq_some_iff.mp here).1 ⟨item, here, matched⟩
  · intro position isStop
    rcases isStop.1 with ⟨item, _, here, _⟩
    exact decides.notMem_stops passed (List.getElem?_eq_some_iff.mp here).1 isStop

section Verdicts

variable (decides : Decides pool Matches Obstructs test) {position : Nat} {item : α}
  (passed : Passes test items position) (here : items[position]? = some item)
include decides passed here

theorem Decides.isLeast_hits (hit : test item = .ok true) :
    IsLeast (hits Matches items) position := by
  refine ⟨⟨item, here, (decides.hit_iff item).mp hit⟩, fun other isHit => ?_⟩
  exact Nat.le_of_not_lt fun before => decides.notMem_hits passed before isHit

/-- A match hides all obstacles behind it. -/
theorem Decides.stops_eq_empty_of_hit (hit : test item = .ok true) :
    stops Matches Obstructs items = ∅ := by
  rw [Set.eq_empty_iff_forall_notMem]
  intro other isStop
  rcases Nat.lt_trichotomy other position with before | same | behind
  · exact decides.notMem_stops passed before isStop
  · rcases isStop with ⟨⟨actual, index, found, obstructs⟩, _⟩
    rw [same, here] at found
    cases found
    rw [(decides.error_iff item _).mpr ⟨index, obstructs, rfl⟩] at hit
    cases hit
  · exact isStop.2 position behind (decides.isLeast_hits passed here hit).1

theorem Decides.isLeast_stops {misuse : Misuse} (broken : test item = .error misuse) :
    IsLeast (stops Matches Obstructs items) position := by
  rcases (decides.error_iff item misuse).mp broken with ⟨index, obstructs, _⟩
  refine ⟨⟨⟨item, index, here, obstructs⟩, ?_⟩, fun other isStop => ?_⟩
  · exact fun earlier before => decides.notMem_hits passed before
  · exact Nat.le_of_not_lt fun before => decides.notMem_stops passed before isStop

end Verdicts

/-- A search whose test says what matches, and which gives what stands at the position it ends at,
obeys the law. -/
theorem Decides.findsFirst (decides : Decides pool Matches Obstructs test)
    (given : ∀ position < items.length, at? position ≠ none) :
    FindsFirst pool Matches Obstructs items at?
      ((firstMatch test 0 items).map (·.bind at?)) := by
  have ends := firstMatch_ends test 0 items
  generalize firstMatch test 0 items = result at ends ⊢
  cases ends with
  | absent passed =>
      rcases decides.eq_empty_of_passes passed with ⟨noHit, noStop⟩
      constructor
      case found =>
        rintro value ⟨⟩
      case absent =>
        exact fun _ => noHit
      case stopped_iff =>
        simp [noStop, Except.map]
      case obstacle =>
        rintro misuse ⟨⟩
  | @found position item passed here hit =>
      have noStop := decides.stops_eq_empty_of_hit passed here hit
      rw [Nat.zero_add]
      constructor
      case found =>
        intro value found
        exact ⟨position, decides.isLeast_hits passed here hit, Except.ok.inj found⟩
      case absent =>
        intro none
        exact absurd (Except.ok.inj none) (given position (List.getElem?_eq_some_iff.mp here).1)
      case stopped_iff =>
        simp [noStop, Except.map]
      case obstacle =>
        rintro misuse ⟨⟩
  | @failed position item error passed here broken =>
      have least := decides.isLeast_stops passed here broken
      constructor
      case found =>
        rintro value ⟨⟩
      case absent =>
        rintro ⟨⟩
      case stopped_iff =>
        exact ⟨fun _ => ⟨position, least.1⟩, fun _ => ⟨error, rfl⟩⟩
      case obstacle =>
        rintro _ ⟨⟩
        rcases (decides.error_iff item error).mp broken with ⟨index, obstructs, misuse_eq⟩
        exact ⟨position, item, index, least, here, obstructs, misuse_eq⟩

end Law

end Search

/-! ## Members and attributes -/

theorem map_eq_error_iff {α β ε : Type} {f : α → β} {outcome : Except ε α} {error : ε} :
    outcome.map f = .error error ↔ outcome = .error error := by
  cases outcome <;> simp [Except.map]

namespace ConstantPool

variable {pool : ConstantPool} {index : UInt16}

theorem text_eq_error_iff {misuse : Misuse} :
    pool.text index = .error misuse ↔ pool.isUtf8 index = false ∧ misuse = pool.notUtf8 index := by
  unfold text utf8 isUtf8 notUtf8
  cases pool.get? index with
  | none => simp [Except.map, eq_comm]
  | some entry => cases entry <;> simp [Entry.utf8?, Except.map, eq_comm]

theorem isUtf8_of_text_eq_ok {text : String} (read : pool.text index = .ok text) :
    pool.isUtf8 index = true := by
  by_contra notUtf8
  have failed := text_eq_error_iff.mpr ⟨Bool.eq_false_iff.mpr notUtf8, rfl⟩
  rw [read] at failed
  cases failed

end ConstantPool

namespace Member

/-- The member has the name and the descriptor. -/
def Matches (pool : ConstantPool) (name descriptor : String) (member : Member) : Prop :=
  pool.text member.nameIndex = .ok name ∧ pool.text member.descriptorIndex = .ok descriptor

/-- The index keeps the member from being compared: it is that of the name and leads to no string,
or the name is the one that is looked for and the index is that of the descriptor and leads to no
string. -/
def Obstructs (pool : ConstantPool) (name : String) (member : Member) (index : UInt16) : Prop :=
  pool.isUtf8 member.nameIndex = false ∧ index = member.nameIndex ∨
    pool.text member.nameIndex = .ok name ∧ pool.isUtf8 member.descriptorIndex = false ∧
      index = member.descriptorIndex

/-- The descriptor of a member with another name is not looked at. -/
theorem isNamed_of_text_ne {pool : ConstantPool} {name descriptor : String} {member : Member}
    (different : pool.text member.nameIndex ≠ .ok name) (index : UInt16) :
    isNamed pool name descriptor { member with descriptorIndex := index } =
      isNamed pool name descriptor member := by
  unfold isNamed
  cases read : pool.text member.nameIndex with
  | error misuse => rfl
  | ok actual =>
      have other : actual ≠ name := fun same => different (same ▸ read)
      simp only [Except.bind, if_neg other]

theorem isNamed_decides (pool : ConstantPool) (name descriptor : String) :
    Search.Decides pool (Matches pool name descriptor) (Obstructs pool name)
      (isNamed pool name descriptor) := by
  constructor
  case hit_iff =>
    intro member
    unfold isNamed Matches
    cases pool.text member.nameIndex with
    | error misuse => simp [Except.bind]
    | ok actual =>
        by_cases same : actual = name
        · cases pool.text member.descriptorIndex <;> simp [Except.bind, Except.map, same]
        · simp [Except.bind, same]
  case error_iff =>
    intro member misuse
    unfold isNamed Obstructs
    cases read : pool.text member.nameIndex with
    | error reported =>
        obtain ⟨notUtf8, rfl⟩ := ConstantPool.text_eq_error_iff.mp read
        constructor
        · rintro ⟨⟩
          exact ⟨member.nameIndex, .inl ⟨notUtf8, rfl⟩, rfl⟩
        · rintro ⟨_, ⟨_, rfl⟩ | ⟨⟨⟩, _⟩, rfl⟩
          rfl
    | ok actual =>
        have isUtf8 := ConstantPool.isUtf8_of_text_eq_ok read
        by_cases same : actual = name
        · simp [Except.bind, same, isUtf8, map_eq_error_iff, ConstantPool.text_eq_error_iff,
            and_assoc]
        · simp [Except.bind, same, isUtf8]

end Member

namespace Attribute

/-- The attribute has the name. -/
def Matches (pool : ConstantPool) (name : String) (item : Attribute) : Prop :=
  pool.text item.nameIndex = .ok name

/-- The index keeps the attribute from being compared: it is that of the name and leads to no
string. -/
def Obstructs (pool : ConstantPool) (item : Attribute) (index : UInt16) : Prop :=
  pool.isUtf8 item.nameIndex = false ∧ index = item.nameIndex

theorem isNamed_decides (pool : ConstantPool) (name : String) :
    Search.Decides pool (Matches pool name) (Obstructs pool) (isNamed pool name) := by
  constructor
  case hit_iff =>
    intro item
    unfold isNamed Matches
    cases pool.text item.nameIndex <;> simp [Except.map]
  case error_iff =>
    intro item misuse
    unfold isNamed Obstructs
    simp [map_eq_error_iff, ConstantPool.text_eq_error_iff]

end Attribute

namespace ClassFile

theorem findMember_findsFirst (file : ClassFile) (table : MemberTable) (name descriptor : String) :
    Search.FindsFirst file.pool (Member.Matches file.pool name descriptor)
      (Member.Obstructs file.pool name) (file.table table) some
      (file.findMember table name descriptor) := by
  have law : Search.FindsFirst file.pool _ _ (file.table table) some _ :=
    (Member.isNamed_decides file.pool name descriptor).findsFirst fun _ _ => Option.some_ne_none _
  have same : ∀ result : Except Misuse (Option Nat), result.map (·.bind some) = result := by
    intro result
    cases result <;> simp [Except.map]
  rwa [same] at law

theorem findAttribute_findsFirst (file : ClassFile) (attributes : List Attribute) (name : String) :
    Search.FindsFirst file.pool (Attribute.Matches file.pool name) (Attribute.Obstructs file.pool)
      attributes (fun position => attributes[position]?) (file.findAttribute attributes name) := by
  apply (Attribute.isNamed_decides file.pool name).findsFirst
  intro position inside
  rw [List.getElem?_eq_getElem inside]
  exact Option.some_ne_none _

/-- Other descriptors of members with other names make no difference. -/
theorem findMember_withTable {file : ClassFile} {table : MemberTable} {name : String}
    {members : List Member}
    (similar : List.Forall₂ (fun member other => other = member ∨
      file.pool.text member.nameIndex ≠ .ok name ∧
        ∃ index, other = { member with descriptorIndex := index }) (file.table table) members)
    (descriptor : String) :
    (file.withTable table members).findMember table name descriptor =
      file.findMember table name descriptor := by
  have searched : (file.withTable table members).findMember table name descriptor =
      firstMatch (Member.isNamed file.pool name descriptor) 0 members := by
    cases table <;> rfl
  rw [searched, findMember]
  refine (Search.firstMatch_congr 0 (similar.imp ?_)).symm
  rintro member _ (rfl | ⟨different, index, rfl⟩)
  · rfl
  · exact (Member.isNamed_of_text_ne different index).symm

/-- Looking for a member by name and descriptor, or for an attribute by name, gives the first one
that has them, unless it is stopped by an index in front of it that leads to no string; then the
first such index is reported.  The descriptors of members with other names do not matter. -/
theorem find_gives_first (file : ClassFile) (name : String) :
    (∀ (table : MemberTable) (descriptor : String),
      Search.FindsFirst file.pool (Member.Matches file.pool name descriptor)
        (Member.Obstructs file.pool name) (file.table table) some
        (file.findMember table name descriptor) ∧
      ∀ members, List.Forall₂ (fun member other => other = member ∨
          file.pool.text member.nameIndex ≠ .ok name ∧
            ∃ index, other = { member with descriptorIndex := index }) (file.table table) members →
        (file.withTable table members).findMember table name descriptor =
          file.findMember table name descriptor) ∧
    ∀ holder attributes, file.attributesOf? holder = some attributes →
      Search.FindsFirst file.pool (Attribute.Matches file.pool name) (Attribute.Obstructs file.pool)
        attributes (fun position => attributes[position]?) (file.findAttribute attributes name) :=
  ⟨fun table descriptor => ⟨file.findMember_findsFirst table name descriptor,
      fun _ similar => findMember_withTable similar descriptor⟩,
    fun _ attributes _ => file.findAttribute_findsFirst attributes name⟩

/-- The first method has another name and a descriptor that leads nowhere, the second is the one
that is looked for, and the third has a name that leads nowhere.  The attribute of the field has
such a name as well. -/
theorem find_gives_first_sample :
    let methods : List Member := [⟨0, 2, 9, []⟩, ⟨0, 1, 1, []⟩, ⟨0, 7, 1, []⟩]
    let file : ClassFile :=
      { Document.sampleFile with
        pool := .ofConstants [.utf8 ⟨[0x41]⟩, .utf8 ⟨[0x42]⟩]
        methods }
    (file.findMember .methods "A" "A" = .ok (some 1) ∧
        IsLeast (Search.hits (Member.Matches file.pool "A" "A") methods) 1) ∧
      (file.findMember .methods "B" "A" = .error (.missingConstant 9 .utf8) ∧
        (Search.stops (Member.Matches file.pool "B" "A") (Member.Obstructs file.pool "B")
          methods).Nonempty) ∧
      (file.withTable .methods [⟨0, 2, 1, []⟩, ⟨0, 1, 1, []⟩, ⟨0, 7, 1, []⟩]).findMember .methods
        "A" "A" = .ok (some 1) ∧
      file.attributesOf? (.member .fields 0) = some [⟨3, [0xFF]⟩] ∧
        (Search.stops (Attribute.Matches file.pool "A") (Attribute.Obstructs file.pool)
          [⟨3, [0xFF]⟩]).Nonempty := by
  intro methods file
  have found : file.findMember .methods "A" "A" = .ok (some 1) := by decide +kernel
  have stopped : file.findMember .methods "B" "A" = .error (.missingConstant 9 .utf8) := by
    decide +kernel
  have stoppedHere : file.findAttribute [⟨3, [0xFF]⟩] "A" = .error (.missingConstant 3 .utf8) := by
    decide +kernel
  have other : file.pool.text 2 ≠ .ok "A" := by decide +kernel
  have searches := (file.find_gives_first "A").1 .methods "A"
  rcases searches.1.found 1 found with ⟨position, least, same⟩
  cases same
  have unaffected := searches.2 [⟨0, 2, 1, []⟩, ⟨0, 1, 1, []⟩, ⟨0, 7, 1, []⟩]
    (.cons (.inr ⟨other, 1, rfl⟩) (.cons (.inl rfl) (.cons (.inl rfl) .nil)))
  have attributes := (file.find_gives_first "A").2 (.member .fields 0) _ rfl
  exact ⟨⟨found, least⟩,
    ⟨stopped, ((file.find_gives_first "B").1 .methods "A").1.stopped_iff.mp ⟨_, stopped⟩⟩,
    unaffected.trans found, rfl, attributes.stopped_iff.mp ⟨_, stoppedHere⟩⟩

end ClassFile

end ClassFormat
