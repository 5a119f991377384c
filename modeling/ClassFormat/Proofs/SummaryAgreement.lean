import ClassFormat.Proofs.Consistency

/-!
# Summaries agree with the views

A summary follows the indices of a class file on its own, without the accessors that report a
misuse.  Both come to the same: there is a summary exactly if no accessor whose text it shows
reports a misuse, and it shows the texts that these accessors give (`ClassFile.listing`).  If there
is none, the error is that of the first look-up that fails in the order of `ClassFile.lookups`.

Each part of a summary is a value that is given once a list of look-ups has succeeded
(`Summary.afterLookups`), and the whole is put together from the parts by appending their lists.
-/

namespace ClassFormat

/-! ## Look-ups in order -/

/-- A constant that is looked up. -/
inductive Lookup where
  | classAt (index : UInt16)
  | utf8At (index : UInt16)

/-- What is reported about a look-up that finds no constant of the right kind. -/
def Lookup.unresolved? (pool : ConstantPool) : Lookup → Option Unresolved
  | .classAt index => if pool.isClass index then none else some ⟨index, .classRef⟩
  | .utf8At index => if pool.isUtf8 index then none else some ⟨index, .utf8⟩

/-- The look-ups for the name of a class: the class, and the string that it refers to. -/
def ConstantPool.nameLookups (pool : ConstantPool) (index : UInt16) : List Lookup :=
  match pool.get? index with
  | some (.classRef nameIndex) => [.classAt index, .utf8At nameIndex]
  | _ => [.classAt index]

/-- The look-ups for the names of attributes. -/
def Attribute.lookups (attributes : List Attribute) : List Lookup :=
  attributes.map fun item => .utf8At item.nameIndex

/-- The look-ups for a member. -/
def Member.lookups (member : Member) : List Lookup :=
  .utf8At member.nameIndex :: .utf8At member.descriptorIndex ::
    Attribute.lookups member.attributes

/-- The look-ups for the name of the super class, if there is one. -/
def ClassFile.superLookups (file : ClassFile) : List Lookup :=
  if file.superClass = 0 then [] else file.pool.nameLookups file.superClass

/-- The look-ups for a class file, in order. -/
def ClassFile.lookups (file : ClassFile) : List Lookup :=
  file.pool.nameLookups file.thisClass ++
    (file.superLookups ++
      (file.interfaces.flatMap file.pool.nameLookups ++
        (file.fields.flatMap Member.lookups ++
          (file.methods.flatMap Member.lookups ++ Attribute.lookups file.attributes))))

/-- What is reported about the first look-up that fails. -/
def ClassFile.firstUnresolved? (file : ClassFile) : Option Unresolved :=
  file.lookups.findSome? (Lookup.unresolved? file.pool)

/-! ## The texts of the accessors in their places -/

namespace ClassFile

/-- Whether a summary shows what an accessor gives. -/
def Accessor.isShown : Accessor → Bool
  | .classAt _ | .utf8At _ => false
  | _ => true

/-- The text that an accessor gives.  It is empty if there is nothing to be asked or the accessor
reports a misuse. -/
def answer (file : ClassFile) (accessor : Accessor) : String :=
  ((file.access? accessor).bind Except.toOption).getD ""

/-- A text, or the mark that stands for an empty one. -/
def marked (text : String) : String :=
  if text = "" then "(none)" else text

/-- The names of attributes, separated by commas. -/
def attributeList (file : ClassFile) (holder : AttributeHolder) (attributes : List Attribute) :
    String :=
  marked (", ".intercalate
    (attributes.mapIdx fun position _ => file.answer (.attributeName holder position)))

/-- The line of the member at a position. -/
def memberListing (file : ClassFile) (table : MemberTable) (position : Nat) (member : Member) :
    String :=
  let name := file.answer (.memberName table position)
  let descriptor := file.answer (.memberDescriptor table position)
  let flags := marked (AccessFlags.display table.context member.accessFlags)
  let attributes := file.attributeList (.member table position) member.attributes
  s!"    {name}: {descriptor} [{flags}] attributes: {attributes}\n"

/-- The lines of a table of members. -/
def tableListing (file : ClassFile) (table : MemberTable) : String :=
  if file.table table = [] then s!"  {table.name}: (none)\n"
  else s!"  {table.name}:\n" ++ String.join ((file.table table).mapIdx (file.memberListing table))

/-- The lines of a class file, filled with the texts that the accessors give. -/
def listing (file : ClassFile) : String :=
  let flags := marked (AccessFlags.display .classFile file.accessFlags)
  let interfaces := marked (", ".intercalate
    (file.interfaces.mapIdx fun position _ => file.answer (.interface position)))
  s!"  version: {file.version.display}\n" ++ s!"  flags: {flags}\n" ++
    s!"  this class: {file.answer .thisClass}\n" ++
    s!"  super class: {marked (file.answer .superClass)}\n" ++
    s!"  interfaces: {interfaces}\n" ++ file.tableListing .fields ++ file.tableListing .methods ++
    s!"  attributes: {file.attributeList .classFile file.attributes}\n"

end ClassFile

namespace Summary

variable {pool : ConstantPool} {α β : Type}

/-- A value that is given once all look-ups have succeeded. -/
def afterLookups (pool : ConstantPool) (lookups : List Lookup) (value : α) :
    Except Unresolved α :=
  match lookups.findSome? (Lookup.unresolved? pool) with
  | some error => .error error
  | none => .ok value

theorem afterLookups_eq_ok_iff {lookups : List Lookup} {value result : α} :
    afterLookups pool lookups value = .ok result ↔
      lookups.findSome? (Lookup.unresolved? pool) = none ∧ result = value := by
  unfold afterLookups
  cases lookups.findSome? (Lookup.unresolved? pool) with
  | some error => simp
  | none => simp [eq_comm]

theorem afterLookups_eq_error_iff {lookups : List Lookup} {value : α} {error : Unresolved} :
    afterLookups pool lookups value = .error error ↔
      lookups.findSome? (Lookup.unresolved? pool) = some error := by
  unfold afterLookups
  cases lookups.findSome? (Lookup.unresolved? pool) with
  | some error => simp
  | none => simp

/-- What goes on after some look-ups with others follows all of them in order. -/
theorem afterLookups_bind {first second : List Lookup} {value : α} {result : β}
    {next : α → Except Unresolved β} (goesOn : next value = afterLookups pool second result) :
    (afterLookups pool first value >>= next) = afterLookups pool (first ++ second) result := by
  unfold afterLookups at goesOn ⊢
  rw [List.findSome?_append]
  cases first.findSome? (Lookup.unresolved? pool) with
  | some error => rfl
  | none => exact goesOn

theorem afterLookups_map {lookups : List Lookup} {value : α} (f : α → β) :
    (afterLookups pool lookups value >>= fun given => pure (f given)) =
      afterLookups pool lookups (f value) := by
  unfold afterLookups
  cases lookups.findSome? (Lookup.unresolved? pool) <;> rfl

theorem afterLookups_mapM {f : α → Except Unresolved β} {lookups : α → List Lookup}
    {value : α → β} (each : ∀ item, f item = afterLookups pool (lookups item) (value item))
    (items : List α) :
    items.mapM f = afterLookups pool (items.flatMap lookups) (items.map value) := by
  induction items with
  | nil => rfl
  | cons item items ih =>
      rw [List.mapM_cons, each item, List.flatMap_cons]
      apply afterLookups_bind
      rw [ih, List.map_cons]
      exact afterLookups_map (value item :: ·)

/-! ## The parts of a summary -/

theorem orNone_eq_marked (text : String) : orNone text = ClassFile.marked text := by
  simp [orNone, ClassFile.marked, String.isEmpty_iff]

theorem utf8_eq_afterLookups (pool : ConstantPool) (index : UInt16) :
    utf8 pool index = afterLookups pool [.utf8At index] ((pool.text index).toOption.getD "") := by
  unfold utf8 ConstantPool.text ConstantPool.utf8
  cases found : pool.get? index with
  | none => simp [afterLookups, Lookup.unresolved?, ConstantPool.isUtf8, found]
  | some entry =>
      cases entry with
      | utf8 string =>
          have isUtf8 : pool.isUtf8 index = true := ConstantPool.isUtf8_iff.mpr ⟨_, found⟩
          simp [afterLookups, Lookup.unresolved?, isUtf8, Entry.utf8?, Except.map, Except.toOption]
      | _ => simp [afterLookups, Lookup.unresolved?, ConstantPool.isUtf8, found, Entry.utf8?]

theorem className_eq_afterLookups (pool : ConstantPool) (index : UInt16) :
    className pool index =
      afterLookups pool (pool.nameLookups index) ((pool.className index).toOption.getD "") := by
  unfold className ConstantPool.nameLookups ConstantPool.className ConstantPool.classNameIndex
  cases found : pool.get? index with
  | none => simp [afterLookups, Lookup.unresolved?, ConstantPool.isClass, found]
  | some entry =>
      cases entry with
      | classRef nameIndex =>
          have isClass : pool.isClass index = true := ConstantPool.isClass_iff.mpr ⟨_, found⟩
          have passed : (Lookup.classAt index).unresolved? pool = none := if_pos isClass
          simp only [Option.bind_some, Entry.classNameIndex?, utf8_eq_afterLookups, afterLookups,
            List.findSome?_cons, passed]
          rfl
      | _ =>
          simp [afterLookups, Lookup.unresolved?, ConstantPool.isClass, found,
            Entry.classNameIndex?]

theorem attributeNames_eq_afterLookups (pool : ConstantPool) (attributes : List Attribute) :
    attributeNames pool attributes =
      afterLookups pool (Attribute.lookups attributes)
        (ClassFile.marked (", ".intercalate
          (attributes.map fun item => (pool.text item.nameIndex).toOption.getD ""))) := by
  have names := afterLookups_mapM (fun item : Attribute => utf8_eq_afterLookups pool item.nameIndex)
    attributes
  have lookups_eq : Attribute.lookups attributes =
      attributes.flatMap fun item => [.utf8At item.nameIndex] := List.map_eq_flatMap
  rw [attributeNames, names, lookups_eq, ← orNone_eq_marked]
  exact afterLookups_map nameList

/-- The line of a member, from the texts that its indices lead to. -/
def memberText (pool : ConstantPool) (context : FlagContext) (member : Member) : String :=
  let name := (pool.text member.nameIndex).toOption.getD ""
  let descriptor := (pool.text member.descriptorIndex).toOption.getD ""
  let flags := ClassFile.marked (AccessFlags.display context member.accessFlags)
  let attributes := ClassFile.marked (", ".intercalate
    (member.attributes.map fun item => (pool.text item.nameIndex).toOption.getD ""))
  s!"    {name}: {descriptor} [{flags}] attributes: {attributes}\n"

theorem memberLine_eq_afterLookups (pool : ConstantPool) (context : FlagContext)
    (member : Member) :
    memberLine pool context member =
      afterLookups pool member.lookups (memberText pool context member) := by
  rw [memberLine, utf8_eq_afterLookups, utf8_eq_afterLookups, attributeNames_eq_afterLookups]
  apply afterLookups_bind
  apply afterLookups_bind
  rw [orNone_eq_marked]
  exact afterLookups_map _

theorem memberLines_eq_afterLookups (pool : ConstantPool) (table : MemberTable)
    (members : List Member) :
    memberLines pool table members =
      afterLookups pool (members.flatMap Member.lookups)
        (if members = [] then s!"  {table.name}: (none)\n"
          else s!"  {table.name}:\n" ++
            String.join (members.map (memberText pool table.context))) := by
  unfold memberLines
  cases members with
  | nil => rfl
  | cons member members =>
      rw [afterLookups_mapM (memberLine_eq_afterLookups pool table.context)]
      exact afterLookups_map _

end Summary

/-! ## The places of the texts -/

namespace ClassFile

/-- A list is mapped with positions as without them if the positions do not matter. -/
theorem mapIdx_eq_map {α β : Type} {items : List α} {place : Nat → α → β} {value : α → β}
    (same : ∀ position item, items[position]? = some item → place position item = value item) :
    items.mapIdx place = items.map value := by
  apply List.ext_getElem?
  intro position
  rw [List.getElem?_mapIdx, List.getElem?_map]
  cases found : items[position]? with
  | none => rfl
  | some item => simp [same position item found]

variable {file : ClassFile}

theorem attributeList_eq {holder : AttributeHolder} {attributes : List Attribute}
    (held : file.attributesOf? holder = some attributes) :
    file.attributeList holder attributes =
      marked (", ".intercalate
        (attributes.map fun item => (file.pool.text item.nameIndex).toOption.getD "")) := by
  unfold attributeList
  rw [mapIdx_eq_map]
  intro position item found
  simp [answer, access?, held, found]

theorem memberListing_eq {table : MemberTable} {position : Nat} {member : Member}
    (found : (file.table table)[position]? = some member) :
    file.memberListing table position member =
      Summary.memberText file.pool table.context member := by
  have held : file.attributesOf? (.member table position) = some member.attributes := by
    simp [attributesOf?, found]
  unfold memberListing
  rw [attributeList_eq held]
  simp [answer, access?, found, Summary.memberText]

theorem memberLines_eq_afterLookups (file : ClassFile) (table : MemberTable) :
    Summary.memberLines file.pool table (file.table table) =
      Summary.afterLookups file.pool ((file.table table).flatMap Member.lookups)
        (file.tableListing table) := by
  have lines : (file.table table).mapIdx (file.memberListing table) =
      (file.table table).map (Summary.memberText file.pool table.context) :=
    mapIdx_eq_map fun _ _ found => memberListing_eq found
  rw [tableListing, lines]
  exact Summary.memberLines_eq_afterLookups file.pool table (file.table table)

theorem interfaceNames_eq_afterLookups (file : ClassFile) :
    file.interfaces.mapM (Summary.className file.pool) =
      Summary.afterLookups file.pool (file.interfaces.flatMap file.pool.nameLookups)
        (file.interfaces.mapIdx fun position _ => file.answer (.interface position)) := by
  have names : (file.interfaces.mapIdx fun position _ => file.answer (.interface position)) =
      file.interfaces.map fun index => (file.pool.className index).toOption.getD "" :=
    mapIdx_eq_map fun _ _ found => by simp [answer, access?, found]
  rw [names]
  exact Summary.afterLookups_mapM (Summary.className_eq_afterLookups file.pool) file.interfaces

theorem attributeNames_eq_afterLookups (file : ClassFile) :
    Summary.attributeNames file.pool file.attributes =
      Summary.afterLookups file.pool (Attribute.lookups file.attributes)
        (file.attributeList .classFile file.attributes) := by
  rw [attributeList_eq rfl]
  exact Summary.attributeNames_eq_afterLookups file.pool file.attributes

theorem superClass_bind {next : String → Except Unresolved String} :
    (if file.superClass = 0 then pure "" >>= next
      else Summary.className file.pool file.superClass >>= next) =
      (Summary.afterLookups file.pool file.superLookups (file.answer .superClass) >>= next) := by
  unfold superLookups answer access?
  by_cases root : file.superClass = 0
  · simp only [if_pos root]
    rfl
  · simp only [if_neg root, Summary.className_eq_afterLookups]
    rfl

/-- The summary is the listing, once all look-ups have succeeded in order. -/
theorem summary_eq_afterLookups (file : ClassFile) :
    file.summary = Summary.afterLookups file.pool file.lookups file.listing := by
  have thisClass : Summary.className file.pool file.thisClass =
      Summary.afterLookups file.pool (file.pool.nameLookups file.thisClass)
        (file.answer .thisClass) :=
    Summary.className_eq_afterLookups file.pool file.thisClass
  have fields := file.memberLines_eq_afterLookups .fields
  have methods := file.memberLines_eq_afterLookups .methods
  simp only [table] at fields methods
  simp only [summary, superClass_bind, interfaceNames_eq_afterLookups, fields, methods,
    attributeNames_eq_afterLookups, Summary.orNone_eq_marked, Summary.nameList]
  rw [thisClass, lookups]
  refine Summary.afterLookups_bind ?_
  refine Summary.afterLookups_bind ?_
  refine Summary.afterLookups_bind ?_
  refine Summary.afterLookups_bind ?_
  refine Summary.afterLookups_bind ?_
  exact Summary.afterLookups_map _

/-! ## Accessors and look-ups -/

theorem text_eq_ok_iff_lookup {index : UInt16} :
    (∃ text, file.pool.text index = .ok text) ↔
      (Lookup.utf8At index).unresolved? file.pool = none := by
  simp only [← Summary.utf8_eq_ok_iff, Summary.utf8_eq_afterLookups,
    Summary.afterLookups_eq_ok_iff, List.findSome?_eq_none_iff, List.forall_mem_singleton]
  exact ⟨fun ⟨_, found, _⟩ => found, fun found => ⟨_, found, rfl⟩⟩

theorem className_eq_ok_iff_lookups {index : UInt16} :
    (∃ text, file.pool.className index = .ok text) ↔
      ∀ lookup ∈ file.pool.nameLookups index, lookup.unresolved? file.pool = none := by
  simp only [← Summary.className_eq_ok_iff, Summary.className_eq_afterLookups,
    Summary.afterLookups_eq_ok_iff, List.findSome?_eq_none_iff]
  exact ⟨fun ⟨_, found, _⟩ => found, fun found => ⟨_, found, rfl⟩⟩

/-- What holds of all look-ups of a class file holds of those of its parts. -/
theorem forall_lookups_iff {Holds : Lookup → Prop} :
    (∀ lookup ∈ file.lookups, Holds lookup) ↔
      (∀ lookup ∈ file.pool.nameLookups file.thisClass, Holds lookup) ∧
      (∀ lookup ∈ file.superLookups, Holds lookup) ∧
      (∀ index ∈ file.interfaces, ∀ lookup ∈ file.pool.nameLookups index, Holds lookup) ∧
      (∀ table, ∀ member ∈ file.table table, ∀ lookup ∈ member.lookups, Holds lookup) ∧
      ∀ item ∈ file.attributes, Holds (.utf8At item.nameIndex) := by
  have tables : (∀ table, ∀ member ∈ file.table table, ∀ lookup ∈ member.lookups, Holds lookup) ↔
      (∀ member ∈ file.fields, ∀ lookup ∈ member.lookups, Holds lookup) ∧
        ∀ member ∈ file.methods, ∀ lookup ∈ member.lookups, Holds lookup := by
    constructor
    · intro each
      exact ⟨each .fields, each .methods⟩
    · rintro ⟨fields, methods⟩ (_ | _)
      · exact fields
      · exact methods
  rw [tables, and_assoc]
  simp only [lookups, List.forall_mem_append, List.forall_mem_flatMap, Attribute.lookups,
    List.forall_mem_map]

theorem forall_memberLookups_iff {Holds : Lookup → Prop} {member : Member} :
    (∀ lookup ∈ member.lookups, Holds lookup) ↔
      Holds (.utf8At member.nameIndex) ∧ Holds (.utf8At member.descriptorIndex) ∧
        ∀ item ∈ member.attributes, Holds (.utf8At item.nameIndex) := by
  simp only [Member.lookups, Attribute.lookups, List.forall_mem_cons, List.forall_mem_map]

/-- If all look-ups succeed, every accessor whose text is shown gives one. -/
theorem access_eq_ok_of_lookups
    (found : ∀ lookup ∈ file.lookups, lookup.unresolved? file.pool = none) {accessor : Accessor}
    (shown : accessor.isShown = true) {outcome : Except Misuse String}
    (asked : file.access? accessor = some outcome) : ∃ text, outcome = .ok text := by
  rcases forall_lookups_iff.mp found with ⟨thisClass, superClass, interfaces, members, attributes⟩
  cases accessor with
  | thisClass =>
      cases asked
      exact className_eq_ok_iff_lookups.mpr thisClass
  | superClass =>
      simp only [access?] at asked
      split at asked
      · cases asked
      · rename_i nonzero
        cases asked
        rw [superLookups, if_neg nonzero] at superClass
        exact className_eq_ok_iff_lookups.mpr superClass
  | interface position =>
      rcases Option.map_eq_some_iff.mp asked with ⟨index, chosen, rfl⟩
      exact className_eq_ok_iff_lookups.mpr (interfaces index (List.mem_of_getElem? chosen))
  | classAt index => cases shown
  | utf8At index => cases shown
  | memberName table position =>
      rcases Option.map_eq_some_iff.mp asked with ⟨member, chosen, rfl⟩
      have each := members table member (List.mem_of_getElem? chosen)
      exact text_eq_ok_iff_lookup.mpr (forall_memberLookups_iff.mp each).1
  | memberDescriptor table position =>
      rcases Option.map_eq_some_iff.mp asked with ⟨member, chosen, rfl⟩
      have each := members table member (List.mem_of_getElem? chosen)
      exact text_eq_ok_iff_lookup.mpr (forall_memberLookups_iff.mp each).2.1
  | attributeName holder position =>
      rcases Option.bind_eq_some_iff.mp asked with ⟨held, held_eq, chosen⟩
      rcases Option.map_eq_some_iff.mp chosen with ⟨item, itemChosen, rfl⟩
      have mem := List.mem_of_getElem? itemChosen
      cases holder with
      | classFile =>
          cases held_eq
          exact text_eq_ok_iff_lookup.mpr (attributes item mem)
      | member table position =>
          rcases Option.map_eq_some_iff.mp held_eq with ⟨member, memberChosen, rfl⟩
          have each := members table member (List.mem_of_getElem? memberChosen)
          exact text_eq_ok_iff_lookup.mpr ((forall_memberLookups_iff.mp each).2.2 item mem)

theorem eq_ok_of_ne_error {outcome : Except Misuse String}
    (never : ∀ misuse, some outcome ≠ some (.error misuse)) : ∃ text, outcome = .ok text := by
  cases outcome with
  | error misuse => exact absurd rfl (never misuse)
  | ok text => exact ⟨text, rfl⟩

/-- If no accessor whose text is shown reports a misuse, all look-ups succeed. -/
theorem lookups_of_access
    (answered : ∀ accessor : Accessor, accessor.isShown = true →
      ∀ misuse, file.access? accessor ≠ some (.error misuse)) :
    ∀ lookup ∈ file.lookups, lookup.unresolved? file.pool = none := by
  refine forall_lookups_iff.mpr ⟨?_, ?_, ?_, ?_, ?_⟩
  · exact className_eq_ok_iff_lookups.mp (eq_ok_of_ne_error (answered .thisClass rfl))
  · have asked := answered .superClass rfl
    unfold superLookups
    split
    · exact nofun
    · rename_i nonzero
      rw [access?, if_neg nonzero] at asked
      exact className_eq_ok_iff_lookups.mp (eq_ok_of_ne_error asked)
  · intro index mem
    rcases List.getElem?_of_mem mem with ⟨position, chosen⟩
    have asked := answered (.interface position) rfl
    rw [access?, chosen] at asked
    exact className_eq_ok_iff_lookups.mp (eq_ok_of_ne_error asked)
  · intro table member mem
    rcases List.getElem?_of_mem mem with ⟨position, chosen⟩
    refine forall_memberLookups_iff.mpr ⟨?_, ?_, fun item itemMem => ?_⟩
    · have asked := answered (.memberName table position) rfl
      rw [access?, chosen] at asked
      exact text_eq_ok_iff_lookup.mp (eq_ok_of_ne_error asked)
    · have asked := answered (.memberDescriptor table position) rfl
      rw [access?, chosen] at asked
      exact text_eq_ok_iff_lookup.mp (eq_ok_of_ne_error asked)
    · rcases List.getElem?_of_mem itemMem with ⟨place, itemChosen⟩
      have asked := answered (.attributeName (.member table position) place) rfl
      simp only [access?, attributesOf?, chosen, itemChosen, Option.map_some, Option.bind_some]
        at asked
      exact text_eq_ok_iff_lookup.mp (eq_ok_of_ne_error asked)
  · intro item mem
    rcases List.getElem?_of_mem mem with ⟨position, chosen⟩
    have asked := answered (.attributeName .classFile position) rfl
    simp only [access?, attributesOf?, chosen, Option.map_some, Option.bind_some] at asked
    exact text_eq_ok_iff_lookup.mp (eq_ok_of_ne_error asked)

/-- There is a summary exactly if no accessor whose text it shows reports a misuse, and then it is
the listing of these texts.  Otherwise the error is that of the first look-up that fails. -/
theorem summary_agrees (file : ClassFile) :
    ((∃ text, file.summary = .ok text) ↔
        ∀ accessor : Accessor, accessor.isShown = true →
          ∀ misuse, file.access? accessor ≠ some (.error misuse)) ∧
      (∀ text, file.summary = .ok text → text = file.listing) ∧
      ∀ error, file.summary = .error error ↔ file.firstUnresolved? = some error := by
  simp only [summary_eq_afterLookups, Summary.afterLookups_eq_ok_iff]
  refine ⟨⟨?_, ?_⟩, fun _ given => given.2, fun _ => Summary.afterLookups_eq_error_iff⟩
  · rintro ⟨_, none_unresolved, _⟩ accessor shown misuse asked
    have found := List.findSome?_eq_none_iff.mp none_unresolved
    rcases access_eq_ok_of_lookups found shown asked with ⟨_, impossible⟩
    cases impossible
  · intro answered
    exact ⟨_, List.findSome?_eq_none_iff.mpr (lookups_of_access answered), rfl⟩

/-- In the second class file the name of this class leads to a number, which is reported with the
index of the name. -/
theorem summary_agrees_sample :
    let text :=
      "  version: 65.0\n  flags: PUBLIC SUPER\n  this class: A\n  super class: (none)\n" ++
      "  interfaces: A\n  fields:\n    A: A [PRIVATE] attributes: A\n  methods: (none)\n" ++
      "  attributes: (none)\n"
    let unnamed : ClassFile :=
      { Document.sampleFile with pool := Document.sampleFile.pool.set 4 (.classRef 1) }
    Document.sampleFile.summary = .ok text ∧ text = Document.sampleFile.listing ∧
      (∀ misuse, Document.sampleFile.access? (.interface 0) ≠ some (.error misuse)) ∧
      unnamed.summary = .error ⟨1, .utf8⟩ := by
  intro text unnamed
  have given : Document.sampleFile.summary = .ok text := by decide +kernel
  have agrees := summary_agrees Document.sampleFile
  exact ⟨given, agrees.2.1 text given, agrees.1.mp ⟨text, given⟩ (.interface 0) rfl,
    ((summary_agrees unnamed).2.2 _).mpr rfl⟩

end ClassFile

end ClassFormat
