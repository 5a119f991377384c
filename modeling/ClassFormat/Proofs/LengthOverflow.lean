import ClassFormat.Proofs.ClassFileCodec
import ClassFormat.Proofs.PartialWrites

/-!
# Lengths that do not fit

A class file can be written exactly if all its lengths fit their fields.  If not, writing ends in
front of the first length that does not.

What is written until then is told by accounts (`Account`): the account of a structure lists its
parts in the order of the file, and a part counts only if everything in front of it fits.  The same
bytes start the encoding of the class file in which everything too long has been emptied
(`ClassFile.trimmed`), and there the length in question is zero.
-/

namespace ClassFormat

/-- What writing a part of a class file comes to. -/
structure Account where
  /-- Every length fits its field. -/
  Fits : Prop
  /-- What is written, if every length fits. -/
  bytes : Bytes
  /-- The first length that does not fit stands behind `front`, and `field` is what says that length
  if it is zero. -/
  Cut : (front field : Bytes) → Prop

namespace Account

/-- Bytes without a length. -/
def fixed (run : Bytes) : Account where
  Fits := True
  bytes := run
  Cut _ _ := False

/-- Bytes that begin with a length and are written only if it fits. -/
def checked (fits : Prop) (run zero : Bytes) : Account where
  Fits := fits
  bytes := run
  Cut front field := ¬ fits ∧ front = [] ∧ field = zero

/-- A length field of 16 bits. -/
def length16 (length : Nat) : Account :=
  checked (length < 0x10000) (Bytes.ofUInt16 length.toUInt16) [0, 0]

/-- A length field of 32 bits. -/
def length32 (length : Nat) : Account :=
  checked (length < 0x100000000) (Bytes.ofUInt32 length.toUInt32) [0, 0, 0, 0]

theorem bytes_length16_zero : (length16 0).bytes = [0, 0] := by
  decide

theorem bytes_length32_zero : (length32 0).bytes = [0, 0, 0, 0] := by
  decide

/-- One part behind another.  The second one is reached only if the first one fits. -/
def seq (first second : Account) : Account where
  Fits := first.Fits ∧ second.Fits
  bytes := first.bytes ++ second.bytes
  Cut front field :=
    first.Cut front field ∨
      first.Fits ∧ ∃ inner, second.Cut inner field ∧ front = first.bytes ++ inner

/-- Parts one behind the other. -/
def sequence : List Account → Account
  | [] => fixed []
  | part :: parts => part.seq (sequence parts)

/-- A table: a 16-bit count and the items. -/
def table (items : List Account) : Account :=
  (length16 items.length).seq (sequence items)

theorem sequence_fits_iff {parts : List Account} :
    (sequence parts).Fits ↔ ∀ part ∈ parts, part.Fits := by
  induction parts with
  | nil => simp [sequence, fixed]
  | cons part parts ih => simp [sequence, seq, ih]

theorem table_fits_iff {items : List Account} :
    (table items).Fits ↔ items.length < 0x10000 ∧ ∀ item ∈ items, item.Fits := by
  rw [table, seq, length16, checked, sequence_fits_iff]

/-! ## Accounts of emissions -/

/-- The account tells what the emission writes, and where it stops. -/
structure Describes (account : Account) (emission : Emission) : Prop where
  writes_iff : ∀ {bytes : Bytes}, emission.Writes bytes ↔ account.Fits ∧ bytes = account.bytes
  stops_iff : ∀ {front : Bytes}, emission.Stops front ↔ ∃ field, account.Cut front field

theorem describes_fixed (run : Bytes) : (fixed run).Describes [.bytes run] where
  writes_iff := by simp [fixed]
  stops_iff := by simp [fixed, Emission.stops_cons_bytes, Emission.not_stops_nil]

theorem describes_word16 (n : UInt16) :
    (fixed (Bytes.ofUInt16 n)).Describes (Emission.word16 n) :=
  describes_fixed (Bytes.ofUInt16 n)

theorem Describes.checked {fits : Prop} [Decidable fits] {run : Bytes} {emission : Emission}
    (describes : (fixed run).Describes emission) (zero : Bytes) :
    (checked fits run zero).Describes (if fits then emission else [.overlong]) := by
  by_cases isFit : fits
  · rw [if_pos isFit]
    constructor
    · simp [describes.writes_iff, fixed, Account.checked, isFit]
    · simp [describes.stops_iff, fixed, Account.checked, isFit]
  · rw [if_neg isFit]
    constructor
    · simp [Account.checked, isFit]
    · simp [Account.checked, isFit, Emission.stops_cons_overlong]

theorem describes_length16 (length : Nat) :
    (length16 length).Describes (Emission.length16 length) :=
  (describes_word16 length.toUInt16).checked [0, 0]

theorem describes_length32 (length : Nat) :
    (length32 length).Describes (Emission.length32 length) :=
  (describes_fixed (Bytes.ofUInt32 length.toUInt32)).checked [0, 0, 0, 0]

theorem Describes.seq {first second : Account} {front back : Emission}
    (describesFirst : first.Describes front) (describesSecond : second.Describes back) :
    (first.seq second).Describes (front ++ back) where
  writes_iff := by
    intro bytes
    simp only [Emission.writes_append, describesFirst.writes_iff, describesSecond.writes_iff]
    constructor
    · rintro ⟨_, _, ⟨fitsFirst, rfl⟩, ⟨fitsSecond, rfl⟩, rfl⟩
      exact ⟨⟨fitsFirst, fitsSecond⟩, rfl⟩
    · rintro ⟨⟨fitsFirst, fitsSecond⟩, rfl⟩
      exact ⟨_, _, ⟨fitsFirst, rfl⟩, ⟨fitsSecond, rfl⟩, rfl⟩
  stops_iff := by
    intro cut
    simp only [Emission.stops_append, describesFirst.writes_iff, describesFirst.stops_iff,
      describesSecond.stops_iff]
    constructor
    · rintro (⟨field, inFirst⟩ | ⟨_, inner, ⟨fits, rfl⟩, ⟨field, inSecond⟩, rfl⟩)
      · exact ⟨field, .inl inFirst⟩
      · exact ⟨field, .inr ⟨fits, inner, inSecond, rfl⟩⟩
    · rintro ⟨field, inFirst | ⟨fits, inner, inSecond, rfl⟩⟩
      · exact .inl ⟨field, inFirst⟩
      · exact .inr ⟨_, inner, ⟨fits, rfl⟩, ⟨field, inSecond⟩, rfl⟩

theorem describes_sequence {α : Type} {account : α → Account} {emission : α → Emission}
    (describes : ∀ value, (account value).Describes (emission value)) (values : List α) :
    (sequence (values.map account)).Describes (values.flatMap emission) := by
  induction values with
  | nil =>
      exact ⟨by simp [sequence, fixed], by simp [sequence, fixed, Emission.not_stops_nil]⟩
  | cons value values ih => exact (describes value).seq ih

theorem describes_table {α : Type} {account : α → Account} {emission : α → Emission}
    (describes : ∀ value, (account value).Describes (emission value)) (items : List α) :
    (table (items.map account)).Describes (Emission.table emission items) := by
  rw [table, List.length_map]
  exact (describes_length16 items.length).seq (describes_sequence describes items)

/-! ## Emptying what is too long -/

/-- The second account is that of a value from which everything too long in the first has been
emptied. -/
structure Trims (account trimmed : Account) : Prop where
  fits : trimmed.Fits
  bytes_eq : account.Fits → trimmed.bytes = account.bytes
  starts : ∀ {front field : Bytes}, account.Cut front field →
    ∃ back, trimmed.bytes = front ++ (field ++ back)

theorem trims_fixed (run : Bytes) : (fixed run).Trims (fixed run) where
  fits := trivial
  bytes_eq _ := rfl
  starts := nofun

/-- Something emptied is written as its zero length. -/
theorem trims_empty {account trimmed : Account} (fits : trimmed.Fits) (long : ¬ account.Fits)
    (starts : ∀ {front field : Bytes}, account.Cut front field →
      front = [] ∧ ∃ back, trimmed.bytes = field ++ back) : account.Trims trimmed where
  fits := fits
  bytes_eq isFit := absurd isFit long
  starts := by
    intro front field cut
    rcases starts cut with ⟨rfl, back, bytes_eq⟩
    exact ⟨back, bytes_eq⟩

theorem Trims.seq {first second first' second' : Account} (trimsFirst : first.Trims first')
    (trimsSecond : second.Trims second') : (first.seq second).Trims (first'.seq second') where
  fits := ⟨trimsFirst.fits, trimsSecond.fits⟩
  bytes_eq fits := by
    change first'.bytes ++ second'.bytes = first.bytes ++ second.bytes
    rw [trimsFirst.bytes_eq fits.1, trimsSecond.bytes_eq fits.2]
  starts := by
    rintro _ field (inFirst | ⟨fits, inner, inSecond, rfl⟩)
    · rcases trimsFirst.starts inFirst with ⟨back, bytes_eq⟩
      refine ⟨back ++ second'.bytes, ?_⟩
      change first'.bytes ++ second'.bytes = _
      simp [bytes_eq]
    · rcases trimsSecond.starts inSecond with ⟨back, bytes_eq⟩
      refine ⟨back, ?_⟩
      change first'.bytes ++ second'.bytes = _
      rw [trimsFirst.bytes_eq fits, bytes_eq, List.append_assoc]

theorem trims_sequence {α : Type} {account : α → Account} {trimmed : α → α}
    (trims : ∀ value, (account value).Trims (account (trimmed value))) (values : List α) :
    (sequence (values.map account)).Trims (sequence ((values.map trimmed).map account)) := by
  induction values with
  | nil => exact trims_fixed []
  | cons value values ih => exact (trims value).seq ih

theorem trims_checked {fits : Prop} (isFit : fits) (run zero : Bytes) :
    (checked fits run zero).Trims (checked fits run zero) where
  fits := isFit
  bytes_eq _ := rfl
  starts cut := absurd isFit cut.1

end Account

/-- A table without its items, if they are too many, and otherwise with items from which everything
too long has been emptied. -/
def trimmedTable {α : Type} (trimmed : α → α) (items : List α) : List α :=
  if items.length < 0x10000 then items.map trimmed else []

theorem Account.trims_table {α : Type} {account : α → Account} {trimmed : α → α}
    (trims : ∀ value, (account value).Trims (account (trimmed value))) (items : List α) :
    (table (items.map account)).Trims (table ((trimmedTable trimmed items).map account)) := by
  unfold trimmedTable
  by_cases few : items.length < 0x10000
  · rw [if_pos few]
    unfold table
    rw [List.length_map, List.length_map, List.length_map]
    exact (trims_checked few _ _).seq (trims_sequence trims items)
  · rw [if_neg few]
    unfold table
    rw [List.length_map]
    refine trims_empty ⟨Nat.zero_lt_succ _, trivial⟩ (fun fits => few fits.1) ?_
    rintro _ _ (⟨_, rfl, rfl⟩ | ⟨fits, _⟩)
    · exact ⟨rfl, [], congrArg (· ++ []) bytes_length16_zero⟩
    · exact absurd fits few

/-! ## The parts of a class file -/

namespace Entry

/-- The account of a constant.  A string too long for its length field writes not even its tag. -/
def account (entry : Entry) : Account :=
  .checked entry.Fits entry.bytes [Kind.utf8.tag, 0, 0]

/-- A constant whose string has been emptied if it is too long. -/
def trimmed : Entry → Entry
  | .utf8 string => if string.bytes.length < 0x10000 then .utf8 string else .utf8 ⟨[]⟩
  | entry => entry

theorem exists_of_not_fits {entry : Entry} (long : ¬ entry.Fits) :
    ∃ string, entry = .utf8 string ∧ ¬ string.bytes.length < 0x10000 := by
  cases entry with
  | utf8 string => exact ⟨string, rfl, fun short => long fun _ => short⟩
  | _ => exact absurd nofun long

theorem stops_emission {entry : Entry} {front : Bytes} :
    entry.emission.Stops front ↔ ¬ entry.Fits ∧ front = [] := by
  constructor
  · intro stops
    have long : ¬ entry.Fits := fun fits => stops.not_writes _ (writes_emission.mpr ⟨fits, rfl⟩)
    rcases exists_of_not_fits long with ⟨string, rfl, tooLong⟩
    rw [emission, if_neg tooLong, Emission.stops_cons_overlong] at stops
    exact ⟨long, stops⟩
  · rintro ⟨long, rfl⟩
    rcases exists_of_not_fits long with ⟨string, rfl, tooLong⟩
    rw [emission, if_neg tooLong]
    exact Emission.stops_cons_overlong.mpr rfl

theorem account_describes (entry : Entry) : entry.account.Describes entry.emission where
  writes_iff := writes_emission
  stops_iff := by simp [stops_emission, account, Account.checked]

theorem trimmed_of_fits {entry : Entry} (fits : entry.Fits) : entry.trimmed = entry := by
  cases entry with
  | utf8 string => exact if_pos (fits rfl)
  | _ => rfl

theorem account_trims (entry : Entry) : entry.account.Trims entry.trimmed.account := by
  by_cases fits : entry.Fits
  · rw [trimmed_of_fits fits]
    exact Account.trims_checked fits _ _
  · rcases exists_of_not_fits fits with ⟨string, rfl, tooLong⟩
    rw [trimmed, if_neg tooLong]
    refine Account.trims_empty (fun _ => Nat.zero_lt_succ _) fits ?_
    rintro _ _ ⟨_, rfl, rfl⟩
    exact ⟨rfl, [], rfl⟩

end Entry

namespace ConstantPool

/-- The account of a constant pool. -/
def account (pool : ConstantPool) : Account :=
  (Account.fixed (Bytes.ofUInt16 pool.count)).seq (.sequence (pool.constants.map Entry.account))

/-- A constant pool whose strings have been emptied if they are too long. -/
def trimmed (pool : ConstantPool) : ConstantPool :=
  ⟨pool.slots.map fun
    | .filled entry => .filled entry.trimmed
    | .reserved => .reserved⟩

theorem count_trimmed (pool : ConstantPool) : pool.trimmed.count = pool.count := by
  rw [count, trimmed, Array.size_map, count]

theorem constants_trimmed (pool : ConstantPool) :
    pool.trimmed.constants = pool.constants.map Entry.trimmed := by
  rw [constants, trimmed, Array.toList_map, List.filterMap_map, constants, List.map_filterMap]
  apply List.filterMap_congr
  rintro slot _
  cases slot <;> rfl

theorem account_describes (pool : ConstantPool) : pool.account.Describes pool.emission :=
  (Account.describes_word16 pool.count).seq
    (Account.describes_sequence Entry.account_describes pool.constants)

theorem account_trims (pool : ConstantPool) : pool.account.Trims pool.trimmed.account := by
  rw [account, account, count_trimmed, constants_trimmed]
  exact (Account.trims_fixed _).seq (Account.trims_sequence Entry.account_trims pool.constants)

theorem account_fits_iff {pool : ConstantPool} :
    pool.account.Fits ↔
      ∀ string, .filled (.utf8 string) ∈ pool.slots → string.bytes.length < 0x10000 := by
  have constants_fit : pool.account.Fits ↔ ∀ entry ∈ pool.constants, entry.Fits := by
    simp [account, Account.seq, Account.fixed, Account.sequence_fits_iff, Entry.account,
      Account.checked]
  rw [constants_fit]
  constructor
  · intro fit string mem
    have isConstant : .utf8 string ∈ pool.constants :=
      List.mem_filterMap.mpr ⟨_, Array.mem_toList_iff.mpr mem, rfl⟩
    exact fit (.utf8 string) isConstant rfl
  · intro short entry isConstant
    by_contra long
    rcases Entry.exists_of_not_fits long with ⟨string, rfl, tooLong⟩
    rcases List.mem_filterMap.mp isConstant with ⟨slot, mem, filled⟩
    cases slot with
    | reserved => cases filled
    | filled entry =>
        cases filled
        exact tooLong (short string (Array.mem_toList_iff.mp mem))

end ConstantPool

namespace Attribute

/-- The account of an attribute. -/
def account (item : Attribute) : Account :=
  (Account.fixed (Bytes.ofUInt16 item.nameIndex)).seq
    ((Account.length32 item.payload.length).seq (.fixed item.payload))

/-- An attribute whose payload has been emptied if it is too long. -/
def trimmed (item : Attribute) : Attribute :=
  if item.payload.length < 0x100000000 then item else { item with payload := [] }

theorem account_describes (item : Attribute) : item.account.Describes item.emission := by
  rw [emission, List.append_assoc]
  exact (Account.describes_word16 _).seq
    ((Account.describes_length32 _).seq (Account.describes_fixed _))

theorem account_trims (item : Attribute) : item.account.Trims item.trimmed.account := by
  unfold trimmed
  by_cases short : item.payload.length < 0x100000000
  · rw [if_pos short]
    exact (Account.trims_fixed _).seq
      ((Account.trims_checked short _ _).seq (Account.trims_fixed _))
  · rw [if_neg short]
    refine (Account.trims_fixed _).seq
      (Account.trims_empty ⟨Nat.zero_lt_succ _, trivial⟩ (fun fits => short fits.1) ?_)
    rintro _ _ (⟨_, rfl, rfl⟩ | ⟨fits, _⟩)
    · exact ⟨rfl, [], congrArg (· ++ []) Account.bytes_length32_zero⟩
    · exact absurd fits short

theorem account_fits_iff {item : Attribute} :
    item.account.Fits ↔ item.payload.length < 0x100000000 := by
  simp [account, Account.seq, Account.fixed, Account.length32, Account.checked]

end Attribute

namespace Member

/-- The account of a member. -/
def account (member : Member) : Account :=
  (Account.fixed (Bytes.ofUInt16 member.accessFlags)).seq
      (.fixed (Bytes.ofUInt16 member.nameIndex))
    |>.seq (.fixed (Bytes.ofUInt16 member.descriptorIndex))
    |>.seq (.table (member.attributes.map Attribute.account))

/-- A member whose attributes have been emptied if they are too many or too long. -/
def trimmed (member : Member) : Member :=
  { member with attributes := trimmedTable Attribute.trimmed member.attributes }

theorem account_describes (member : Member) : member.account.Describes member.emission :=
  ((Account.describes_word16 _).seq (Account.describes_word16 _)).seq (Account.describes_word16 _)
    |>.seq (Account.describes_table Attribute.account_describes _)

theorem account_trims (member : Member) : member.account.Trims member.trimmed.account :=
  ((Account.trims_fixed _).seq (Account.trims_fixed _)).seq (Account.trims_fixed _)
    |>.seq (Account.trims_table Attribute.account_trims _)

theorem account_fits_iff {member : Member} :
    member.account.Fits ↔ member.attributes.length < 0x10000 ∧
      ∀ item ∈ member.attributes, item.payload.length < 0x100000000 := by
  have attributes_fit : member.account.Fits ↔
      (Account.table (member.attributes.map Attribute.account)).Fits := by
    simp [account, Account.seq, Account.fixed]
  simp only [attributes_fit, Account.table_fits_iff, List.length_map, List.forall_mem_map,
    Attribute.account_fits_iff]

end Member

namespace ClassFile

/-- The account of a class file. -/
def account (file : ClassFile) : Account :=
  (Account.fixed (Bytes.ofUInt32 magic)).seq (.fixed (Bytes.ofUInt16 file.minorVersion))
    |>.seq (.fixed (Bytes.ofUInt16 file.majorVersion))
    |>.seq file.pool.account
    |>.seq (.fixed (Bytes.ofUInt16 file.accessFlags))
    |>.seq (.fixed (Bytes.ofUInt16 file.thisClass))
    |>.seq (.fixed (Bytes.ofUInt16 file.superClass))
    |>.seq (.table (file.interfaces.map fun index => .fixed (Bytes.ofUInt16 index)))
    |>.seq (.table (file.fields.map Member.account))
    |>.seq (.table (file.methods.map Member.account))
    |>.seq (.table (file.attributes.map Attribute.account))

/-- A class file in which every string, payload and table has been emptied that is too long. -/
def trimmed (file : ClassFile) : ClassFile :=
  { file with
    pool := file.pool.trimmed
    interfaces := trimmedTable id file.interfaces
    fields := trimmedTable Member.trimmed file.fields
    methods := trimmedTable Member.trimmed file.methods
    attributes := trimmedTable Attribute.trimmed file.attributes }

theorem account_describes (file : ClassFile) : file.account.Describes file.emission :=
  ((Account.describes_fixed _).seq (Account.describes_word16 _)).seq (Account.describes_word16 _)
    |>.seq file.pool.account_describes
    |>.seq (Account.describes_word16 _)
    |>.seq (Account.describes_word16 _)
    |>.seq (Account.describes_word16 _)
    |>.seq (Account.describes_table Account.describes_word16 _)
    |>.seq (Account.describes_table Member.account_describes _)
    |>.seq (Account.describes_table Member.account_describes _)
    |>.seq (Account.describes_table Attribute.account_describes _)

theorem account_trims (file : ClassFile) : file.account.Trims file.trimmed.account :=
  ((Account.trims_fixed _).seq (Account.trims_fixed _)).seq (Account.trims_fixed _)
    |>.seq file.pool.account_trims
    |>.seq (Account.trims_fixed _)
    |>.seq (Account.trims_fixed _)
    |>.seq (Account.trims_fixed _)
    |>.seq (Account.trims_table (fun _ => Account.trims_fixed _) _)
    |>.seq (Account.trims_table Member.account_trims _)
    |>.seq (Account.trims_table Member.account_trims _)
    |>.seq (Account.trims_table Attribute.account_trims _)

/-- All lengths of a class file fit their fields. -/
structure LengthsFit (file : ClassFile) : Prop where
  strings : ∀ string, .filled (.utf8 string) ∈ file.pool.slots → string.bytes.length ≤ 65535
  interfaces : file.interfaces.length ≤ 65535
  fields : file.fields.length ≤ 65535
  methods : file.methods.length ≤ 65535
  attributes : file.attributes.length ≤ 65535
  memberAttributes : ∀ member ∈ file.fields ++ file.methods, member.attributes.length ≤ 65535
  payloads : ∀ item ∈ file.attributes ++ (file.fields ++ file.methods).flatMap Member.attributes,
    item.payload.length ≤ 2 ^ 32 - 1

/-- A class file fits exactly if all its lengths do. -/
theorem account_fits_iff {file : ClassFile} : file.account.Fits ↔ file.LengthsFit := by
  have tables : file.account.Fits ↔
      file.pool.account.Fits ∧
        (Account.table (file.interfaces.map fun index => .fixed (Bytes.ofUInt16 index))).Fits ∧
        (Account.table (file.fields.map Member.account)).Fits ∧
        (Account.table (file.methods.map Member.account)).Fits ∧
        (Account.table (file.attributes.map Attribute.account)).Fits := by
    simp [account, Account.seq, Account.fixed, and_assoc]
  simp only [tables, Account.table_fits_iff, List.length_map, List.forall_mem_map,
    ConstantPool.account_fits_iff, Member.account_fits_iff, Attribute.account_fits_iff]
  constructor
  · rintro ⟨strings, ⟨interfaces, _⟩, ⟨fields, inFields⟩, ⟨methods, inMethods⟩, attributes,
      inAttributes⟩
    have members : ∀ member ∈ file.fields ++ file.methods, member.attributes.length < 0x10000 ∧
        ∀ item ∈ member.attributes, item.payload.length < 0x100000000 :=
      List.forall_mem_append.mpr ⟨inFields, inMethods⟩
    have payloads : ∀ item ∈ file.attributes ++
        (file.fields ++ file.methods).flatMap Member.attributes,
        item.payload.length < 0x100000000 := by
      refine List.forall_mem_append.mpr ⟨inAttributes, fun item mem => ?_⟩
      rcases List.mem_flatMap.mp mem with ⟨member, isMember, isAttribute⟩
      exact (members member isMember).2 item isAttribute
    exact {
      strings := fun string mem => Nat.le_of_lt_succ (strings string mem)
      interfaces := Nat.le_of_lt_succ interfaces
      fields := Nat.le_of_lt_succ fields
      methods := Nat.le_of_lt_succ methods
      attributes := Nat.le_of_lt_succ attributes
      memberAttributes := fun member mem => Nat.le_of_lt_succ (members member mem).1
      payloads := fun item mem => Nat.le_of_lt_succ (payloads item mem) }
  · intro fit
    have members : ∀ member ∈ file.fields ++ file.methods, member.attributes.length < 0x10000 ∧
        ∀ item ∈ member.attributes, item.payload.length < 0x100000000 := by
      refine fun member mem => ⟨Nat.lt_succ_of_le (fit.memberAttributes member mem), ?_⟩
      exact fun item isAttribute => Nat.lt_succ_of_le (fit.payloads item
        (List.mem_append_right _ (List.mem_flatMap.mpr ⟨member, mem, isAttribute⟩)))
    rcases List.forall_mem_append.mp members with ⟨inFields, inMethods⟩
    refine ⟨fun string mem => Nat.lt_succ_of_le (fit.strings string mem),
      ⟨Nat.lt_succ_of_le fit.interfaces, fun _ _ => trivial⟩,
      ⟨Nat.lt_succ_of_le fit.fields, inFields⟩, ⟨Nat.lt_succ_of_le fit.methods, inMethods⟩,
      Nat.lt_succ_of_le fit.attributes, ?_⟩
    exact fun item mem => Nat.lt_succ_of_le (fit.payloads item (List.mem_append_left _ mem))

theorem encode_of_stops {file : ClassFile} {front : Bytes} (stops : file.emission.Stops front) :
    file.encode = .error .lengthOverflow := by
  rw [encode, stops]
  rfl

/-- A class file can be written exactly if all its lengths fit their fields.  Otherwise writing ends
with an overflow in front of the first length that does not fit, and what was written starts the
encoding of the class file in which everything too long has been emptied, up to that length. -/
theorem encode_or_overflow (file : ClassFile) :
    ((∃ bytes, file.encode = .ok bytes) ↔ file.LengthsFit) ∧
      (¬ file.LengthsFit → file.encode = .error .lengthOverflow ∧
        ∃ front field back, file.account.Cut front field ∧
          file.emission.toGrowing = ⟨front, .error .lengthOverflow⟩ ∧
          file.trimmed.encode = .ok (front ++ (field ++ back))) := by
  have describes := file.account_describes
  constructor
  · simp only [encode_eq_ok_iff, describes.writes_iff, ← account_fits_iff]
    exact ⟨fun ⟨_, fits, _⟩ => fits, fun fits => ⟨_, fits, rfl⟩⟩
  · intro long
    rcases file.emission.toGrowing_cases with ⟨bytes, wrote⟩ | ⟨front, stops⟩
    · exact absurd (account_fits_iff.mp (describes.writes_iff.mp wrote).1) long
    · -- The emission stops where the account is cut, and there the emptied file says zero.
      rcases describes.stops_iff.mp stops with ⟨field, cut⟩
      rcases file.account_trims.starts cut with ⟨back, bytes_eq⟩
      refine ⟨encode_of_stops stops, front, field, back, cut,
        stops, ?_⟩
      rw [encode_eq_ok_iff, file.trimmed.account_describes.writes_iff]
      exact ⟨file.account_trims.fits, bytes_eq.symm⟩

theorem encode_or_overflow_sample :
    let long (payload : Bytes) := { Document.sampleFile with attributes := [⟨3, payload⟩] }
    let file := long (List.replicate (2 ^ 32) 0)
    Document.sampleFile.LengthsFit ∧ ¬ file.LengthsFit ∧ file.encode = .error .lengthOverflow ∧
      ∃ front field back, file.account.Cut front field ∧
        file.emission.toGrowing = ⟨front, .error .lengthOverflow⟩ ∧
        (long []).encode = .ok (front ++ (field ++ back)) := by
  intro long file
  have tooLong : ¬ file.LengthsFit := by
    intro fit
    have short := fit.payloads ⟨3, List.replicate (2 ^ 32) 0⟩
      (List.mem_append_left _ (List.mem_singleton_self _))
    -- The bytes themselves must not be evaluated.
    rw [List.length_replicate] at short
    exact absurd short (by decide)
  have emptied : file.trimmed = long [] := by
    have payload : Attribute.trimmed ⟨3, List.replicate (2 ^ 32) 0⟩ = ⟨3, []⟩ := by
      rw [Attribute.trimmed, if_neg]
      rw [List.length_replicate]
      decide
    have kept : Document.sampleFile.trimmed = Document.sampleFile := by decide +kernel
    calc file.trimmed
        = { Document.sampleFile.trimmed with
            attributes := [Attribute.trimmed ⟨3, List.replicate (2 ^ 32) 0⟩] } := rfl
      _ = long [] := by rw [kept, payload]
  refine ⟨(encode_or_overflow Document.sampleFile).1.mp ⟨_, rfl⟩, tooLong, ?_⟩
  rw [← emptied]
  exact (encode_or_overflow file).2 tooLong

end ClassFile

end ClassFormat
