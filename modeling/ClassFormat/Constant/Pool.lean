import ClassFormat.Constant.Entry

/-!
# The constant pool

The constants of a class file are addressed by slots.  Slot 0 is reserved, and so is the slot
behind a constant that takes two.  The stored count of a pool is its number of slots, which has
to fit 16 bits.

`ConstantPool.entries` lists the constants with their indices; every other operation can be told
by what it does to that list.
-/

namespace ClassFormat

/-- A slot of the constant pool. -/
inductive Slot where
  /-- The first slot of a constant. -/
  | filled (entry : Entry)
  /-- A slot that cannot be addressed. -/
  | reserved
deriving DecidableEq

/-- The constant of a slot. -/
def Slot.entry? : Slot → Option Entry
  | .filled entry => some entry
  | .reserved => none

/-- The slots of a class file's constants. -/
structure ConstantPool where
  slots : Array Slot
deriving DecidableEq

/-- The pool has no slot left for another constant. -/
structure PoolFull where
deriving DecidableEq, Repr

/-- The wording of the error. -/
def PoolFull.message (_ : PoolFull) : String :=
  "The constant pool is full"

/-- Why a constant cannot be replaced. -/
inductive ReplaceError where
  /-- There is no constant at the index. -/
  | noSuchEntry (index : UInt16)
  /-- The replacement takes another number of slots. -/
  | widthMismatch (index : UInt16) (current replacement : Kind)
deriving DecidableEq, Repr

/-- The wording of the error. -/
def ReplaceError.message : ReplaceError → String
  | .noSuchEntry index => s!"constant #{index.toNat} does not exist"
  | .widthMismatch index current replacement =>
      s!"constant #{index.toNat} is a {current.constantName} and can not be replaced " ++
        s!"with a {replacement.constantName}"

namespace ConstantPool

/-- The pool without constants. -/
def empty : ConstantPool :=
  ⟨#[.reserved]⟩

/-- The count of a pool as it is stored: its number of slots. -/
def count (pool : ConstantPool) : UInt16 :=
  pool.slots.size.toUInt16

/-- The slot at an index. -/
def slot? (pool : ConstantPool) (index : UInt16) : Option Slot :=
  pool.slots[index.toNat]?

/-- The constant at an index. -/
def get? (pool : ConstantPool) (index : UInt16) : Option Entry :=
  (pool.slot? index).bind Slot.entry?

/-- Whether an index addresses a reserved slot. -/
def isReserved (pool : ConstantPool) (index : UInt16) : Bool :=
  pool.slot? index == some .reserved

/-- The constants with their indices, in order. -/
def entries (pool : ConstantPool) : List (UInt16 × Entry) :=
  pool.slots.toList.zipIdx.filterMap fun (slot, index) =>
    slot.entry?.map fun entry => (index.toUInt16, entry)

/-- The number of constants. -/
def entryCount (pool : ConstantPool) : Nat :=
  pool.entries.length

/-- Whether the pool has no constant. -/
def isEmpty (pool : ConstantPool) : Bool :=
  pool.slots.size ≤ 1

/-- Append a constant. -/
def append (pool : ConstantPool) (entry : Entry) : ConstantPool :=
  let slots := pool.slots.push (.filled entry)
  ⟨if entry.isWide then slots.push .reserved else slots⟩

/-- Whether another constant leaves the count within 16 bits. -/
def hasRoom (pool : ConstantPool) (entry : Entry) : Bool :=
  pool.slots.size + entry.width < 0x10000

/-- Append a constant and return its index. -/
@[inline]
def push (pool : ConstantPool) (entry : Entry) : Except PoolFull (UInt16 × ConstantPool) :=
  if pool.hasRoom entry then .ok (pool.count, pool.append entry) else .error {}

/-- Store a constant in a slot that exists. -/
def set (pool : ConstantPool) (index : UInt16) (entry : Entry) : ConstantPool :=
  ⟨pool.slots.setIfInBounds index.toNat (.filled entry)⟩

/-- Replace a constant by one of the same width and return the old one. -/
def replace (pool : ConstantPool) (index : UInt16) (entry : Entry) :
    Except ReplaceError (Entry × ConstantPool) :=
  match pool.get? index with
  | none => .error (.noSuchEntry index)
  | some current =>
      if current.isWide = entry.isWide then .ok (current, pool.set index entry)
      else .error (.widthMismatch index current.kind entry.kind)

/-- The least index of a given constant. -/
def indexOf? (pool : ConstantPool) (entry : Entry) : Option UInt16 :=
  (pool.entries.find? fun candidate => candidate.2 == entry).map (·.1)

/-- The least index of a string constant with a given text. -/
def findUtf8? (pool : ConstantPool) (text : String) : Option UInt16 :=
  pool.indexOf? (.utf8 (.ofString text))

/-- The least index of a class constant with a given name index. -/
def findClass? (pool : ConstantPool) (nameIndex : UInt16) : Option UInt16 :=
  pool.indexOf? (.classRef nameIndex)

/-- Read constants into the slots that are still to be filled. -/
def fill : (left : Nat) → ConstantPool → Decoder ConstantPool
  | 0, pool, input => .ok pool input
  | left + 1, pool, input =>
      match Entry.decoder input with
      | .error error rest => .error error rest
      | .ok entry rest =>
          if entry.isWide then
            match left with
            | 0 => .error (.malformed .wideOverflow) rest
            | left + 1 => fill left (pool.append entry) rest
          else fill left (pool.append entry) rest

/-- Read a pool whose count has been read. -/
def decoder (count : UInt16) : Decoder ConstantPool :=
  if count = 0 then throw (.malformed .emptyCount) else fill (count.toNat - 1) empty

/-- Write a pool: its count and its constants. -/
def emission (pool : ConstantPool) : Emission :=
  Emission.word16 pool.count ++ (pool.slots.toList.filterMap Slot.entry?).flatMap Entry.emission

end ConstantPool

end ClassFormat
