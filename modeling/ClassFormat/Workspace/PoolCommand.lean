import ClassFormat.Constant.Pool

/-!
# Commands on a constant pool
-/

namespace ClassFormat

/-- A use of a constant pool. -/
inductive PoolCommand where
  /-- Append a constant a number of times. -/
  | push (entry : Entry) (times : Nat)
  | replace (index : UInt16) (entry : Entry)
  /-- Show a slot. -/
  | get (index : UInt16)
  /-- Find a string constant. -/
  | find (text : String)
  /-- Show the sizes. -/
  | sizes
  /-- List the indices of the constants. -/
  | indices
  /-- List the constants. -/
  | list
  | write
  /-- Compare with the pool that is read from bytes. -/
  | compare (count : UInt16) (bytes : Bytes)

/-- What a use of a constant pool shows. -/
inductive PoolAnswer where
  /-- The outcome of the last push, if there was one, and the count after it. -/
  | pushed (last? : Option (Except PoolFull UInt16)) (count : UInt16)
  /-- The constant that was replaced, and the count. -/
  | replaced (old : Entry) (count : UInt16)
  | slot (slot? : Option Slot)
  | found (index? : Option UInt16)
  | sizes (pool : ConstantPool)
  | indices (indices : List UInt16)
  | list (pool : ConstantPool)
  | written (written : Written)
  | compared (equal : Bool)

/-- Why a command on a constant pool failed. -/
inductive PoolFailure where
  | replace (error : ReplaceError)
  | decode (error : DecodeError)

namespace ConstantPool

/-- Append a constant a number of times, and return the last outcome. -/
def pushTimes (entry : Entry) :
    (times : Nat) → ConstantPool → Option (Except PoolFull UInt16) →
      Option (Except PoolFull UInt16) × ConstantPool
  | 0, pool, last? => (last?, pool)
  | times + 1, pool, _ =>
      match pool.push entry with
      | .ok (index, pool) => pushTimes entry times pool (some (.ok index))
      | .error cause => pushTimes entry times pool (some (.error cause))

/-- Perform a command. -/
def perform (pool : ConstantPool) : PoolCommand → Except PoolFailure PoolAnswer × ConstantPool
  | .push entry times =>
      let (last?, pool) := pushTimes entry times pool none
      (.ok (.pushed last? pool.count), pool)
  | .replace index entry =>
      match pool.replace index entry with
      | .ok (old, pool) => (.ok (.replaced old pool.count), pool)
      | .error error => (.error (.replace error), pool)
  | .get index => (.ok (.slot (pool.slot? index)), pool)
  | .find text => (.ok (.found (pool.findUtf8? text)), pool)
  | .sizes => (.ok (.sizes pool), pool)
  | .indices => (.ok (.indices (pool.entries.map (·.1))), pool)
  | .list => (.ok (.list pool), pool)
  | .write => (.ok (.written pool.emission.toGrowing), pool)
  | .compare count bytes =>
      match decoder count bytes with
      | .ok other _ => (.ok (.compared (pool == other)), pool)
      | .error error _ => (.error (.decode error), pool)

end ConstantPool

end ClassFormat
