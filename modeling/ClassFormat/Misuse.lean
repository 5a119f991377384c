import ClassFormat.Constant.Kind
import ClassFormat.Handle

/-!
# Misuse

Following an index that leads nowhere, or using a handle with a class file it was not taken from,
is a mistake of the caller and not a fault of the input.
-/

namespace ClassFormat

/-- A mistake of the caller. -/
inductive Misuse where
  /-- The handle was taken from another class file. -/
  | foreign (owner identity : Identity)
  /-- The constant is not of the expected kind. -/
  | wrongKind (index : UInt16) (found expected : Kind)
  /-- There is no constant where one of the expected kind should be. -/
  | missingConstant (index : UInt16) (expected : Kind)
  /-- The table has no member at the position. -/
  | missingMember (table : MemberTable) (position : Nat) (identity : Identity)
deriving DecidableEq, Repr

/-- The wording of a mistake. -/
def Misuse.message : Misuse → String
  | .foreign owner identity =>
      s!"can not combine values from different class files: {owner.display} is used with " ++
        identity.display
  | .wrongKind index found expected =>
      s!"constant #{index.toNat} is a {found.constantName} where a " ++
        s!"{expected.constantName} is expected"
  | .missingConstant index expected =>
      s!"constant #{index.toNat} does not exist where a {expected.constantName} is expected"
  | .missingMember table position identity =>
      s!"{table.name} #{position} does not exist in {identity.display}"

end ClassFormat
