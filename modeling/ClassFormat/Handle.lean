import ClassFormat.ClassFile.Member

/-!
# Identities and handles

Every class file that is opened gets an identity of its own, even if its content equals that of
another.  A handle names a constant or a member together with the identity of the class file it
was taken from, since an index means nothing in another one.
-/

namespace ClassFormat

/-- The identity of an open class file. -/
structure Identity where
  number : Nat
deriving DecidableEq, Repr

namespace Identity

/-- The identity as it is displayed. -/
def display (identity : Identity) : String :=
  s!"class file #{identity.number}"

/-- The identity given out after this one. -/
def next (identity : Identity) : Identity :=
  ⟨identity.number + 1⟩

end Identity

/-- Names a class constant of a class file. -/
structure ClassHandle where
  owner : Identity
  index : UInt16
deriving DecidableEq, Repr

/-- Names a string constant of a class file. -/
structure Utf8Handle where
  owner : Identity
  index : UInt16
deriving DecidableEq, Repr

/-- Names a field or a method of a class file. -/
structure MemberHandle where
  owner : Identity
  table : MemberTable
  position : Nat
deriving DecidableEq, Repr

/-- A handle of any sort. -/
inductive Handle where
  | classRef (handle : ClassHandle)
  | utf8 (handle : Utf8Handle)
  | member (handle : MemberHandle)
deriving DecidableEq, Repr

/-- The class file a handle was taken from. -/
def Handle.owner : Handle → Identity
  | .classRef handle => handle.owner
  | .utf8 handle => handle.owner
  | .member handle => handle.owner

end ClassFormat
