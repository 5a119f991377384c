/-!
# Versions of the class file format
-/

namespace ClassFormat

/-- A version of the class file format. -/
structure Version where
  major : UInt16
  minor : UInt16
deriving DecidableEq, Repr

namespace Version

/-- The version as it is displayed. -/
def display (version : Version) : String :=
  s!"{version.major.toNat}.{version.minor.toNat}"

/-- Versions are ordered by the major number and then by the minor one. -/
def compare (left right : Version) : Ordering :=
  (Ord.compare left.major right.major).then (Ord.compare left.minor right.minor)

end Version

end ClassFormat
