import ClassFormat.Text.Hex

/-!
# Access flags

Access flags are a mask of 16 bits.  What a bit means depends on what the mask belongs to, and
some bits mean nothing there; those are kept and displayed as a number.

Setting or clearing flags touches exactly the bits that are named (`AccessFlags.set`).
-/

namespace ClassFormat

/-- What a mask of access flags belongs to. -/
inductive FlagContext where
  | classFile
  | field
  | method
deriving DecidableEq, Repr

/-- A bit with a meaning. -/
structure NamedFlag where
  /-- The name of the bit. -/
  name : String
  mask : UInt16
  /-- The word under which the bit can be asked for and set, if there is one. -/
  keyword : Option String
deriving DecidableEq, Repr

namespace FlagContext

/-- The bits that have a meaning in a context, in order. -/
def flags : FlagContext → List NamedFlag
  | .classFile =>
      [⟨"PUBLIC", 0x0001, some "public"⟩, ⟨"PRIVATE", 0x0002, none⟩,
        ⟨"FINAL", 0x0010, some "final"⟩, ⟨"SUPER", 0x0020, some "super"⟩,
        ⟨"INTERFACE", 0x0200, some "interface"⟩, ⟨"ABSTRACT", 0x0400, some "abstract"⟩,
        ⟨"SYNTHETIC", 0x1000, some "synthetic"⟩, ⟨"ANNOTATION", 0x2000, some "annotation"⟩,
        ⟨"ENUM", 0x4000, some "enum"⟩, ⟨"MODULE", 0x8000, some "module"⟩]
  | .field =>
      [⟨"PUBLIC", 0x0001, some "public"⟩, ⟨"PRIVATE", 0x0002, some "private"⟩,
        ⟨"PROTECTED", 0x0004, some "protected"⟩, ⟨"STATIC", 0x0008, some "static"⟩,
        ⟨"FINAL", 0x0010, some "final"⟩, ⟨"VOLATILE", 0x0040, some "volatile"⟩,
        ⟨"TRANSIENT", 0x0080, some "transient"⟩, ⟨"SYNTHETIC", 0x1000, some "synthetic"⟩,
        ⟨"ENUM", 0x4000, some "enum"⟩]
  | .method =>
      [⟨"PUBLIC", 0x0001, some "public"⟩, ⟨"PRIVATE", 0x0002, some "private"⟩,
        ⟨"PROTECTED", 0x0004, some "protected"⟩, ⟨"STATIC", 0x0008, some "static"⟩,
        ⟨"FINAL", 0x0010, some "final"⟩, ⟨"SYNCHRONIZED", 0x0020, some "synchronized"⟩,
        ⟨"BRIDGE", 0x0040, some "bridge"⟩, ⟨"VARARGS", 0x0080, some "varargs"⟩,
        ⟨"NATIVE", 0x0100, some "native"⟩, ⟨"ABSTRACT", 0x0400, some "abstract"⟩,
        ⟨"STRICT", 0x0800, some "strict"⟩, ⟨"SYNTHETIC", 0x1000, some "synthetic"⟩]

/-- The bit with a given keyword. -/
def maskOf? (context : FlagContext) (keyword : String) : Option UInt16 :=
  (context.flags.find? fun flag => flag.keyword == some keyword).map NamedFlag.mask

/-- All the bits that have a meaning. -/
def known (context : FlagContext) : UInt16 :=
  context.flags.foldl (fun bits flag => bits ||| flag.mask) 0

end FlagContext

namespace AccessFlags

/-- Whether every bit of `mask` is set. -/
def contains (bits mask : UInt16) : Bool :=
  bits &&& mask == mask

/-- Set or clear the bits of `mask`. -/
def set (bits mask : UInt16) (value : Bool) : UInt16 :=
  if value then bits ||| mask else bits &&& ~~~mask

/-- The flags of a context that are set. -/
def present (context : FlagContext) (bits : UInt16) : List NamedFlag :=
  context.flags.filter fun flag => contains bits flag.mask

/-- The names of the flags that are set. -/
def names (context : FlagContext) (bits : UInt16) : List String :=
  (present context bits).map NamedFlag.name

/-- The keywords of the flags that are set. -/
def keywords (context : FlagContext) (bits : UInt16) : List String :=
  (present context bits).filterMap NamedFlag.keyword

/-- The bits that mean nothing in a context. -/
def unknown (context : FlagContext) (bits : UInt16) : UInt16 :=
  bits &&& ~~~context.known

/-- The names of the flags that are set and, behind them, the unknown bits as a number. -/
def display (context : FlagContext) (bits : UInt16) : String :=
  let rest := unknown context bits
  let number := if rest = 0 then [] else ["0x" ++ Text.lowerHex 4 rest.toNat]
  " ".intercalate (names context bits ++ number)

end AccessFlags

/-- A use of a mask that can be written. -/
inductive FlagStep where
  /-- Set or clear bits. -/
  | set (mask : UInt16) (value : Bool)
  /-- Ask whether bits are set. -/
  | contains (mask : UInt16)
deriving DecidableEq, Repr

/-- What a use of a mask shows: the mask after it and, if it asked, the answer. -/
structure FlagReport where
  bits : UInt16
  contains : Option Bool
deriving DecidableEq, Repr

namespace FlagStep

/-- The mask after a step. -/
def apply (bits : UInt16) : FlagStep → UInt16
  | .set mask value => AccessFlags.set bits mask value
  | .contains _ => bits

/-- What a step shows. -/
def report (bits : UInt16) (step : FlagStep) : FlagReport where
  bits := step.apply bits
  contains :=
    match step with
    | .set _ _ => none
    | .contains mask => some (AccessFlags.contains bits mask)

/-- The mask after a list of steps. -/
def applyAll (bits : UInt16) (steps : List FlagStep) : UInt16 :=
  steps.foldl apply bits

/-- What each of a list of steps shows. -/
def reports (bits : UInt16) : List FlagStep → List FlagReport
  | [] => []
  | step :: steps => step.report bits :: reports (step.apply bits) steps

/-- The mask before and after each step that sets or clears bits. -/
def updates (bits : UInt16) : List FlagStep → List (UInt16 × UInt16)
  | [] => []
  | .set mask value :: steps =>
      let after := AccessFlags.set bits mask value
      (bits, after) :: updates after steps
  | .contains _ :: steps => updates bits steps

end FlagStep

end ClassFormat
