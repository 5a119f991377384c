import ClassFormat.Event

/-!
# Open class files

A document is a class file with an identity.  Opening one from bytes uses up an identity as soon
as a class file has been read completely, also if it is then refused for what follows it.
-/

namespace ClassFormat

/-- An open class file. -/
structure Document where
  identity : Identity
  file : ClassFile
deriving DecidableEq

namespace ClassFile

/-- The events of reading: one for each part of the class file that is reached. -/
def milestones (bytes : Bytes) : List Event :=
  match Prologue.decoder bytes with
  | .error _ _ => []
  | .ok prologue rest =>
      .readingPool prologue.poolCount ::
        match (do let _ ← ConstantPool.decoder prologue.poolCount; Heading.decoder) rest with
        | .error _ _ => []
        | .ok _ rest =>
            .readingFields ::
              match Decoder.table Member.decoder rest with
              | .error _ _ => []
              | .ok _ _ => [.readingMethods]

end ClassFile

/-- The outcome of opening a class file. -/
structure Opened where
  result : Except DecodeError Document
  /-- The first identity that is still unused. -/
  next : Identity
  events : List Event

namespace Document

/-- The event of having opened a class file. -/
def decodedEvent (document : Document) : Event :=
  .decoded document.identity document.file.version document.file.pool.entryCount
    document.file.fields.length document.file.methods.length

/-- Open a class file, with `fresh` as the first unused identity. -/
def parse (fresh : Identity) (trailing : TrailingData) (bytes : Bytes) : Opened :=
  let passed := ClassFile.milestones bytes
  match ClassFile.decoder bytes with
  | .error error _ => ⟨.error error, fresh, passed ++ [.rejected error]⟩
  | .ok file rest =>
      let document : Document := ⟨fresh, file⟩
      let count := rest.length
      if count = 0 then ⟨.ok document, fresh.next, passed ++ [document.decodedEvent]⟩
      else
        match trailing with
        | .reject =>
            ⟨.error (.trailingBytes count), fresh.next, passed ++ [.rejectedTrailing count]⟩
        | .ignore =>
            ⟨.ok document, fresh.next,
              passed ++ [.ignoredTrailing count, document.decodedEvent]⟩

/-- Opening a class file gives the content that decoding gives. -/
theorem map_file_parse (fresh : Identity) (trailing : TrailingData) (bytes : Bytes) :
    (parse fresh trailing bytes).result.map Document.file = ClassFile.decode trailing bytes := by
  unfold parse ClassFile.decode
  cases ClassFile.decoder bytes with
  | error error rest => rfl
  | ok file rest =>
      cases rest with
      | nil => rfl
      | cons byte rest => cases trailing <;> rfl

/-- A copy with an identity of its own. -/
def clone (fresh : Identity) (document : Document) : Document :=
  { document with identity := fresh }

/-- The events of writing a class file. -/
def encodingEvents (document : Document) : List Event :=
  [.encoding document.identity]

end Document

end ClassFormat
