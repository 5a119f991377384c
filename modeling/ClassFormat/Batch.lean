import ClassFormat.FileSource
import ClassFormat.Summary

/-!
# Summaries of many files

The command takes paths and prints a block for each class file that they stand for.  A file that
cannot be read, decoded or summarized contributes one record to the errors and nothing to the
output, and does not disturb the others.
-/

namespace ClassFormat

/-- Why a path gives no block. -/
inductive BatchError where
  /-- The file cannot be read. -/
  | unreadable (error : FileError)
  /-- The directory cannot be searched. -/
  | untraversable (reason : String)
  /-- The file is no class file. -/
  | undecodable (error : DecodeError)
  /-- The class file cannot be written again. -/
  | unencodable (error : EncodeError)
  /-- The class file has no summary. -/
  | unsummarizable (error : Unresolved)
deriving DecidableEq, Repr

/-- The wording of the error. -/
def BatchError.message : BatchError → String
  | .unreadable error => "I/O error: " ++ error.message
  | .untraversable reason => "Directory traversal error: " ++ reason
  | .undecodable error => "Malformed class file: " ++ error.message
  | .unencodable error => "Failed to re-encode: " ++ error.message
  | .unsummarizable error => "Failed to summarize: " ++ error.message

namespace Batch

/-- The line that says whether writing a class file again gives the same bytes. -/
def roundTripLine (file : ClassFile) (content : Bytes) : Except BatchError String :=
  match file.encode with
  | .error error => .error (.unencodable error)
  | .ok encoded =>
      .ok (if encoded == content then "round trip: identical\n" else "round trip: DIFFERENT\n")

/-- The block of a file. -/
def block (verify : Bool) (path : String) (content : Except FileError Bytes) :
    Except BatchError String := do
  let bytes ← content.mapError .unreadable
  let file ← (ClassFile.decode .reject bytes).mapError .undecodable
  let summary ← file.summary.mapError .unsummarizable
  let roundTrip ← if verify then roundTripLine file bytes else pure ""
  return s!"Classfile {path}\n" ++ summary ++ roundTrip ++ "\n"

/-- What the command prints, and how often it failed. -/
structure Report where
  output : String := ""
  errors : List String := []
  failures : Nat := 0

namespace Report

/-- Print a block. -/
def print (report : Report) (block : String) : Report :=
  { report with output := report.output ++ block }

/-- Write the record of an error. -/
def record (report : Report) (path : String) (error : BatchError) : Report :=
  { report with errors := report.errors ++ [s!"{path}: {error.message}\n"] }

/-- Count a failure. -/
def countFailure (report : Report) : Report :=
  { report with failures := report.failures + 1 }

/-- The text of the error records. -/
def errorText (report : Report) : String :=
  String.join report.errors

/-- The exit status. -/
def status (report : Report) : Nat :=
  if report.failures = 0 then 0 else 1

end Report

variable {m : Type → Type} [Monad m]

/-- Print the block of a file. -/
def addFile (source : FileSource m) (verify : Bool) (report : Report) (path : String) :
    m Report := do
  match block verify path (← source.read path) with
  | .ok block => return report.print block
  | .error error => return (report.record path error).countFailure

/-- Print the blocks of the files that a path stands for. -/
def addPath (source : FileSource m) (verify : Bool) (report : Report) (path : String) :
    m Report := do
  match ← source.classFilesIn path with
  | .ok files => files.foldlM (addFile source verify) report
  | .error reason => return (report.record path (.untraversable reason)).countFailure

/-- The report of a list of paths. -/
def run (source : FileSource m) (verify : Bool) (paths : List String) : m Report :=
  paths.foldlM (addPath source verify) {}

end Batch

end ClassFormat
