import ClassFormat.Batch

/-!
# Command line

Prints a summary of each class file that the arguments stand for.  A directory stands for the
class files below it.
-/

namespace ClassFormat.Main

/-- Why a file of the system cannot be read. -/
def fileError : IO.Error → FileError
  | .noFileOrDirectory _ _ _ => .notFound
  | .inappropriateType _ _ _ => .notDirectory
  | error => .other (toString error)

/-- The content of a file. -/
def readFile (path : String) : IO (Except FileError Bytes) := do
  match ← (IO.FS.readBinFile path).toBaseIO with
  | .ok content => return .ok content.toList
  | .error error => return .error (fileError error)

/-- Whether a path leads to a directory. -/
def isDirectory (path : String) : IO Bool := do
  ((← IO.currentDir) / path).isDir

/-- What a path leads to, links not followed. -/
def typeOf (path : String) : IO IO.FS.FileType := do
  return (← ((← IO.currentDir) / path).symlinkMetadata).type

/-- The names in a directory, in order. -/
def namesIn (path : String) : IO (List String) := do
  let entries ← ((← IO.currentDir) / path).readDir
  let names := entries.toList.map (·.fileName)
  return names.mergeSort fun left right => decide (left ≤ right)

/-- What the search of a directory comes to, depth first. -/
partial def walk (path : String) : IO (List (Except String WalkEntry)) := do
  let names ← match ← (namesIn path).toBaseIO with
    | .ok names => pure names
    | .error error => return [.error (toString error)]
  let found ← names.mapM fun name => do
    let path := Path.join path name
    match ← (typeOf path).toBaseIO with
    | .ok .dir => return .ok { path, isFile := false } :: (← walk path)
    | .ok type => return [.ok { path, isFile := type == .file }]
    | .error error => return [.error (toString error)]
  return found.flatten

/-- The files of the system. -/
def source : FileSource IO where
  isDirectory
  walk
  read := readFile

/-- The option that asks for the round trip. -/
def verifyOption : String :=
  "--verify-roundtrip"

end ClassFormat.Main

open ClassFormat ClassFormat.Main in
/-- Print the summaries and, behind them, the errors. -/
def main (arguments : List String) : IO UInt32 := do
  let paths := arguments.filter (· != verifyOption)
  let report ← Batch.run source (arguments.contains verifyOption) paths
  IO.print report.output
  IO.eprint report.errorText
  return report.status.toUInt32
