import ClassFormat.Bytes

/-!
# Where files come from

A path stands for itself, or for the class files below it if it leads to a directory.  What a path
leads to is asked of a source of files.  Asking may have effects, so that the files of a system and
those of a tree in memory are searched by the same program (`FileSource.classFilesIn`).
-/

namespace ClassFormat

/-- Why a file cannot be read. -/
inductive FileError where
  | notFound
  | notDirectory
  | other (reason : String)
deriving DecidableEq, Repr

/-- The wording of the error. -/
def FileError.message : FileError → String
  | .notFound => "No such file or directory (os error 2)"
  | .notDirectory => "Not a directory (os error 20)"
  | .other reason => reason

/-! ## Paths -/

namespace Path

/-- The path of a name in a directory. -/
def join (path name : String) : String :=
  if path.endsWith "/" then path ++ name else path ++ "/" ++ name

/-- The last name of a path.  Both are read from their ends, and slashes behind the name are passed
over, with a dot behind each or without. -/
def lastName : List Char → List Char
  | '/' :: path => lastName path
  | '.' :: '/' :: path => lastName path
  | ['.'] => []
  | path => path.takeWhile (· != '/')

/-- The extension of a name: what follows the last dot.  Both are read from their ends.  A dot in
front of the name starts no extension, and two dots alone have none. -/
def extensionOf (name : List Char) : Option (List Char) :=
  match name.dropWhile (· != '.') with
  | _ :: _ :: _ => if name = ['.', '.'] then none else some (name.takeWhile (· != '.'))
  | _ => none

/-- The extension of a path is that of its last name. -/
def extension? (path : String) : Option String :=
  (extensionOf (lastName path.toList.reverse)).map fun extension =>
    String.ofList extension.reverse

end Path

/-! ## Directories -/

/-- A file, a directory or something else that the search of a directory comes to. -/
structure WalkEntry where
  path : String
  /-- It is a regular file. -/
  isFile : Bool
deriving DecidableEq, Repr

/-- Whether a search is to collect the entry. -/
def WalkEntry.isClassFile (entry : WalkEntry) : Bool :=
  entry.isFile && Path.extension? entry.path == some "class"

/-- What can be asked about files. -/
structure FileSource (m : Type → Type) where
  /-- Whether a path leads to a directory. -/
  isDirectory : String → m Bool
  /-- What the search of a directory comes to, in order.  It may come to things that it cannot look
  into, and each of them gives the reason. -/
  walk : String → m (List (Except String WalkEntry))
  /-- The content of a file. -/
  read : String → m (Except FileError Bytes)

namespace FileSource

/-- Collect class files, behind those that were found already.  An error ends the search, and what
was found before it is lost. -/
def collect (found : Array String) :
    List (Except String WalkEntry) → Except String (List String)
  | [] => .ok found.toList
  | .error reason :: _ => .error reason
  | .ok entry :: entries =>
      collect (if entry.isClassFile then found.push entry.path else found) entries

variable {m : Type → Type} [Monad m]

/-- The files that a path stands for: the class files below a directory, or the path itself. -/
def classFilesIn (source : FileSource m) (path : String) : m (Except String (List String)) := do
  if ← source.isDirectory path then
    return collect #[] (← source.walk path)
  else
    return .ok [path]

end FileSource

end ClassFormat
