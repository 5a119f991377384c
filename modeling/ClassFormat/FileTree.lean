import ClassFormat.Batch

/-!
# File trees

A tree of files and directories below a working directory.  A path is followed part by part: an
empty part or a dot stays, two dots go up, and every part but the last has to be a directory.

Directories are searched depth first with their entries in order.  That is the order of the paths
as lists of names, so what is below a directory is found by sorting.
-/

namespace ClassFormat

/-- A file or a directory. -/
inductive FileNode where
  | file (content : Bytes)
  | directory

/-- The nodes below a working directory, by the names that lead to them. -/
structure FileTree where
  nodes : List (List String × FileNode)

/-- Where a path leads. -/
inductive Location where
  | file (content : Bytes)
  | directory (names : List String)
  | missing
  /-- The path goes on behind a file. -/
  | behindFile

namespace FileTree

/-- The working directory alone. -/
def empty : FileTree :=
  ⟨[([], .directory)]⟩

/-- The node that names lead to. -/
def node? (tree : FileTree) (names : List String) : Option FileNode :=
  tree.nodes.lookup names

/-- Make a directory, if nothing is there yet. -/
def makeDirectory (tree : FileTree) (names : List String) : FileTree :=
  if (tree.node? names).isSome then tree else ⟨(names, .directory) :: tree.nodes⟩

/-- Make a directory with all those above it. -/
def makeDirectories (tree : FileTree) (names : List String) : FileTree :=
  (List.range (names.length + 1)).foldl (fun tree depth => tree.makeDirectory (names.take depth))
    tree

/-- Write a file, with all the directories above it. -/
def writeFile (tree : FileTree) (names : List String) (content : Bytes) : FileTree :=
  let tree := tree.makeDirectories names.dropLast
  ⟨(names, .file content) :: tree.nodes.filter (·.1 != names)⟩

/-- The names in a path. -/
def namesOf (path : String) : List String :=
  (path.splitOn "/").filter fun part => part != "" && part != "."

/-- Follow the parts of a path from a node. -/
def follow (tree : FileTree) (names : List String) : List String → Location
  | [] =>
      match tree.node? names with
      | none => .missing
      | some (.file content) => .file content
      | some .directory => .directory names
  | part :: parts =>
      match tree.node? names with
      | none => .missing
      | some (.file _) => .behindFile
      | some .directory =>
          if part = "" || part = "." then tree.follow names parts
          else if part = ".." then
            if names.isEmpty then .missing else tree.follow names.dropLast parts
          else tree.follow (names ++ [part]) parts

/-- Where a path leads.  An absolute path leads out of the tree. -/
def locate (tree : FileTree) (path : String) : Location :=
  if path = "" || path.startsWith "/" then .missing else tree.follow [] (path.splitOn "/")

/-- What is below a directory, with the names that lead there from it, in order. -/
def below (tree : FileTree) (names : List String) : List (List String × FileNode) :=
  let found := tree.nodes.filterMap fun (path, node) =>
    if names.isPrefixOf path then some (path.drop names.length, node) else none
  found.mergeSort fun left right => !right.1.lex left.1

/-- What the search of a directory comes to, given the path that led to it. -/
def entries (tree : FileTree) (path : String) (names : List String) : List WalkEntry :=
  (tree.below names).map fun (behind, node) =>
    { path := behind.foldl Path.join path
      isFile :=
        match node with
        | .file _ => true
        | .directory => false }

/-- The files of the tree. -/
def source (tree : FileTree) : FileSource Id where
  isDirectory path :=
    match tree.locate path with
    | .directory _ => true
    | _ => false
  walk path :=
    match tree.locate path with
    | .directory names => (tree.entries path names).map .ok
    | _ => []
  read path :=
    match tree.locate path with
    | .file content => .ok content
    | .directory _ => .error (.other "Is a directory (os error 21)")
    | .missing => .error .notFound
    | .behindFile => .error .notDirectory

end FileTree

end ClassFormat
