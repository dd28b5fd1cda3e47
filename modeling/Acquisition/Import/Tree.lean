import Acquisition.Import.Disk

/-!
# Trees of files

A file system as a tree of folders and files.  A path is walked name by name from the root: a dot
stays, a double dot goes back to the folder above, and nothing lies below a file.

## Main definitions

* `FileTree`, `FileTree.addFolder`, `FileTree.addFile`: trees and how they grow.
* `FileTree.walk`: what a path leads to, or why it leads nowhere.
* `FileTree.disk`: the disk with a tree.
-/

namespace Acquisition

/-- A file, or a folder with named entries. -/
inductive FileTree
  | file (size : UInt64) (lastWrite : Instant)
  | folder (entries : List (String × FileTree))
  deriving Inhabited

namespace FileTree

/-- A folder with nothing in it. -/
def empty : FileTree := .folder []

/-- The entries of a folder; a file has none. -/
def entries : FileTree → List (String × FileTree)
  | .folder entries => entries
  | .file .. => []

/-- The entry with the name. -/
def entry? (tree : FileTree) (name : String) : Option FileTree :=
  (tree.entries.find? (·.1 == name)).map (·.2)

/-- Puts something under the names that lead to it, below folders that are made as needed; what
is a folder there already stays one. -/
def put (tree leaf : FileTree) : List String → FileTree
  | [] =>
    match leaf with
    | .file .. => leaf
    | .folder [] => tree
    | .folder _ => leaf
  | name :: names =>
    let below := put ((tree.entry? name).getD empty) leaf names
    .folder ((tree.entries.filter (·.1 != name)) ++ [(name, below)])

/-- The names that lead to a path; dots of either kind are passed over. -/
def names (path : Path) : List String :=
  path.components.filterMap fun
    | .name text => some text
    | _ => none

/-- Adds a folder at the path, with the folders above it. -/
def addFolder (tree : FileTree) (path : Path) : FileTree := tree.put empty (names path)

/-- Adds a file at the path, with the folders above it. -/
def addFile (tree : FileTree) (path : Path) (size : UInt64) (lastWrite : Instant) : FileTree :=
  tree.put (.file size lastWrite) (names path)

/-- Why a path leads nowhere. -/
inductive Fault
  | notFound
  | notFolder
  | nameTooLong
  | nulInName
  deriving DecidableEq, Repr, Inhabited

/-- The report of the fault. -/
def Fault.message : Fault → String
  | notFound => "No such file or directory (os error 2)"
  | notFolder => "Not a directory (os error 20)"
  | nameTooLong => "File name too long (os error 36)"
  | nulInName => "file name contained an unexpected NUL byte"

/-- Walks the names of a path; `above` holds the folders that were passed, nearest first. -/
def walk (above : List FileTree) (tree : FileTree) : List (List Char) → Except Fault FileTree
  | [] => .ok tree
  | piece :: pieces =>
    match tree with
    | .file .. => .error .notFolder
    | .folder _ =>
      if Path.isIdle piece then walk above tree pieces
      else if piece == ['.', '.'] then
        match above with
        | [] => walk [] tree pieces
        | parent :: above => walk above parent pieces
      else
        let name := String.ofList piece
        if 255 < name.utf8ByteSize then .error .nameTooLong
        else
          match tree.entry? name with
          | none => .error .notFound
          | some below => walk (tree :: above) below pieces

/-- What a path below the root leads to. -/
def find (tree : FileTree) (root path : Path) : Except CollaboratorError FileTree :=
  let below := path.text.toList.drop root.text.length
  let result :=
    if below.contains '\x00' then .error .nulInName
    else walk [] tree (Text.pieces '/' below)
  result.mapError fun fault => .io path fault.message

/-- The names of the files in a folder. -/
def fileNames (tree : FileTree) : List String :=
  tree.entries.filterMap fun (name, entry) =>
    match entry with
    | .file .. => some name
    | .folder _ => none

/-- The size of a folder itself. -/
def folderSize : UInt64 := 4096

/-- The disk with a tree below a root. -/
def disk {σ : Type} (tree : FileTree) (root : Path) : Disk σ where
  fileSize path := .fixed <| (tree.find root path).map fun
    | .file size _ => size
    | .folder _ => folderSize
  filesIn path :=
    match tree.find root path with
    | .error error => .fixed (.error error)
    | .ok (.file ..) => .fixed (.error (.io path Fault.notFolder.message))
    | .ok (.folder entries) =>
      .answer
        (((FileTree.folder entries).fileNames.map path.join).mergeSort fun a b => a.cmp b != .gt)
  lastWrite path := .fixed <| (tree.find root path).map fun
    | .file _ lastWrite => lastWrite
    | .folder _ => 0
  caseInsensitive := false

end FileTree

end Acquisition
