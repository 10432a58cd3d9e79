import RunMarkers.FileTree.Basic

/-!
# Changing file trees

`put` places a tree at the end of a row of names and makes the directories on the way; `remove`
takes an entry away. `writeText` writes a file at a path the way a system does: the directory has
to be there, and a directory cannot be written to, nor a file that cannot be opened.
-/

namespace RunMarkers.FileTree

/-- Sets an entry in a list of entries. -/
def setEntry (name : String) (t : FileTree) :
    List (String × FileTree) → List (String × FileTree)
  | [] => [(name, t)]
  | e :: es => if e.1 = name then (name, t) :: es else e :: setEntry name t es

/-- The entries of a directory; a file has none. -/
def entries : FileTree → List (String × FileTree)
  | .file _ => []
  | .dir entries => entries

/-- Places a tree at the end of a row of names; what is no directory on the way becomes one. -/
def put (new : FileTree) : List String → FileTree → FileTree
  | [], _ => new
  | name :: names, t =>
    .dir (setEntry name (put new names ((t.child? name).getD emptyDir)) t.entries)

/-- Makes a directory at the end of a row of names, unless one is there. -/
def makeDir (names : List String) (t : FileTree) : FileTree :=
  match t.at? names with
  | some (.dir _) => t
  | _ => put emptyDir names t

/-- Takes away what stands at the end of a row of names. -/
def remove : List String → FileTree → FileTree
  | [], t => t
  | _, .file content => .file content
  | [name], .dir entries => .dir (entries.filter fun e => e.1 != name)
  | name :: names, .dir entries =>
    match (FileTree.dir entries).child? name with
    | some below => .dir (setEntry name (remove names below) entries)
    | none => .dir entries

/-- The place that a path names for a file that may not be there yet: the names of its directory and
its own name. A path that ends in a slash or in dots names a directory. -/
def target (t : FileTree) (p : Path) : Except FileFault (List String × String) := do
  accept p
  if !p.isAbsolute then throw .notFound
  match p.body.reverse.dropWhile List.isEmpty with
  | [] => throw .isDirectory
  | piece :: before =>
    let names ← t.follow [] t before.reverse
    match t.at? names with
    | some (.dir _) =>
      if p.body.getLast? = some [] ∨ piece = ['.'] ∨ piece = ['.', '.'] then throw .isDirectory
      else if nameLimit < Text.byteLength piece then throw .nameTooLong
      else return (names, String.ofList piece)
    | some (.file _) => throw .notDirectory
    | none => throw .notFound

/-- Writes a text to the file that a path leads to. -/
def writeText (t : FileTree) (p : Path) (text : String) : Except FileFault FileTree := do
  let (names, name) ← t.target p
  match t.at? (names ++ [name]) with
  | some (.dir _) => throw .isDirectory
  | some (.file (.error fault)) => throw (.access fault)
  | _ => return put (.file (.ok text.toUTF8)) (names ++ [name]) t

end RunMarkers.FileTree
