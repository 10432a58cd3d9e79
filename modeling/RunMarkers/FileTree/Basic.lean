import RunMarkers.Path
import RunMarkers.Text.Bytes

/-!
# File trees

Files as bytes and directories as named entries, without links; there may be files that cannot be
opened. `locate` follows a path through the tree the way a system does: every part but the last has
to be a directory, two dots lead back up, and a slash at the end asks for a directory. Paths are
texts, so they lead along names that are texts. A system has names that are none as well; a tree with
such names is one over another type of names.
-/

namespace RunMarkers

/-- Why a file that is there cannot be opened. -/
inductive AccessFault where
  /-- It may not be opened. -/
  | denied
  /-- The device that it is on fails. -/
  | device
  deriving DecidableEq, Repr

/-- A file, with its bytes if it can be opened, or a directory. -/
inductive FileTree (Name : Type := String) where
  | file (content : Except AccessFault ByteArray)
  | dir (entries : List (Name × FileTree Name))

/-- Why a file cannot be read or written. -/
inductive FileFault where
  | notFound
  | notDirectory
  | isDirectory
  | nameTooLong
  /-- The path holds a NUL character. -/
  | nulInPath
  /-- The bytes are not the UTF-8 form of a text. -/
  | notText
  | access (fault : AccessFault)
  deriving DecidableEq, Repr

/-- The wording of a fault. -/
def FileFault.message : FileFault → String
  | notFound => "No such file or directory (os error 2)"
  | notDirectory => "Not a directory (os error 20)"
  | isDirectory => "Is a directory (os error 21)"
  | nameTooLong => "File name too long (os error 36)"
  | nulInPath => "file name contained an unexpected NUL byte"
  | notText => "stream did not contain valid UTF-8"
  | access .denied => "Permission denied (os error 13)"
  | access .device => "Input/output error (os error 5)"

namespace FileTree

/-- A directory without entries. -/
def emptyDir : FileTree := .dir []

section Names

variable {Name : Type} [DecidableEq Name]

/-- The entry of a directory. -/
def child? (name : Name) : FileTree Name → Option (FileTree Name)
  | .file _ => none
  | .dir entries => (entries.find? fun e => e.1 == name).map (·.2)

/-- What stands at the end of a row of names. -/
def at? (t : FileTree Name) : List Name → Option (FileTree Name)
  | [] => some t
  | name :: names => (t.child? name).bind fun below => below.at? names

end Names

def isFile : FileTree → Bool
  | .file _ => true
  | .dir _ => false

def isDir : FileTree → Bool
  | .file _ => false
  | .dir _ => true

/-- The longest name that an entry can have, in bytes. -/
def nameLimit : Nat := 255

/-- Follows the pieces of a path from a place, given by its names with the last one first and by
what stands there, to the names of where they lead. -/
def follow (root : FileTree) (names : List String) (here : FileTree) :
    List (List Char) → Except FileFault (List String)
  | [] => .ok names.reverse
  | piece :: pieces =>
    if !here.isDir then .error .notDirectory
    else if Path.isIdle piece then follow root names here pieces
    else if piece = ['.', '.'] then
      match names with
      | [] => follow root [] root pieces
      | _ :: above =>
        match root.at? above.reverse with
        | some up => follow root above up pieces
        | none => .error .notFound
    else if nameLimit < Text.byteLength piece then .error .nameTooLong
    else
      let name := String.ofList piece
      match here.child? name with
      | some below => follow root (name :: names) below pieces
      | none => .error .notFound

/-- The names that lead from the root to where an absolute path leads. -/
def locate (t : FileTree) (p : Path) : Except FileFault (List String) :=
  if p.text.toList.contains '\x00' then .error .nulInPath
  else if p.isAbsolute then t.follow [] t p.body
  else .error .notFound

/-- The length in bytes from which on a path is too long to be opened. -/
def pathLimit : Nat := 4096

/-- A path can be opened at all. -/
def accept (p : Path) : Except FileFault Unit :=
  if p.text.toList.contains '\x00' then .error .nulInPath
  else if pathLimit ≤ Text.byteLength p.text.toList then .error .nameTooLong
  else .ok ()

/-- What stands where a path leads. -/
def find (t : FileTree) (p : Path) : Except FileFault FileTree := do
  accept p
  match t.at? (← t.locate p) with
  | some found => return found
  | none => throw .notFound

/-- Something stands where a path leads. -/
def existsAt (t : FileTree) (p : Path) : Bool := (t.find p).toBool

/-- A file stands where a path leads. -/
def isFileAt (t : FileTree) (p : Path) : Bool :=
  match t.find p with
  | .ok found => found.isFile
  | .error _ => false

/-- A directory stands where a path leads. -/
def isDirAt (t : FileTree) (p : Path) : Bool :=
  match t.find p with
  | .ok found => found.isDir
  | .error _ => false

/-- The bytes of the file that a path leads to. -/
def readBytes (t : FileTree) (p : Path) : Except FileFault ByteArray := do
  match ← t.find p with
  | .file content => content.mapError .access
  | .dir _ => throw .isDirectory

/-- The text of the file that a path leads to. -/
def readText (t : FileTree) (p : Path) : Except FileFault String := do
  match String.fromUTF8? (← t.readBytes p) with
  | some text => return text
  | none => throw .notText

/-- The path without detours to where a path leads. It is found piece by piece, so the path may have
any length. -/
def canonical (t : FileTree) (p : Path) : Except FileFault Path := do
  return ⟨"/" ++ "/".intercalate (← t.locate p)⟩

end FileTree

end RunMarkers
