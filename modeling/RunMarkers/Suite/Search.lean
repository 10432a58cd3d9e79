import RunMarkers.FileKind
import RunMarkers.FileTree.Basic

/-!
# Searching for suites

The suites at or below a place, in the order of the parts of their paths. What is hidden, by a dot
at the start of its name, is passed over with everything below it; the place itself may be hidden. A
directory is opened by its path as seen from the place, so one whose path is too long is passed over
as well; a file is only named, and its path may have any length.

A system keeps names as bytes, and they need not be the UTF-8 form of a text. Such a name is never
that of something hidden, whatever its first byte is, and an extension counts only if it is a text.
The search is the same for names of both kinds (`FileTree.search`).
-/

namespace RunMarkers

/-- The name of something hidden. -/
def isHidden (name : String) : Bool := name.toList.head? == some '.'

section Names

variable {Name : Type} (hidden : Name → Bool)

mutual

/-- The names that lead to each file at or below a place without passing anything hidden. -/
def FileTree.visibleFiles : FileTree Name → List (List Name)
  | .file _ => [[]]
  | .dir entries => visibleAmong entries

/-- The names that lead to each file among entries. -/
def FileTree.visibleAmong : List (Name × FileTree Name) → List (List Name)
  | [] => []
  | (name, t) :: entries =>
    (if hidden name then [] else t.visibleFiles.map (name :: ·)) ++ visibleAmong entries

end

variable [DecidableEq Name] [LT Name] [DecidableLT Name]

/-- The names that lead to each wanted file without passing anything hidden, in their order. -/
def FileTree.search (wanted : List Name → Bool) (t : FileTree Name) : List (List Name) :=
  ((t.visibleFiles hidden).filter wanted).mergeSort fun a b => !decide (b < a)

end Names

/-- The path that leads from a place along names. -/
def Path.below (p : Path) (names : List String) : Path := names.foldl Path.entry p

/-- The directories from a place to what the names lead to can all be opened. The last of them has
the longest path, so it decides. -/
def isOpenTo (start : Path) (names : List String) : Bool :=
  (FileTree.accept (start.below names.dropLast)).toBool

/-- The suites at or below a place. -/
def suiteFiles (files : FileTree) (suiteExtensions : List String) (start : Path) : List Path :=
  match files.find start with
  | .error _ => []
  | .ok t =>
    let found := t.search isHidden fun names =>
      isOpenTo start names && FileKind.ofPath (start.below names) suiteExtensions == .suite
    found.map start.below

/-- A name as a system keeps it. -/
abbrev SystemName := List UInt8

namespace SystemName

/-- The byte of a dot. -/
def dot : UInt8 := 46

/-- The byte of a slash. -/
def slash : UInt8 := 47

/-- The text that bytes are the UTF-8 form of. -/
def text? (bytes : List UInt8) : Option String := String.fromUTF8? ⟨bytes.toArray⟩

/-- The name of something hidden. A name that is not a text is none. -/
def isHidden (name : SystemName) : Bool := (text? name).any RunMarkers.isHidden

/-- The extension of a name, if it has one that is a text. -/
def extension? (name : SystemName) : Option String := (Path.extensionOf? dot name).bind text?

/-- The bytes of the path that leads from a place along names. -/
def below (start : Path) (names : List SystemName) : List UInt8 :=
  names.foldl
    (fun path name =>
      if path.isEmpty || path.getLast? == some slash then path ++ name else path ++ slash :: name)
    start.text.toUTF8.data.toList

/-- The directories from a place to what the names lead to can all be opened. -/
def isOpenTo (start : Path) (names : List SystemName) : Bool :=
  (below start names.dropLast).length < FileTree.pathLimit

/-- The extension of what the names lead to. -/
def extensionBelow? (start : Path) (names : List SystemName) : Option String :=
  match names.getLast? with
  | none => start.extension?
  | some name => name.extension?

end SystemName

/-- The suites at or below a place in a tree with names as a system keeps them, each by the names
that lead there. -/
def systemSuites (suiteExtensions : List String) (start : Path) (t : FileTree SystemName) :
    List (List SystemName) :=
  t.search SystemName.isHidden fun names =>
    SystemName.isOpenTo start names &&
      FileKind.ofExtension (SystemName.extensionBelow? start names) suiteExtensions == .suite

end RunMarkers
