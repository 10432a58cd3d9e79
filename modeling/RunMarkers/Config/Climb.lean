import RunMarkers.Config.Lookup

/-!
# Climbing to a configuration file

The search for a configuration file as a loop over any file system, one with links or with relative
paths too. It asks only what stands at a path, and goes from a directory to its lexical parent as
long as there is one. On a file tree it is `findFile?`.
-/

namespace RunMarkers

/-- What can stand at a path once links are followed. -/
inductive EntryKind where
  | file
  | dir
  | other
  deriving DecidableEq

/-- What stands where a path leads. -/
def FileTree.kindAt (files : FileTree) (p : Path) : Option EntryKind :=
  match files.find p with
  | .ok (.file _) => some .file
  | .ok (.dir _) => some .dir
  | .error _ => none

namespace Config

variable (kindAt : Path → Option EntryKind)

/-- The first of some names under which a directory has a file. -/
def firstFile? (dir : Path) : List String → Option Path
  | [] => none
  | name :: names =>
    let path := dir.entry name
    if kindAt path = some .file then some path else firstFile? dir names

/-- The first configuration file in a directory or, as long as there is none, in the one above. -/
def climb? (dir : Path) : Option Path :=
  match firstFile? kindAt dir fileNames with
  | some path => some path
  | none =>
    match _h : dir.parent? with
    | none => none
    | some above => climb? above
termination_by dir.text.toList.length
decreasing_by exact Path.length_lt_of_parent? _h

/-- The configuration file for a path; for a file the search starts at its parent. -/
def lookUp? (start : Path) : Option Path :=
  if kindAt start = some .file then start.parent?.bind (climb? kindAt) else climb? kindAt start

end Config

end RunMarkers
