import RunMarkers.Path
import RunMarkers.Text.AsciiCase

/-!
# Kinds of files

A file is a suite when its extension is one of those that the configuration lists, a resource when
its extension says so, and something else otherwise. ASCII case does not matter.
-/

namespace RunMarkers

/-- What a document was read from. -/
inductive FileKind where
  | suite
  | resource
  | other
  deriving DecidableEq, Repr

namespace FileKind

/-- Every kind of file. -/
def all : List FileKind := [suite, resource, other]

/-- A listed extension without the dots that may stand before it. -/
def bareExtension (listed : String) : String :=
  String.ofList (listed.toList.dropWhile (· == '.'))

/-- The kind of a file with an extension, if it has one, with the extensions that mark a suite. -/
def ofExtension (extension? : Option String) (suiteExtensions : List String) : FileKind :=
  match extension? with
  | none => other
  | some extension =>
    let isListed := suiteExtensions.any fun listed =>
      Text.eqIgnoringAsciiCase (bareExtension listed) extension
    if isListed then suite
    else if Text.eqIgnoringAsciiCase extension "resource" then resource
    else other

/-- The kind of the file at a path, with the extensions that mark a suite. -/
def ofPath (path : Path) (suiteExtensions : List String) : FileKind :=
  ofExtension path.extension? suiteExtensions

theorem mem_all (k : FileKind) : k ∈ all := by cases k <;> decide

end FileKind

end RunMarkers
