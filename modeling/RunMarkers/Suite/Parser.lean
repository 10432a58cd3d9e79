import RunMarkers.Document.Arena
import RunMarkers.Suite.Tokenizer

/-!
# Parsing suite files

The tree of a suite file is shallow. Under the root stand, line after line, a `heading` node for
the first cell of a heading line, a `line` node for every other cell of content, each with one
leaf, bare leaves for everything between them, and a `newLine` token for the ending of the line. A
byte order mark at the start of the text is a leaf of its own. The steps that the tokenizer finds
build the tree, and they build it in an arena as well. The tokenizer finds some for every text
(`tokenize_eq`).
-/

namespace RunMarkers.Suite

/-- The document of a text read from a path as a file of the given kind. -/
def parse (text : String) (path : Option Path) (fileKind : FileKind) :
    Except BuildError Document :=
  Document.build (.ofString text) path fileKind ((tokenize text.toList).getD [])

/-- The arena of a text read from a path as a file of the given kind. -/
def parseArena (text : String) (path : Option Path) (fileKind : FileKind) :
    Except BuildError Arena :=
  Arena.build (.ofString text) path fileKind ((tokenize text.toList).getD [])

end RunMarkers.Suite
