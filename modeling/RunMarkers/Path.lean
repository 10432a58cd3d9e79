/-!
# Paths

Paths as the user writes them, read lexically: a slash at the start makes a path absolute, repeated
slashes count once, and a dot between slashes counts for nothing unless it starts a relative path.
`parent?`, `fileName?` and `extension?` look at the last part that counts. No function here asks
whether a file exists.
-/

namespace RunMarkers

/-- A path, kept as written. -/
structure Path where
  text : String
  deriving DecidableEq, Repr

namespace Path

/-- The pieces of a text between slashes, empty ones included. -/
def pieces : List Char → List (List Char)
  | [] => [[]]
  | c :: cs =>
    if c = '/' then [] :: pieces cs
    else
      match pieces cs with
      | [] => [[c]]
      | p :: ps => (c :: p) :: ps

/-- Pieces with a slash between each two. -/
def joinPieces : List (List Char) → List Char
  | [] => []
  | [p] => p
  | p :: q :: ps => p ++ '/' :: joinPieces (q :: ps)

/-- The path starts at the root. -/
def isAbsolute (p : Path) : Bool :=
  match p.text.toList with
  | '/' :: _ => true
  | _ => false

/-- The pieces of a path after its leading slash. -/
def body (p : Path) : List (List Char) :=
  match p.text.toList with
  | '/' :: cs => pieces cs
  | cs => pieces cs

/-- A piece that names nothing. -/
def isIdle (piece : List Char) : Bool := piece.isEmpty || piece == ['.']

/-- Whether each piece counts as a part of the path. A dot counts only at the start of a relative
path. -/
def marked (p : Path) : List (List Char × Bool) :=
  match p.body with
  | [] => []
  | first :: rest =>
    (first, if p.isAbsolute then !isIdle first else !first.isEmpty)
      :: rest.map fun piece => (piece, !isIdle piece)

/-- The parts of a path, from left to right. -/
def parts (p : Path) : List String :=
  (p.marked.filter (·.2)).map fun m => String.ofList m.1

/-- Drops the pieces at the end that do not count. -/
def dropIdleEnd (pieces : List (List Char × Bool)) : List (List Char × Bool) :=
  (pieces.reverse.dropWhile fun m => !m.2).reverse

/-- Writes pieces with slashes between them, after a leading slash for an absolute path. -/
def ofPieces (absolute : Bool) (pieces : List (List Char × Bool)) : Path :=
  let joined := joinPieces (pieces.map (·.1))
  ⟨String.ofList (if absolute then '/' :: joined else joined)⟩

/-- The path without its last part; a path without parts has no parent. -/
def parent? (p : Path) : Option Path :=
  match dropIdleEnd p.marked with
  | [] => none
  | pieces => some (ofPieces p.isAbsolute (dropIdleEnd pieces.dropLast))

/-- The last part, unless it is a dot or two dots. -/
def fileName? (p : Path) : Option String :=
  match p.parts.getLast? with
  | some name => if name = "." ∨ name = ".." then none else some name
  | none => none

/-- What comes after the last dot of a name, if something comes before that dot. -/
def extensionOf? {α : Type} [BEq α] (dot : α) (name : List α) : Option (List α) :=
  let reversed := name.reverse
  match reversed.dropWhile (· != dot) with
  | [] => none
  | _ :: stem => if stem.isEmpty then none else some (reversed.takeWhile (· != dot)).reverse

/-- The text after the last dot of the file name; a dot that starts the name is part of it. -/
def extension? (p : Path) : Option String :=
  p.fileName?.bind fun name => (extensionOf? '.' name.toList).map String.ofList

/-- The path `q` as seen from `p`: an absolute path stands for itself. -/
def join (p q : Path) : Path :=
  if q.isAbsolute then q
  else if p.text.toList.isEmpty || p.text.toList.getLast? == some '/' then ⟨p.text ++ q.text⟩
  else ⟨p.text ++ "/" ++ q.text⟩

/-- The entry `name` of the directory `p`. -/
def entry (p : Path) (name : String) : Path := p.join ⟨name⟩

/-- The parts of `p` after those of `base`, if `p` starts with them. -/
def relativeTo? (p base : Path) : Option Path :=
  if p.isAbsolute = base.isAbsolute ∧ base.parts.isPrefixOf p.parts then
    some ⟨"/".intercalate (p.parts.drop base.parts.length)⟩
  else none

end Path

end RunMarkers
