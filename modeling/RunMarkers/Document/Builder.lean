import RunMarkers.Document.Basic

/-!
# Building documents

A builder makes a tree from front to back. A token takes the next bytes of the source; an interior
node is entered, filled and left again. Nodes that are still open are kept as a stack of frames,
innermost first; the root stands below them and is open until `finish`. A step that fails leaves the
builder as it was. Here the numbers of the nodes have no bound. An arena, whose numbers have 32 bits,
is that of the tree up to 2 ^ 32 nodes (`Document.exists_attempts_arena`).
-/

namespace RunMarkers

/-- Why a step, or the whole, of a build fails. -/
inductive BuildError where
  /-- A token reaches beyond the source, which has `size` bytes. -/
  | pastEnd (start stop size : Nat)
  /-- A token ends inside a character. -/
  | insideCharacter (stop : Nat)
  /-- There is no node to leave. -/
  | nothingOpen
  /-- Nodes were entered and not left. -/
  | leftOpen (count : Nat)
  deriving DecidableEq, Repr

/-- The wording of a build error. -/
def BuildError.message : BuildError → String
  | pastEnd start stop size =>
    "token " ++ toString start ++ ".." ++ toString stop ++ " runs past the end of the source ("
      ++ toString size ++ " bytes)"
  | insideCharacter stop => "token end " ++ toString stop ++ " is not on a character boundary"
  | nothingOpen => "finish_node called with no open node"
  | leftOpen count => toString count ++ " node(s) left open"

/-- One step of a build. -/
inductive BuildStep where
  /-- Open an interior node. -/
  | enter (kind : NodeKind)
  /-- Add a childless node over the next bytes. -/
  | token (kind : NodeKind) (length : Nat)
  /-- Close the innermost open node. -/
  | leave
  deriving DecidableEq, Repr

/-- A node that is still open, with its finished children, last one first. -/
structure Frame where
  id : Nat
  kind : NodeKind
  start : Nat
  children : List Node

/-- A document under construction. -/
structure Builder where
  source : Source
  path : Option Path
  fileKind : FileKind
  /-- The number of bytes that tokens have taken. -/
  cursor : Nat
  /-- The number of the next node; the root has number zero. -/
  nextId : Nat
  /-- Open nodes below the root, innermost first. -/
  frames : List Frame
  /-- Finished children of the root, last one first. -/
  topLevel : List Node

namespace Builder

/-- A builder with nothing built. -/
def start (source : Source) (path : Option Path) (fileKind : FileKind) : Builder :=
  { source, path, fileKind, cursor := 0, nextId := 1, frames := [], topLevel := [] }

/-- Adds a finished node to the innermost open one. -/
def attach (b : Builder) (n : Node) : Builder :=
  match b.frames with
  | [] => { b with topLevel := n :: b.topLevel }
  | f :: fs => { b with frames := { f with children := n :: f.children } :: fs }

/-- Opens an interior node. -/
def enter (b : Builder) (kind : NodeKind) : Builder :=
  { b with
    nextId := b.nextId + 1
    frames := ⟨b.nextId, kind, b.cursor, []⟩ :: b.frames }

/-- Adds a childless node over the next `length` bytes. -/
def token (b : Builder) (kind : NodeKind) (length : Nat) : Except BuildError Builder :=
  let stop := b.cursor + length
  if b.source.size < stop then .error (.pastEnd b.cursor stop b.source.size)
  else if b.source.isBoundary stop then
    .ok ({ b with cursor := stop, nextId := b.nextId + 1 }.attach
      (.token b.nextId kind ⟨b.cursor, stop⟩))
  else .error (.insideCharacter stop)

/-- Closes the innermost open node at the cursor. -/
def leave (b : Builder) : Except BuildError Builder :=
  match b.frames with
  | [] => .error .nothingOpen
  | f :: fs =>
    .ok ({ b with frames := fs }.attach (.mk f.id f.kind ⟨f.start, b.cursor⟩ f.children.reverse))

/-- Takes one step. -/
def step (b : Builder) : BuildStep → Except BuildError Builder
  | .enter kind => .ok (b.enter kind)
  | .token kind length => b.token kind length
  | .leave => b.leave

/-- Takes steps until one fails. -/
def steps (b : Builder) : List BuildStep → Except BuildError Builder
  | [] => .ok b
  | s :: ss => do (← b.step s).steps ss

/-- The number of the node that a step begins; leaving a node begins none. -/
def begun (b : Builder) : BuildStep → Option Nat
  | .enter _ | .token _ _ => some b.nextId
  | .leave => none

/-- Tries one step: what it answers, and the builder after it, which is the one before if it
fails. -/
def attempt (b : Builder) (s : BuildStep) : Except BuildError (Option Nat) × Builder :=
  match b.step s with
  | .ok after => (.ok (b.begun s), after)
  | .error e => (.error e, b)

/-- Tries steps one after another, whether they fail or not. -/
def attempts (b : Builder) : List BuildStep → List (Except BuildError (Option Nat)) × Builder
  | [] => ([], b)
  | s :: ss =>
    let (answer, after) := b.attempt s
    let (answers, last) := after.attempts ss
    (answer :: answers, last)

/-- The document built. The root covers the whole source, also what no token took. -/
def finish (b : Builder) : Except BuildError Document :=
  if b.frames.isEmpty then
    .ok
      { source := b.source
        path := b.path
        fileKind := b.fileKind
        topLevel := b.topLevel.reverse }
  else .error (.leftOpen b.frames.length)

end Builder

/-- The document that steps build over a source. -/
def Document.build (source : Source) (path : Option Path) (fileKind : FileKind)
    (steps : List BuildStep) : Except BuildError Document := do
  ((← (Builder.start source path fileKind).steps steps)).finish

end RunMarkers
