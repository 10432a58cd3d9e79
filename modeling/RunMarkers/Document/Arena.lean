import RunMarkers.Document.Builder
import RunMarkers.Document.Cursor

/-!
# Documents as arenas

An arena keeps the nodes of a document in one list, in the order in which they were begun, and the
number of a node is its place there. Links are numbers and are kept twice: a record has the number
of its parent with its place among the children of the parent, and a record has the numbers of all
its children. `ArenaBuilder` takes the steps of a build on records that link to each other from the
start; nothing in its types keeps the two sides of a link together. Going from link to link may not
end, so a walk is given a number of rounds, and gives `none` if it has not ended within these.
-/

namespace RunMarkers

/-- What an arena keeps of a node. -/
structure NodeRecord where
  kind : NodeKind
  span : Span
  /-- The number of the parent. -/
  parent : Option Nat
  /-- The place among the children of the parent. -/
  index : Nat
  /-- The numbers of the children. -/
  children : List Nat
  deriving DecidableEq, Repr

namespace NodeRecord

def addChild (r : NodeRecord) (id : Nat) : NodeRecord := { r with children := r.children ++ [id] }

def endAt (r : NodeRecord) (stop : Nat) : NodeRecord := { r with span := ⟨r.span.start, stop⟩ }

end NodeRecord

/-- A source text, where it was read from, and the records of its nodes. -/
structure Arena where
  source : Source
  path : Option Path
  fileKind : FileKind
  records : List NodeRecord

/-- `a` and what follows from it step by step, if that ends within the rounds. -/
def successors {α : Type} (next : α → Option α) : Nat → α → Option (List α)
  | 0, _ => none
  | rounds + 1, a =>
    match next a with
    | none => some [a]
    | some b => (successors next rounds b).map (a :: ·)

/-- `a` and what follows from it step by step, up to the first that fails a test, if the walk ends
or meets one that fails within the rounds. -/
def successorsWhile {α : Type} (next : α → Option α) (keep : α → Bool) : Nat → α → Option (List α)
  | 0, _ => none
  | rounds + 1, a =>
    if keep a then
      match next a with
      | none => some [a]
      | some b => (successorsWhile next keep rounds b).map (a :: ·)
    else some []

/-- A search through `a` and what follows from it step by step, up to the first for which `find`
gives something. It is `none` if the search, or what it asks of `find`, has not ended within the
rounds. -/
def searchAlong {α β : Type} (next : α → Option α) (find : α → Option (Option β)) :
    Nat → α → Option (Option β)
  | 0, _ => none
  | rounds + 1, a =>
    match find a with
    | none => none
    | some (some b) => some (some b)
    | some none =>
      match next a with
      | none => some none
      | some b => searchAlong next find rounds b

namespace Arena

/-- A node of an arena: its number and its record. -/
structure Entry where
  id : Nat
  record : NodeRecord
  deriving DecidableEq, Repr

def nodeCount (a : Arena) : Nat := a.records.length

/-- The node with the given number. -/
def entry? (a : Arena) (id : Nat) : Option Entry := (a.records[id]?).map (Entry.mk id)

def parent? (a : Arena) (e : Entry) : Option Entry := e.record.parent.bind a.entry?

def firstChild? (a : Arena) (e : Entry) : Option Entry := e.record.children.head?.bind a.entry?

def children (a : Arena) (e : Entry) : List Entry := e.record.children.filterMap a.entry?

/-- The sibling just before, found by its place among the children of the parent. -/
def previous? (a : Arena) (e : Entry) : Option Entry :=
  match e.record.index with
  | 0 => none
  | i + 1 => do a.entry? (← (← a.parent? e).record.children[i]?)

/-- The sibling just after, found by its place among the children of the parent. -/
def next? (a : Arena) (e : Entry) : Option Entry := do
  a.entry? (← (← a.parent? e).record.children[e.record.index + 1]?)

/-- A node and its earlier siblings, going back. -/
def backward (a : Arena) (rounds : Nat) (e : Entry) : Option (List Entry) :=
  successors a.previous? rounds e

/-- A node and its later siblings, going on. -/
def forward (a : Arena) (rounds : Nat) (e : Entry) : Option (List Entry) :=
  successors a.next? rounds e

/-- The nodes met when the nodes of a stack are taken from its top, one a round, each giving way to
its children. -/
def walk (a : Arena) : Nat → List Entry → Option (List Entry)
  | _, [] => some []
  | 0, _ :: _ => none
  | rounds + 1, e :: rest => (a.walk rounds (a.children e ++ rest)).map (e :: ·)

/-- All nodes, met by a walk from the root. -/
def descendants (a : Arena) (rounds : Nat) : Option (List Entry) :=
  (a.entry? 0).bind fun root => a.walk rounds [root]

end Arena

/-- What an arena keeps of the node that a cursor stands on. -/
def Cursor.record (c : Cursor) : NodeRecord where
  kind := c.node.kind
  span := c.node.span
  parent := c.parent?.map fun p => p.node.id
  index := c.here.before.length
  children := c.node.children.map Node.id

def Cursor.entry (c : Cursor) : Arena.Entry := ⟨c.node.id, c.record⟩

/-- A document as an arena. -/
def Document.arena (d : Document) : Arena where
  source := d.source
  path := d.path
  fileKind := d.fileKind
  records := d.cursors.map Cursor.record

/-- A document under construction, as records. -/
structure ArenaBuilder where
  source : Source
  path : Option Path
  fileKind : FileKind
  records : List NodeRecord
  /-- The numbers of the open nodes, innermost first, the root last. -/
  opened : List Nat
  /-- The number of bytes that tokens have taken. -/
  cursor : Nat

namespace ArenaBuilder

/-- A builder with nothing but the root, which is open. -/
def start (source : Source) (path : Option Path) (fileKind : FileKind) : ArenaBuilder where
  source := source
  path := path
  fileKind := fileKind
  records := [⟨.block, ⟨0, 0⟩, none, 0, []⟩]
  opened := [0]
  cursor := 0

/-- Adds a record, as the last child of the innermost open node. Numbers have 32 bits. -/
def push (b : ArenaBuilder) (kind : NodeKind) (span : Span) : Nat × ArenaBuilder :=
  let id := b.records.length % UInt32.size
  match b.opened with
  | [] => (id, { b with records := b.records ++ [⟨kind, span, none, 0, []⟩] })
  | p :: _ =>
    let index := (b.records[p]?).elim 0 fun r => r.children.length
    (id, { b with
      records := b.records.modify p (·.addChild id) ++ [⟨kind, span, some p, index, []⟩] })

/-- Opens an interior node. -/
def enter (b : ArenaBuilder) (kind : NodeKind) : Nat × ArenaBuilder :=
  let (id, after) := b.push kind ⟨b.cursor, b.cursor⟩
  (id, { after with opened := id :: after.opened })

/-- Adds a childless node over the next `length` bytes. -/
def token (b : ArenaBuilder) (kind : NodeKind) (length : Nat) :
    Except BuildError (Nat × ArenaBuilder) :=
  let stop := b.cursor + length
  if b.source.size < stop then .error (.pastEnd b.cursor stop b.source.size)
  else if b.source.isBoundary stop then
    let (id, after) := b.push kind ⟨b.cursor, stop⟩
    .ok (id, { after with cursor := stop })
  else .error (.insideCharacter stop)

/-- Closes the innermost open node at the cursor; the root stays open. -/
def leave (b : ArenaBuilder) : Except BuildError ArenaBuilder :=
  match b.opened with
  | id :: p :: outer =>
    .ok { b with
      records := b.records.modify id (·.endAt b.cursor)
      opened := p :: outer }
  | _ => .error .nothingOpen

/-- Takes one step, and answers the number of the node begun, if it begins one. -/
def step (b : ArenaBuilder) : BuildStep → Except BuildError (Option Nat × ArenaBuilder)
  | .enter kind => .ok (Prod.map some id (b.enter kind))
  | .token kind length => (b.token kind length).map (Prod.map some id)
  | .leave => b.leave.map (Prod.mk none)

/-- Tries one step: what it answers, and the builder after it, which is the one before if it
fails. -/
def attempt (b : ArenaBuilder) (s : BuildStep) : Except BuildError (Option Nat) × ArenaBuilder :=
  match b.step s with
  | .ok (begun, after) => (.ok begun, after)
  | .error e => (.error e, b)

/-- Tries steps one after another, whether they fail or not. -/
def attempts (b : ArenaBuilder) :
    List BuildStep → List (Except BuildError (Option Nat)) × ArenaBuilder
  | [] => ([], b)
  | s :: ss =>
    let (answer, after) := b.attempt s
    let (answers, last) := after.attempts ss
    (answer :: answers, last)

/-- Takes steps until one fails. -/
def steps (b : ArenaBuilder) : List BuildStep → Except BuildError ArenaBuilder
  | [] => .ok b
  | s :: ss => do (← b.step s).2.steps ss

/-- The arena built, if only the root is open. The root covers the whole source. -/
def finish (b : ArenaBuilder) : Except BuildError Arena :=
  if b.opened.length = 1 then
    .ok
      { source := b.source
        path := b.path
        fileKind := b.fileKind
        records := b.records.modify 0 (·.endAt b.source.size) }
  else .error (.leftOpen (b.opened.length - 1))

end ArenaBuilder

/-- The arena that steps build over a source. -/
def Arena.build (source : Source) (path : Option Path) (fileKind : FileKind)
    (steps : List BuildStep) : Except BuildError Arena := do
  ((← (ArenaBuilder.start source path fileKind).steps steps)).finish

end RunMarkers
