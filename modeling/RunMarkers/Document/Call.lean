import RunMarkers.Document.Arena

/-!
# Calls on a builder

A `Call` changes a builder in place. An error does not take back what was changed before it, so
that a failed call leaves the builder as it was only if it checks first and changes after; nothing
in the types says so.
-/

namespace RunMarkers

/-- What changes a builder in place and gives an answer, or fails on the way. -/
abbrev Call (α : Type) := ExceptT BuildError (StateM ArenaBuilder) α

namespace Call

/-- Adds a record, as the last child of the innermost open node. -/
def push (kind : NodeKind) (span : Span) : Call Nat :=
  modifyGet fun b => b.push kind span

/-- Opens an interior node at the cursor. -/
def enter (kind : NodeKind) : Call Nat := do
  let id ← push kind (.empty (← get).cursor)
  modify fun b => { b with opened := id :: b.opened }
  return id

/-- Adds a childless node over the next `length` bytes. -/
def token (kind : NodeKind) (length : Nat) : Call Nat := do
  let b ← get
  let stop := b.cursor + length
  if b.source.size < stop then throw (.pastEnd b.cursor stop b.source.size)
  if !b.source.isBoundary stop then throw (.insideCharacter stop)
  let id ← push kind ⟨b.cursor, stop⟩
  modify fun b => { b with cursor := stop }
  return id

/-- Closes the innermost open node at the cursor; the root stays open. -/
def leave : Call Unit := do
  if (← get).opened.length ≤ 1 then throw .nothingOpen
  if let id :: outer := (← get).opened then
    modify fun b => { b with opened := outer }
    modify fun b => { b with records := b.records.modify id (·.endAt b.cursor) }

/-- The call of a step. It answers the number of the node begun, if it begins one. -/
def ofStep : BuildStep → Call (Option Nat)
  | .enter kind => some <$> enter kind
  | .token kind length => some <$> token kind length
  | .leave => do leave; return none

end Call

/-- Makes calls one after another, whether they fail or not: what they answer, and what they leave
in the end. -/
def callAll {α ε β ι : Type} (call : β → ι → Except ε α × β) (b : β) :
    List ι → List (Except ε α) × β
  | [] => ([], b)
  | s :: ss =>
    let (answer, after) := call b s
    let (answers, last) := callAll call after ss
    (answer :: answers, last)

namespace ArenaBuilder

/-- Makes the call of a step: what it answers, and the builder after it. -/
def call (b : ArenaBuilder) (s : BuildStep) : Except BuildError (Option Nat) × ArenaBuilder :=
  ((Call.ofStep s).run.run b).run

/-- Makes the calls of steps. -/
def calls (b : ArenaBuilder) (ss : List BuildStep) :
    List (Except BuildError (Option Nat)) × ArenaBuilder :=
  callAll call b ss

end ArenaBuilder

end RunMarkers
