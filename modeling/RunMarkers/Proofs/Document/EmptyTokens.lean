import RunMarkers.Proofs.Document.Built
import RunMarkers.Proofs.Document.Loop

/-!
# Rows of empty tokens

Tokens of no bytes fit any source, so there may be more of them than there are numbers. Under the
root each of them adds a record and a child of the root (`ArenaBuilder.attempts_emptyTokens`). The
one that is pushed after 2 ^ 32 records makes the root a child of itself.
-/

namespace RunMarkers

/-- Steps that take tokens of no bytes. -/
def emptyTokens (count : Nat) : List BuildStep := List.replicate count (.token .leaf 0)

theorem BuildStep.bytesTaken_emptyTokens (count : Nat)
    (answers : List (Except BuildError (Option Nat))) :
    bytesTaken (emptyTokens count) answers = 0 := by
  induction count generalizing answers with
  | zero => rfl
  | succ count ih =>
      cases answers with
      | nil => rfl
      | cons answer answers =>
          cases answer with
          | ok begun => exact (Nat.zero_add _).trans (ih answers)
          | error e => exact ih answers

/-- The numbers of records pushed one after another, the first behind `count` others. -/
def idsFrom (count more : Nat) : List Nat := (List.range' count more).map (· % UInt32.size)

theorem idsFrom_succ (count more : Nat) :
    idsFrom count (more + 1) = count % UInt32.size :: idsFrom (count + 1) more := by
  rw [idsFrom, List.range'_succ, List.map_cons, idsFrom]

theorem idsFrom_concat (count more : Nat) :
    idsFrom count (more + 1) = idsFrom count more ++ [(count + more) % UInt32.size] := by
  rw [idsFrom, List.range'_1_concat, List.map_append, List.map_singleton, idsFrom]

theorem length_idsFrom (count more : Nat) : (idsFrom count more).length = more := by
  rw [idsFrom, List.length_map, List.length_range']

/-- The records of tokens of no bytes at an offset, children of the root from an index on. -/
def NodeRecord.empties (offset index count : Nat) : List NodeRecord :=
  (List.range' index count).map fun i => ⟨.leaf, .empty offset, some 0, i, []⟩

namespace ArenaBuilder

variable {b : ArenaBuilder} {r : NodeRecord} {rs : List NodeRecord}

theorem exists_attempt_token_zero (hopened : b.opened = [0]) (hrecords : b.records = r :: rs)
    (hfits : b.cursor ≤ b.source.size) (hboundary : b.source.isBoundary b.cursor = true) :
    ∃ answer after, b.attempt (.token .leaf 0) = (answer, after) ∧
      after = { b with
        records := r.addChild ((rs.length + 1) % UInt32.size) ::
          (rs ++ [⟨.leaf, .empty b.cursor, some 0, r.children.length, []⟩]) } := by
  have hpush : b.push .leaf ⟨b.cursor, b.cursor⟩ = ((rs.length + 1) % UInt32.size,
      { b with
        records := r.addChild ((rs.length + 1) % UInt32.size) ::
          (rs ++ [⟨.leaf, .empty b.cursor, some 0, r.children.length, []⟩]) }) := by
    rw [push, hopened, hrecords]
    rfl
  have htoken : b.token .leaf 0 =
      .ok ((b.push .leaf ⟨b.cursor, b.cursor⟩).1, (b.push .leaf ⟨b.cursor, b.cursor⟩).2) := by
    rw [token, Nat.add_zero, if_neg (Nat.not_lt.2 hfits), if_pos hboundary, hpush]
  refine ⟨.ok (some (b.push .leaf ⟨b.cursor, b.cursor⟩).1), _, ?_, congrArg Prod.snd hpush⟩
  rw [attempt, step, htoken]
  rfl

/-- Each token of no bytes adds a record, and a child of the root. -/
theorem attempts_emptyTokens (hopened : b.opened = [0]) (hrecords : b.records = r :: rs)
    (hfits : b.cursor ≤ b.source.size) (hboundary : b.source.isBoundary b.cursor = true)
    (count : Nat) :
    (b.attempts (emptyTokens count)).2 = { b with
      records := { r with children := r.children ++ idsFrom (rs.length + 1) count } ::
        (rs ++ NodeRecord.empties b.cursor r.children.length count) } := by
  induction count generalizing b r rs with
  | zero =>
      rw [emptyTokens, List.replicate_zero, attempts, idsFrom, NodeRecord.empties]
      simp [← hrecords]
  | succ count ih =>
      obtain ⟨answer, after, hstep, hafter⟩ :=
        exists_attempt_token_zero hopened hrecords hfits hboundary
      have hattempts : (b.attempts (emptyTokens (count + 1))).2 =
          (after.attempts (emptyTokens count)).2 := by
        rw [emptyTokens, List.replicate_succ, attempts, hstep, emptyTokens]
      have hrecords' : after.records = r.addChild ((rs.length + 1) % UInt32.size) ::
          (rs ++ [⟨.leaf, .empty b.cursor, some 0, r.children.length, []⟩]) := by
        rw [hafter]
      have hlater := ih (by rw [hafter]; exact hopened) hrecords' (by rw [hafter]; exact hfits)
        (by rw [hafter]; exact hboundary)
      rw [hattempts, hlater, hafter]
      simp [NodeRecord.addChild, NodeRecord.empties, idsFrom_succ, List.range'_succ]

end ArenaBuilder

/-- What tokens of no bytes build. -/
def Arena.ofEmptyTokens (source : Source) (path : Option Path) (fileKind : FileKind)
    (count : Nat) : Arena where
  source := source
  path := path
  fileKind := fileKind
  records := ⟨.block, ⟨0, source.size⟩, none, 0, idsFrom 1 count⟩ :: NodeRecord.empties 0 0 count

namespace Arena

variable (source : Source) (path : Option Path) (fileKind : FileKind) (count : Nat)

theorem finish_attempts_emptyTokens :
    ((ArenaBuilder.start source path fileKind).attempts (emptyTokens count)).2.finish =
      .ok (ofEmptyTokens source path fileKind count) := by
  have hattempts := ArenaBuilder.attempts_emptyTokens (b := ArenaBuilder.start source path fileKind)
    rfl rfl (Nat.zero_le _) Source.isBoundary_zero count
  rw [hattempts]
  rfl

theorem nodeCount_ofEmptyTokens :
    (ofEmptyTokens source path fileKind count).nodeCount = count + 1 := by
  rw [nodeCount, ofEmptyTokens, List.length_cons, NodeRecord.empties, List.length_map,
    List.length_range']

end Arena

end RunMarkers
