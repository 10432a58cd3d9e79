import RunMarkers.Document.Basic

/-!
# Tokens of a document

The tokens of a document are the nodes below its root that have no children, in document order. A
tree loses nothing of its source when they tile it: `Node.Tiles` says that nodes follow one another
without a gap or an overlap.
-/

namespace RunMarkers

/-- The spans follow one another, the first from `start`, the last up to `stop`. -/
def Span.Tile (start : Nat) (spans : List Span) (stop : Nat) : Prop :=
  match spans with
  | [] => start = stop
  | s :: later => s.start = start ∧ start ≤ s.stop ∧ Tile s.stop later stop

theorem Span.Tile.stop_eq_of_concat {start stop : Nat} {spans : List Span} {s : Span}
    (h : Tile start (spans ++ [s]) stop) : s.stop = stop := by
  induction spans generalizing start with
  | nil => exact h.2.2
  | cons first spans ih => exact ih h.2.2

namespace Node

def isToken (n : Node) : Bool := n.children.isEmpty

/-- The spans of the nodes follow one another, the first from `start`, the last up to `stop`. -/
def Tiles (start : Nat) (nodes : List Node) (stop : Nat) : Prop :=
  match nodes with
  | [] => start = stop
  | n :: later => n.span.start = start ∧ start ≤ n.span.stop ∧ Tiles n.span.stop later stop

theorem tiles_iff_tile {start stop : Nat} {ns : List Node} :
    Tiles start ns stop ↔ Span.Tile start (ns.map span) stop := by
  induction ns generalizing start with
  | nil => exact Iff.rfl
  | cons n ns ih => rw [Tiles, List.map_cons, Span.Tile, ih]

theorem preorderList_append (ms ns : List Node) :
    preorderList (ms ++ ns) = preorderList ms ++ preorderList ns := by
  induction ms with
  | nil => rfl
  | cons m ms ih =>
      rw [List.cons_append, preorderList, preorderList, ih, List.append_assoc]

theorem mem_preorderList {m : Node} {ns : List Node} :
    m ∈ preorderList ns ↔ ∃ n ∈ ns, m ∈ n.preorder := by
  induction ns with
  | nil => simp [preorderList]
  | cons n ns ih => simp [preorderList, ih]

theorem Tiles.start_le_stop {start stop : Nat} {ns : List Node} (h : Tiles start ns stop) :
    start ≤ stop := by
  induction ns generalizing start with
  | nil => exact Nat.le_of_eq h
  | cons n ns ih =>
      obtain ⟨-, hle, hlater⟩ := h
      exact Nat.le_trans hle (ih hlater)

theorem Tiles.concat {start : Nat} {ns : List Node} {n : Node}
    (h : Tiles start ns n.span.start) (hn : n.span.start ≤ n.span.stop) :
    Tiles start (ns ++ [n]) n.span.stop := by
  induction ns generalizing start with
  | nil =>
      obtain rfl : start = n.span.start := h
      exact ⟨rfl, hn, rfl⟩
  | cons m ns ih =>
      obtain ⟨hstart, hle, hlater⟩ := h
      exact ⟨hstart, hle, ih hlater⟩

/-- A row that tiles a stretch of source is cut in two at the end of any of its nodes. -/
theorem tiles_append {start stop : Nat} {ms ns : List Node} :
    Tiles start (ms ++ ns) stop ↔ ∃ mid, Tiles start ms mid ∧ Tiles mid ns stop := by
  induction ms generalizing start with
  | nil =>
      constructor
      · intro h
        exact ⟨start, rfl, h⟩
      · rintro ⟨mid, hmid, h⟩
        obtain rfl : start = mid := hmid
        exact h
  | cons m ms ih =>
      rw [List.cons_append, Tiles, ih]
      constructor
      · rintro ⟨hstart, hle, mid, hms, hns⟩
        exact ⟨mid, ⟨hstart, hle, hms⟩, hns⟩
      · rintro ⟨mid, ⟨hstart, hle, hms⟩, hns⟩
        exact ⟨hstart, hle, mid, hms, hns⟩

/-- A row ends where its last node ends. -/
theorem Tiles.stop_getLastD {start stop : Nat} {n other : Node} {later : List Node}
    (h : Tiles start (n :: later) stop) : ((n :: later).getLastD other).span.stop = stop := by
  induction later generalizing start n other with
  | nil =>
      obtain ⟨-, -, hstop⟩ := h
      exact hstop
  | cons m later ih =>
      obtain ⟨-, -, hlater⟩ := h
      rw [List.getLastD_cons]
      exact ih hlater

end Node

namespace Document

/-- The childless nodes below the root. -/
def tokens (d : Document) : List Node := (Node.preorderList d.topLevel).filter Node.isToken

/-- The nodes that stand for the end of a line. -/
def newLines (d : Document) : List Node := d.root.preorder.filter fun n => n.kind == .newLine

end Document

end RunMarkers
