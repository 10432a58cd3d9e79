import RunMarkers.Proofs.Document.EmptyTokens
import RunMarkers.Proofs.Document.Extent
import RunMarkers.Proofs.Marker.ForwardPass
import RunMarkers.Proofs.Marker.Links
import RunMarkers.Proofs.Source.Positions

/-!
# Markers in the order of the source

A marker is placed at the first child of its node, which starts where the node starts. Nodes are met
in the order in which they start, so the markers of a document are sorted by their places
(`Document.pairwise_place_markers`), although several of them may stand at one place. Among sorted
markers a search from the last one back finds the nearest marker at or above a line
(`find?_reverse_eq_some_iff`), and `Document.markerAt` gives it up for a heading in between.
-/

namespace RunMarkers

/-- Of the markers at or above a line, one on the greatest line, and the last of them there. -/
def IsNearestMarker (ms : List Marker) (line : Nat) (m : Marker) : Prop :=
  ∃ before after, ms = before ++ m :: after ∧ m.line ≤ line ∧
    (∀ n ∈ before, n.line ≤ line → n.line ≤ m.line) ∧ ∀ n ∈ after, n.line ≤ line → n.line < m.line

/-- Going back through markers sorted by their lines, the first at or above a line is the
nearest. -/
theorem find?_reverse_eq_some_iff {ms : List Marker}
    (hms : ms.Pairwise fun m n => m.line ≤ n.line) (line : Nat) (m : Marker) :
    (ms.reverse.find? fun n => Nat.ble n.line line) = some m ↔ IsNearestMarker ms line m := by
  rw [List.find?_eq_some_iff_append, Nat.ble_eq]
  constructor
  · rintro ⟨hle, later, earlier, hsplit, hlater⟩
    have hms' : ms = earlier.reverse ++ m :: later.reverse := by
      rw [← ms.reverse_reverse, hsplit, List.reverse_append, List.reverse_cons, List.append_assoc]
      rfl
    rw [hms', List.pairwise_append] at hms
    refine ⟨earlier.reverse, later.reverse, hms', hle, ?_, ?_⟩
    · intro n hn _
      exact hms.2.2 n hn m List.mem_cons_self
    · intro n hn hnle
      have hbeyond := hlater n (List.mem_reverse.1 hn)
      rw [Bool.not_eq_true', ← Bool.not_eq_true, Nat.ble_eq] at hbeyond
      exact absurd hnle hbeyond
  · rintro ⟨before, after, rfl, hle, -, hafter⟩
    refine ⟨hle, after.reverse, before.reverse, ?_, ?_⟩
    · rw [List.reverse_append, List.reverse_cons, List.append_assoc]
      rfl
    · intro n hn
      have hn := List.mem_reverse.1 hn
      rw [List.pairwise_append, List.pairwise_cons] at hms
      rw [Bool.not_eq_true', ← Bool.not_eq_true, Nat.ble_eq]
      -- a later marker on no line beyond would be on a line before that of `m`
      intro hnle
      exact Nat.not_lt_of_le (hms.2.1.1 n hn) (hafter n hn hnle)

namespace Document

variable {d : Document} {c : Cursor} {m : Marker}

theorem markers_eq_filterMap_cursors (d : Document) :
    d.markers = d.cursors.filterMap d.marker? := by
  rw [markers]
  split
  next hsuite => exact markersFrom_eq_filterMap d [] [] [] d.root
  next hsuite =>
      symm
      apply List.filterMap_eq_nil_iff.2
      intro c _
      exact d.marker?_of_not_isSuite (Bool.not_eq_true _ ▸ hsuite) c

/-- A marker is placed at the first child of its node. -/
theorem exists_anchor_of_markerIn? {scope : Option Section} {l : Level}
    (hm : d.markerIn? scope l = some m) :
    ∃ anchor later, l.node.children = anchor :: later ∧ m.span = anchor.span ∧
      m.position = d.placeOf anchor := by
  rw [markerIn?] at hm
  split at hm
  next =>
      rcases Option.or_eq_some_iff.1 hm with hheading | ⟨-, hcase⟩
      · rw [headingMarker?] at hheading
        split at hheading
        next =>
            obtain ⟨anchor, hanchor, rfl⟩ := Option.map_eq_some_iff.1 hheading
            obtain ⟨later, hchildren⟩ := List.head?_eq_some_iff.1 hanchor
            exact ⟨anchor, later, hchildren, rfl, rfl⟩
        next => cases hheading
      · unfold caseMarker? at hcase
        split at hcase
        next within previous earlier anchor later hbefore hchildren =>
            split at hcase
            next =>
                obtain rfl := Option.some.inj hcase
                exact ⟨anchor, later, hchildren, rfl, rfl⟩
            next => cases hcase
        next => cases hcase
  next => cases hm

theorem position_of_mem_markers (hm : m ∈ d.markers) :
    m.position = d.source.positionAt m.span.start := by
  rw [markers_eq_filterMap_cursors] at hm
  obtain ⟨c, -, hm⟩ := List.mem_filterMap.1 hm
  obtain ⟨anchor, -, -, hspan, hposition⟩ := exists_anchor_of_markerIn? hm
  rw [hposition, hspan, placeOf]

/-- A marker is placed where its node starts. -/
theorem place_of_marker? (hd : d.IsPlaced) (hc : c ∈ d.cursors) (hm : d.marker? c = some m) :
    m.span.start = c.node.span.start ∧ m.position = d.placeOf c.node := by
  obtain ⟨anchor, later, hchildren, hspan, hposition⟩ := exists_anchor_of_markerIn? hm
  have hstart := hd.start_firstChild (node_mem_preorder hc) hchildren
  rw [hspan, hposition, placeOf, placeOf, hstart]
  exact ⟨rfl, rfl⟩

theorem IsPlaced.pairwise_place_cursors (hd : d.IsPlaced) (hsize : d.source.size < UInt32.size) :
    d.cursors.Pairwise fun c e =>
      c.node.span.start ≤ e.node.span.start ∧ d.placeOf c.node ≤ d.placeOf e.node := by
  have hstarts := hd.pairwise_start_preorder
  rw [← map_node_cursors, List.pairwise_map] at hstarts
  apply hstarts.imp_of_mem
  intro c e hc he hle
  have hcfits := hd.fits (node_mem_preorder hc)
  have hefits := hd.fits (node_mem_preorder he)
  exact ⟨hle, (Source.strictMonoOn_positionAt hsize).monotoneOn hcfits.isBoundary_start
    hefits.isBoundary_start hle⟩

/-- The markers of a document are sorted by their places. -/
theorem pairwise_place_markers (hd : d.IsPlaced) (hsize : d.source.size < UInt32.size) :
    d.markers.Pairwise fun m n => m.span.start ≤ n.span.start ∧ m.position ≤ n.position := by
  rw [markers_eq_filterMap_cursors, List.pairwise_filterMap]
  apply (hd.pairwise_place_cursors hsize).imp_of_mem
  intro c e hc he hle m hm n hn
  obtain ⟨hmstart, hmposition⟩ := place_of_marker? hd hc hm
  obtain ⟨hnstart, hnposition⟩ := place_of_marker? hd he hn
  rwa [hmstart, hnstart, hmposition, hnposition]

theorem pairwise_line_markers (hd : d.IsPlaced) (hsize : d.source.size < UInt32.size) :
    d.markers.Pairwise fun m n => m.line ≤ n.line :=
  (pairwise_place_markers hd hsize).imp fun h => Position.line_le_of_le h.2

/-- A heading, at any depth, starts behind one line and at or before another. -/
def HasHeadingWithin (d : Document) (after line : Nat) : Prop :=
  ∃ n ∈ d.root.preorder, n.kind = .heading ∧ after < (d.placeOf n).line ∧
    (d.placeOf n).line ≤ line

theorem any_headingLines_iff (d : Document) (after line : Nat) :
    (d.headingLines.any fun heading => Nat.blt after heading && Nat.ble heading line) = true ↔
      d.HasHeadingWithin after line := by
  simp only [headingLines, List.any_map, List.any_filter, List.any_eq_true, Function.comp_apply,
    Bool.and_eq_true, beq_iff_eq, Nat.blt_eq, Nat.ble_eq, HasHeadingWithin]

theorem markerAt_eq_some_iff_isNearestMarker (hd : d.IsPlaced) (hsize : d.source.size < UInt32.size)
    (line : Nat) (m : Marker) :
    d.markerAt line = some m ↔
      IsNearestMarker d.markers line m ∧ ¬ d.HasHeadingWithin m.line line := by
  rw [markerAt, owner?, Option.filter_eq_some_iff,
    find?_reverse_eq_some_iff (pairwise_line_markers hd hsize), Bool.not_eq_true',
    ← Bool.not_eq_true, any_headingLines_iff]

theorem markerAt_eq_none_iff (hd : d.IsPlaced) (hsize : d.source.size < UInt32.size)
    (line : Nat) :
    d.markerAt line = none ↔
      (∀ m ∈ d.markers, line < m.line) ∨
        ∃ m, IsNearestMarker d.markers line m ∧ d.HasHeadingWithin m.line line := by
  have hnearest := find?_reverse_eq_some_iff (pairwise_line_markers hd hsize) line
  cases hfind : d.markers.reverse.find? fun m => Nat.ble m.line line with
  | none =>
      have hbeyond : ∀ m ∈ d.markers, line < m.line := by
        intro m hm
        have hle := List.find?_eq_none.1 hfind m (List.mem_reverse.2 hm)
        rw [Nat.ble_eq] at hle
        exact Nat.lt_of_not_le hle
      rw [markerAt, owner?, hfind, Option.filter_none]
      exact iff_of_true rfl (Or.inl hbeyond)
  | some m =>
      have hm := (hnearest m).1 hfind
      rw [markerAt, owner?, hfind, Option.filter_eq_none_iff]
      constructor
      · intro hnone
        have hheading := hnone m rfl
        rw [Bool.not_eq_true', Bool.not_eq_false, any_headingLines_iff] at hheading
        exact Or.inr ⟨m, hm, hheading⟩
      · rintro (hbeyond | ⟨n, hn, hheading⟩) m' hm'
        · obtain ⟨before, after, hsplit, hle, -⟩ := hm
          have hmem : m ∈ d.markers := hsplit ▸ List.mem_append_right _ List.mem_cons_self
          exact absurd hle (Nat.not_le_of_lt (hbeyond m hmem))
        · -- there is one nearest marker, the one that the search finds
          have hfound := hfind.symm.trans ((hnearest n).2 hn)
          rw [← Option.some.inj hm', Option.some.inj hfound, Bool.not_eq_true', Bool.not_eq_false,
            any_headingLines_iff]
          exact hheading

/-- Steps that put two lines on one physical line, and a heading into a block. -/
def crowdedSteps : List BuildStep :=
  [.enter .heading, .token .leaf 4, .leave, .token .newLine 1, .enter .line, .token .leaf 1, .leave,
    .token .newLine 0, .enter .line, .token .leaf 1, .leave, .token .newLine 1, .token .leaf 0,
    .enter .block, .enter .heading, .token .leaf 1, .leave, .leave]

/-- What `crowdedSteps` build over a text of three lines. -/
def crowdedDocument : Document where
  source := .ofChars ['t', 'a', 's', 'k', '\n', 'x', 'y', '\n', 'z']
  path := none
  fileKind := .suite
  topLevel :=
    [.mk 1 .heading ⟨0, 4⟩ [.token 2 .leaf ⟨0, 4⟩], .token 3 .newLine ⟨4, 5⟩,
      .mk 4 .line ⟨5, 6⟩ [.token 5 .leaf ⟨5, 6⟩], .token 6 .newLine ⟨6, 6⟩,
      .mk 7 .line ⟨6, 7⟩ [.token 8 .leaf ⟨6, 7⟩], .token 9 .newLine ⟨7, 8⟩,
      .token 10 .leaf ⟨8, 8⟩,
      .mk 11 .block ⟨8, 9⟩ [.mk 12 .heading ⟨8, 9⟩ [.token 13 .leaf ⟨8, 9⟩]]]

end Document

end RunMarkers
