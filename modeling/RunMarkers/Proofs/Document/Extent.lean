import RunMarkers.Proofs.Document.Built
import RunMarkers.Proofs.Document.Numbering

/-!
# Document order is source order

In a tree that tiles its source a node holds all nodes below it, and siblings follow one another. So
in document order no node starts before the one that precedes it, however the nodes are nested and
however many of them are empty (`Document.IsPlaced.pairwise_start_preorder`). `Document.IsPlaced` is
what a builder leaves, whatever steps it was given.
-/

namespace RunMarkers

namespace Node

variable {s : Source}

mutual

/-- A node holds all nodes below it. -/
theorem span_of_mem_preorder : ∀ n : Node, (∀ m ∈ n.preorder, m.IsPlaced s) →
    ∀ m ∈ n.preorder, n.span.start ≤ m.span.start ∧ m.span.stop ≤ n.span.stop
  | .mk id kind span children => by
      intro hplaced m hm
      rcases List.mem_cons.1 hm with rfl | hm
      · exact ⟨Nat.le_refl _, Nat.le_refl _⟩
      · have hne : children ≠ [] := by
          rintro rfl
          exact List.not_mem_nil hm
        have htiles := (hplaced _ List.mem_cons_self).tiles hne
        apply span_of_mem_preorderList children htiles _ m hm
        exact fun x hx => hplaced x (List.mem_cons_of_mem _ hx)

/-- Nodes that tile a stretch of source hold all nodes below them there. -/
theorem span_of_mem_preorderList : ∀ (ns : List Node) {start stop : Nat}
    (_ : Tiles start ns stop) (_ : ∀ m ∈ preorderList ns, m.IsPlaced s),
    ∀ m ∈ preorderList ns, start ≤ m.span.start ∧ m.span.stop ≤ stop
  | [], _, _, _, _ => by
      intro m hm
      exact absurd hm List.not_mem_nil
  | n :: ns, start, stop, htiles, hplaced => by
      intro m hm
      obtain ⟨hstart, hle, hlater⟩ := htiles
      rcases List.mem_append.1 hm with hm | hm
      · obtain ⟨hlow, hhigh⟩ :=
          span_of_mem_preorder n (fun x hx => hplaced x (List.mem_append_left _ hx)) m hm
        rw [hstart] at hlow
        exact ⟨hlow, Nat.le_trans hhigh hlater.start_le_stop⟩
      · have hns : ∀ x ∈ preorderList ns, x.IsPlaced s := fun x hx =>
          hplaced x (List.mem_append_right _ hx)
        obtain ⟨hlow, hhigh⟩ := span_of_mem_preorderList ns hlater hns m hm
        exact ⟨Nat.le_trans hle hlow, hhigh⟩

end

mutual

theorem pairwise_start_preorder : ∀ n : Node, (∀ m ∈ n.preorder, m.IsPlaced s) →
    n.preorder.Pairwise fun l m => l.span.start ≤ m.span.start
  | .mk id kind span children => by
      intro hplaced
      rw [preorder, List.pairwise_cons]
      constructor
      · intro m hm
        exact (span_of_mem_preorder _ hplaced m (List.mem_cons_of_mem _ hm)).1
      · by_cases hchildren : children = []
        · rw [hchildren]
          exact List.Pairwise.nil
        · have htiles := (hplaced _ List.mem_cons_self).tiles hchildren
          apply pairwise_start_preorderList children htiles
          exact fun x hx => hplaced x (List.mem_cons_of_mem _ hx)

theorem pairwise_start_preorderList : ∀ (ns : List Node) {start stop : Nat}
    (_ : Tiles start ns stop) (_ : ∀ m ∈ preorderList ns, m.IsPlaced s),
    (preorderList ns).Pairwise fun l m => l.span.start ≤ m.span.start
  | [], _, _, _, _ => List.Pairwise.nil
  | n :: ns, start, stop, htiles, hplaced => by
      obtain ⟨-, -, hlater⟩ := htiles
      have hn : ∀ m ∈ n.preorder, m.IsPlaced s := fun x hx =>
        hplaced x (List.mem_append_left _ hx)
      have hns : ∀ m ∈ preorderList ns, m.IsPlaced s := fun x hx =>
        hplaced x (List.mem_append_right _ hx)
      rw [preorderList, List.pairwise_append]
      refine ⟨pairwise_start_preorder n hn, pairwise_start_preorderList ns hlater hns, ?_⟩
      intro l hl m hm
      -- what is below the first sibling ends with it, and the others start there
      calc
        l.span.start ≤ l.span.stop := (hn l hl).fits.start_le_stop
        _ ≤ n.span.stop := (span_of_mem_preorder n hn l hl).2
        _ ≤ m.span.start := (span_of_mem_preorderList ns hlater hns m hm).1

end

end Node

namespace Document

/-- All nodes of a document lie in its source, and siblings tile what they cover together. -/
structure IsPlaced (d : Document) : Prop where
  isPlaced : ∀ n ∈ Node.preorderList d.topLevel, n.IsPlaced d.source
  exists_tiles : ∃ stop, Node.Tiles 0 d.topLevel stop

/-- What a builder makes of its rows of finished nodes. -/
theorem isPlaced_of_finish {b : Builder} {d : Document} (hb : b.Sound) (hd : b.finish = .ok d) :
    d.IsPlaced := by
  obtain ⟨hframes, rfl⟩ := Builder.finish_eq_ok_iff.1 hd
  have habut := hb.abut
  have hplaced := hb.isPlaced
  rw [Builder.finished, hframes, List.flatMap_nil, List.nil_append] at hplaced
  rw [hframes] at habut
  refine ⟨?_, b.cursor, habut⟩
  intro n hn
  obtain ⟨m, hm, hn⟩ := Node.mem_preorderList.1 hn
  exact hplaced n (Node.mem_preorderList.2 ⟨m, List.mem_reverse.1 hm, hn⟩)

theorem isPlaced_of_build {source : Source} {path : Option Path} {fileKind : FileKind}
    {ss : List BuildStep} {d : Document} (hd : build source path fileKind ss = .ok d) :
    d.IsPlaced := by
  obtain ⟨b, hb, hd⟩ := bind_eq_ok_iff.1 hd
  exact isPlaced_of_finish ((Builder.sound_start source path fileKind).steps hb) hd

theorem isPlaced_of_finish_attempts {source : Source} {path : Option Path} {fileKind : FileKind}
    {ss : List BuildStep} {d : Document}
    (hd : ((Builder.start source path fileKind).attempts ss).2.finish = .ok d) :
    d.IsPlaced ∧ d.source = source := by
  obtain ⟨hsound, hsource, -⟩ := (Builder.sound_start source path fileKind).attempts ss
  refine ⟨isPlaced_of_finish hsound hd, ?_⟩
  obtain ⟨-, rfl⟩ := Builder.finish_eq_ok_iff.1 hd
  exact hsource

variable {d : Document} {n : Node} {c : Cursor}

theorem node_mem_preorder (hc : c ∈ d.cursors) : c.node ∈ d.root.preorder := by
  rw [← map_node_cursors]
  exact List.mem_map_of_mem hc

namespace IsPlaced

theorem fits (hd : d.IsPlaced) (hn : n ∈ d.root.preorder) : n.span.Fits d.source := by
  rcases List.mem_cons.1 hn with rfl | hn
  · exact ⟨Nat.zero_le _, Nat.le_refl _, Source.isBoundary_zero, Source.isBoundary_size⟩
  · exact (hd.isPlaced n hn).fits

/-- The children of a node, and those of the root as well, follow one another from its start. -/
theorem exists_tiles_children (hd : d.IsPlaced) (hn : n ∈ d.root.preorder)
    (hne : n.children ≠ []) : ∃ stop, Node.Tiles n.span.start n.children stop := by
  rcases List.mem_cons.1 hn with rfl | hn
  · exact hd.exists_tiles
  · exact ⟨n.span.stop, (hd.isPlaced n hn).tiles hne⟩

theorem start_firstChild (hd : d.IsPlaced) (hn : n ∈ d.root.preorder) {first : Node}
    {later : List Node} (hchildren : n.children = first :: later) :
    first.span.start = n.span.start := by
  obtain ⟨stop, htiles⟩ := hd.exists_tiles_children hn (hchildren ▸ List.cons_ne_nil first later)
  rw [hchildren] at htiles
  exact htiles.1

/-- In document order the starts never fall. -/
theorem pairwise_start_preorder (hd : d.IsPlaced) :
    d.root.preorder.Pairwise fun m n => m.span.start ≤ n.span.start := by
  obtain ⟨stop, htiles⟩ := hd.exists_tiles
  refine List.pairwise_cons.2 ⟨fun n _ => Nat.zero_le n.span.start, ?_⟩
  exact Node.pairwise_start_preorderList d.topLevel htiles hd.isPlaced

end IsPlaced

end Document

end RunMarkers
