import RunMarkers.Document.Builder
import RunMarkers.Proofs.Document.Tokens
import RunMarkers.Proofs.Except
import RunMarkers.Proofs.Source.Boundary

/-!
# What a builder builds

Whatever steps are tried, the tree that comes out covers its source in order: every node lies in the
source, the children of an interior node tile it, and the children of the root tile what the tokens
took. An open node has no end yet, so the invariant `Builder.Sound` speaks of the rows of finished
children, one for each open node and one for the root: `Builder.Abut` says that each row runs up to
the start of the node that is open within, and the innermost one up to the cursor.
-/

namespace RunMarkers

/-- A node lies in a source and is tiled by its children, if it has any. -/
structure Node.IsPlaced (s : Source) (n : Node) : Prop where
  fits : n.span.Fits s
  tiles : n.children ≠ [] → Node.Tiles n.span.start n.children n.span.stop

namespace BuildStep

/-- The number of bytes that a step asks for. -/
def length : BuildStep → Nat
  | token _ length => length
  | enter _ | leave => 0

/-- The number of bytes that tried steps took, by their answers: one that failed took none. -/
def bytesTaken : List BuildStep → List (Except BuildError (Option Nat)) → Nat
  | s :: ss, .ok _ :: answers => s.length + bytesTaken ss answers
  | _ :: ss, .error _ :: answers => bytesTaken ss answers
  | _, _ => 0

end BuildStep

namespace Builder

/-- The rows of finished children, from the innermost open node to the root, each run up to the
start of the node that is open within; the innermost one runs up to `stop`. -/
def Abut (topLevel : List Node) (frames : List Frame) (stop : Nat) : Prop :=
  match frames with
  | [] => Node.Tiles 0 topLevel.reverse stop
  | f :: outer => Node.Tiles f.start f.children.reverse stop ∧ Abut topLevel outer f.start

/-- The finished nodes below the root and the open nodes. -/
def finished (b : Builder) : List Node :=
  b.frames.flatMap (fun f => Node.preorderList f.children) ++ Node.preorderList b.topLevel

/-- The invariant of a builder, whatever steps it has been given. -/
structure Sound (b : Builder) : Prop where
  isBoundary_cursor : b.source.isBoundary b.cursor = true
  isBoundary_start : ∀ f ∈ b.frames, b.source.isBoundary f.start = true
  abut : Abut b.topLevel b.frames b.cursor
  isPlaced : ∀ n ∈ b.finished, n.IsPlaced b.source

@[simp] theorem source_attach (b : Builder) (n : Node) : (b.attach n).source = b.source := by
  rw [attach]
  split <;> rfl

@[simp] theorem fileKind_attach (b : Builder) (n : Node) : (b.attach n).fileKind = b.fileKind := by
  rw [attach]
  split <;> rfl

@[simp] theorem cursor_attach (b : Builder) (n : Node) : (b.attach n).cursor = b.cursor := by
  rw [attach]
  split <;> rfl

theorem start_mem_of_mem_frames_attach {b : Builder} {n : Node} {f : Frame}
    (hf : f ∈ (b.attach n).frames) : ∃ g ∈ b.frames, g.start = f.start := by
  rw [attach] at hf
  split at hf
  next h => exact ⟨f, h ▸ hf, rfl⟩
  next g outer h =>
      rcases List.mem_cons.1 hf with rfl | hf
      · exact ⟨g, h ▸ List.mem_cons_self, rfl⟩
      · exact ⟨f, h ▸ List.mem_cons_of_mem g hf, rfl⟩

theorem mem_finished_attach {b : Builder} {n m : Node} :
    m ∈ (b.attach n).finished ↔ m ∈ n.preorder ∨ m ∈ b.finished := by
  rw [attach]
  split
  next h => simp [finished, h, Node.preorderList]
  next f outer h => simp [finished, h, Node.preorderList]

theorem abut_attach {b : Builder} {n : Node} (h : Abut b.topLevel b.frames n.span.start)
    (hn : n.span.start ≤ n.span.stop) :
    Abut (b.attach n).topLevel (b.attach n).frames n.span.stop := by
  rw [attach]
  split
  next hframes =>
      rw [hframes, Abut] at h
      simpa [hframes, Abut] using h.concat hn
  next f outer hframes =>
      rw [hframes, Abut] at h
      simpa [Abut, h.2] using h.1.concat hn

theorem token_eq_ok_iff {b after : Builder} {kind : NodeKind} {length : Nat} :
    b.token kind length = .ok after ↔
      b.cursor + length ≤ b.source.size ∧ b.source.isBoundary (b.cursor + length) = true ∧
        ({ b with cursor := b.cursor + length, nextId := b.nextId + 1 }.attach
          (.token b.nextId kind ⟨b.cursor, b.cursor + length⟩)) = after := by
  rw [token]
  split
  next h => simp [Nat.not_le.2 h]
  next h =>
      split
      next hboundary => simp [hboundary, Nat.not_lt.1 h]
      next hboundary => simp [hboundary]

theorem leave_eq_ok_iff {b after : Builder} :
    b.leave = .ok after ↔
      ∃ f outer, b.frames = f :: outer ∧
        ({ b with frames := outer }.attach
          (.mk f.id f.kind ⟨f.start, b.cursor⟩ f.children.reverse)) = after := by
  rw [leave]
  split
  next h => simp [h]
  next f outer h =>
      constructor
      · intro hafter
        exact ⟨f, outer, h, Except.ok.inj hafter⟩
      · rintro ⟨g, inner, hframes, rfl⟩
        obtain ⟨rfl, rfl⟩ := List.cons.inj (h.symm.trans hframes)
        rfl

theorem source_step {b after : Builder} {s : BuildStep} (h : b.step s = .ok after) :
    after.source = b.source := by
  cases s with
  | enter kind => cases h; rfl
  | token kind length =>
      obtain ⟨-, -, rfl⟩ := token_eq_ok_iff.1 h
      simp
  | leave =>
      obtain ⟨f, outer, -, rfl⟩ := leave_eq_ok_iff.1 h
      simp

theorem cursor_step {b after : Builder} {s : BuildStep} (h : b.step s = .ok after) :
    after.cursor = b.cursor + s.length := by
  cases s with
  | enter kind => cases h; rfl
  | token kind length =>
      obtain ⟨-, -, rfl⟩ := token_eq_ok_iff.1 h
      simp [BuildStep.length]
  | leave =>
      obtain ⟨f, outer, -, rfl⟩ := leave_eq_ok_iff.1 h
      simp [BuildStep.length]

/-- A finished node that ends at the cursor, in the place of the row it is added to, keeps a builder
sound. -/
theorem sound_attach {b : Builder} {n : Node} (hstop : n.span.stop = b.cursor)
    (hstart : ∀ f ∈ b.frames, b.source.isBoundary f.start = true)
    (habut : Abut b.topLevel b.frames n.span.start) (hn : ∀ m ∈ n.preorder, m.IsPlaced b.source)
    (hfinished : ∀ m ∈ b.finished, m.IsPlaced b.source) : (b.attach n).Sound := by
  have hself : n.IsPlaced b.source := by
    cases n with
    | mk id kind span children => exact hn _ List.mem_cons_self
  refine ⟨?_, ?_, ?_, ?_⟩
  · rw [source_attach, cursor_attach, ← hstop]
    exact hself.fits.isBoundary_stop
  · intro f hf
    obtain ⟨g, hg, hstart'⟩ := start_mem_of_mem_frames_attach hf
    rw [source_attach, ← hstart']
    exact hstart g hg
  · rw [cursor_attach, ← hstop]
    exact abut_attach habut hself.fits.start_le_stop
  · intro m hm
    rw [source_attach]
    rcases mem_finished_attach.1 hm with hm | hm
    · exact hn m hm
    · exact hfinished m hm

theorem sound_start (source : Source) (path : Option Path) (fileKind : FileKind) :
    (start source path fileKind).Sound where
  isBoundary_cursor := Source.isBoundary_zero
  isBoundary_start := fun _ hf => absurd hf List.not_mem_nil
  abut := rfl
  isPlaced := fun _ hn => absurd hn List.not_mem_nil

theorem Sound.enter {b : Builder} (hb : b.Sound) (kind : NodeKind) : (b.enter kind).Sound := by
  refine ⟨hb.isBoundary_cursor, ?_, ⟨rfl, hb.abut⟩, hb.isPlaced⟩
  intro f hf
  rcases List.mem_cons.1 hf with rfl | hf
  · exact hb.isBoundary_cursor
  · exact hb.isBoundary_start f hf

theorem Sound.token {b after : Builder} {kind : NodeKind} {length : Nat} (hb : b.Sound)
    (h : b.token kind length = .ok after) : after.Sound := by
  obtain ⟨hsize, hboundary, rfl⟩ := token_eq_ok_iff.1 h
  refine sound_attach rfl hb.isBoundary_start hb.abut ?_ hb.isPlaced
  intro m hm
  obtain rfl : m = .token b.nextId kind ⟨b.cursor, b.cursor + length⟩ := by
    simpa [Node.token, Node.preorder, Node.preorderList] using hm
  exact ⟨⟨Nat.le_add_right _ _, hsize, hb.isBoundary_cursor, hboundary⟩, fun hne => absurd rfl hne⟩

theorem Sound.leave {b after : Builder} (hb : b.Sound) (h : b.leave = .ok after) :
    after.Sound := by
  obtain ⟨f, outer, hframes, rfl⟩ := leave_eq_ok_iff.1 h
  have habut := hb.abut
  have hstart := hb.isBoundary_start
  have hplaced := hb.isPlaced
  rw [finished, hframes] at hplaced
  rw [hframes] at habut hstart
  obtain ⟨htiles, houter⟩ := habut
  refine sound_attach rfl (fun g hg => hstart g (List.mem_cons_of_mem f hg)) houter ?_ ?_
  · intro m hm
    rcases List.mem_cons.1 hm with rfl | hm
    · -- the node that is closed: its row of children is the innermost one, and ends at the cursor
      exact ⟨⟨htiles.start_le_stop, Source.le_size_of_isBoundary hb.isBoundary_cursor,
        hstart f List.mem_cons_self, hb.isBoundary_cursor⟩, fun _ => htiles⟩
    · obtain ⟨n, hn, hm⟩ := Node.mem_preorderList.1 hm
      have hmem := Node.mem_preorderList.2 ⟨n, List.mem_reverse.1 hn, hm⟩
      exact hplaced m (by simp [hmem])
  · intro m hm
    rw [finished, List.mem_append] at hm
    refine hplaced m ?_
    rw [List.flatMap_cons, List.append_assoc]
    exact List.mem_append_right _ (List.mem_append.2 hm)

theorem Sound.step {b after : Builder} {s : BuildStep} (hb : b.Sound)
    (h : b.step s = .ok after) : after.Sound := by
  cases s with
  | enter kind => cases h; exact hb.enter kind
  | token kind length => exact hb.token h
  | leave => exact hb.leave h

theorem Sound.steps {b after : Builder} (hb : b.Sound) {ss : List BuildStep}
    (h : b.steps ss = .ok after) : after.Sound := by
  induction ss generalizing b with
  | nil => exact Except.ok.inj h ▸ hb
  | cons s ss ih =>
      obtain ⟨next, hnext, h⟩ := bind_eq_ok_iff.1 h
      exact ih (hb.step hnext) h

/-- A run of tried steps keeps the source and the invariant, and the cursor counts the bytes that
the steps took. -/
theorem Sound.attempts {b : Builder} (hb : b.Sound) (ss : List BuildStep) :
    (b.attempts ss).2.Sound ∧ (b.attempts ss).2.source = b.source ∧
      (b.attempts ss).2.cursor = b.cursor + BuildStep.bytesTaken ss (b.attempts ss).1 := by
  -- a step that fails leaves the builder as it was and takes no bytes
  induction ss generalizing b with
  | nil => exact ⟨hb, rfl, rfl⟩
  | cons s ss ih =>
      rw [Builder.attempts, attempt]
      cases hs : b.step s with
      | error e => exact ih hb
      | ok after =>
          obtain ⟨hsound, hsource, hcursor⟩ := ih (hb.step hs)
          refine ⟨hsound, hsource.trans (source_step hs), ?_⟩
          simp only [BuildStep.bytesTaken]
          rw [hcursor, cursor_step hs, Nat.add_assoc]

theorem finish_eq_ok_iff {b : Builder} {d : Document} :
    b.finish = .ok d ↔
      b.frames = [] ∧ d = ⟨b.source, b.path, b.fileKind, b.topLevel.reverse⟩ := by
  rw [finish]
  split
  next h =>
      rw [List.isEmpty_iff] at h
      simp [h, eq_comm]
  next h =>
      rw [List.isEmpty_iff] at h
      simp [h]

end Builder

namespace Document

/-- Whatever steps are tried, with failures among them: if no node is left open, every node of the
document lies in the source and has a text there, the children of each node below the root tile it,
and those of the root tile the bytes taken. -/
theorem isPlaced_of_attempts (source : Source) (path : Option Path) (fileKind : FileKind)
    (ss : List BuildStep) {d : Document}
    (hd : ((Builder.start source path fileKind).attempts ss).2.finish = .ok d) :
    d.source = source ∧
      (∀ n ∈ d.root.preorder, n.span.Fits source ∧ (source.charsOf? n.span).isSome = true) ∧
      (∀ n ∈ Node.preorderList d.topLevel, n.children ≠ [] →
        Node.Tiles n.span.start n.children n.span.stop) ∧
      Node.Tiles 0 d.root.children
        (BuildStep.bytesTaken ss ((Builder.start source path fileKind).attempts ss).1) := by
  obtain ⟨hsound, hsource, hcursor⟩ := (Builder.sound_start source path fileKind).attempts ss
  obtain ⟨hframes, rfl⟩ := Builder.finish_eq_ok_iff.1 hd
  change _ = source at hsource
  have habut := hsound.abut
  have hplaced := hsound.isPlaced
  rw [Builder.finished, hframes, List.flatMap_nil, List.nil_append, hsource] at hplaced
  rw [hframes, hcursor] at habut
  have hbelow : ∀ n ∈ Node.preorderList
      (((Builder.start source path fileKind).attempts ss).2.topLevel.reverse),
      n.IsPlaced source := by
    intro n hn
    obtain ⟨m, hm, hn⟩ := Node.mem_preorderList.1 hn
    exact hplaced n (Node.mem_preorderList.2 ⟨m, List.mem_reverse.1 hm, hn⟩)
  refine ⟨hsource, ?_, fun n hn => (hbelow n hn).tiles, ?_⟩
  · intro n hn
    have hfits : n.span.Fits source := by
      rcases List.mem_cons.1 hn with rfl | hn
      · rw [Node.span_mk, hsource]
        exact ⟨Nat.zero_le _, Nat.le_refl _, Source.isBoundary_zero, Source.isBoundary_size⟩
      · exact (hbelow n hn).fits
    exact ⟨hfits, Source.isSome_charsOf? hfits⟩
  · simpa [Document.root, Builder.start, Builder.Abut] using habut

/-- Steps that nest nodes, take a token of no bytes, and fail inside a character, with nothing to
leave and beyond the end. -/
def nestedSteps : List BuildStep :=
  [.enter .line, .token .leaf 1, .token .leaf 2, .enter .other, .token .leaf 0, .leave, .leave,
    .token .newLine 1, .leave, .token .leaf 9, .token .leaf 1]

end Document

end RunMarkers
