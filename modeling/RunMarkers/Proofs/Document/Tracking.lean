import RunMarkers.Proofs.Document.Calls
import RunMarkers.Proofs.Document.Numbering

/-!
# Two builders side by side

Whether a step fails is told by the source, the bytes taken and the open nodes, not by the numbers
of the nodes. So the builder of records takes just the steps that the builder of the tree takes,
however many nodes there are (`ArenaBuilder.Tracks.attempts`): one finishes when the other does, and
with as many nodes.
-/

namespace RunMarkers

namespace ArenaBuilder

/-- The two builders read the same file, have taken the same bytes, opened as many nodes and begun
as many. -/
structure Tracks (a : ArenaBuilder) (b : Builder) : Prop where
  source : a.source = b.source
  fileKind : a.fileKind = b.fileKind
  cursor : a.cursor = b.cursor
  length_opened : a.opened.length = b.frames.length + 1
  length_records : a.records.length = b.nextId

variable {a : ArenaBuilder} {b : Builder}

theorem tracks_start (source : Source) (path : Option Path) (fileKind : FileKind) :
    (start source path fileKind).Tracks (.start source path fileKind) :=
  ⟨rfl, rfl, rfl, rfl, rfl⟩

theorem length_records_push (a : ArenaBuilder) (kind : NodeKind) (span : Span) :
    (a.push kind span).2.records.length = a.records.length + 1 := by
  rw [push]
  split
  next => rw [List.length_append, List.length_singleton]
  next => rw [List.length_append, List.length_modify, List.length_singleton]

theorem length_frames_attach (b : Builder) (n : Node) :
    (b.attach n).frames.length = b.frames.length := by
  rw [Builder.attach]
  split
  next h => rfl
  next f outer h => rw [h, List.length_cons, List.length_cons]

theorem Tracks.enter (h : a.Tracks b) (kind : NodeKind) : (a.enter kind).2.Tracks (b.enter kind) where
  source := (source_push a kind _).trans h.source
  fileKind := (fileKind_push a kind _).trans h.fileKind
  cursor := (cursor_push a kind _).trans h.cursor
  length_opened := by
    change (a.push kind _).2.opened.length + 1 = b.frames.length + 1 + 1
    rw [opened_push, h.length_opened]
  length_records := by
    change (a.push kind _).2.records.length = b.nextId + 1
    rw [length_records_push, h.length_records]

theorem Tracks.token {kind : NodeKind} {length : Nat} {after : Builder} (h : a.Tracks b)
    (hok : b.token kind length = .ok after) :
    ∃ id a', a.token kind length = .ok (id, a') ∧ a'.Tracks after := by
  obtain ⟨hsize, hboundary, rfl⟩ := Builder.token_eq_ok_iff.1 hok
  rw [ArenaBuilder.token, h.source, h.cursor, if_neg (Nat.not_lt.2 hsize), if_pos hboundary]
  refine ⟨_, { (a.push kind ⟨b.cursor, b.cursor + length⟩).2 with cursor := b.cursor + length },
    rfl, ?_, ?_, ?_, ?_, ?_⟩
  · rw [Builder.source_attach, source_push, h.source]
  · rw [Builder.fileKind_attach, fileKind_push, h.fileKind]
  · rw [Builder.cursor_attach]
  · rw [length_frames_attach, opened_push, h.length_opened]
  · rw [Builder.nextId_attach, length_records_push, h.length_records]

theorem Tracks.token_error {kind : NodeKind} {length : Nat} {e : BuildError} (h : a.Tracks b)
    (herror : b.token kind length = .error e) : a.token kind length = .error e := by
  rw [Builder.token] at herror
  rw [ArenaBuilder.token, h.source, h.cursor]
  split
  next hsize =>
      rw [if_pos hsize] at herror
      exact congrArg Except.error (Except.error.inj herror)
  next hsize =>
      rw [if_neg hsize] at herror
      split
      next hboundary => rw [if_pos hboundary] at herror; cases herror
      next hboundary =>
          rw [if_neg hboundary] at herror
          exact congrArg Except.error (Except.error.inj herror)

theorem Tracks.leave {after : Builder} (h : a.Tracks b) (hok : b.leave = .ok after) :
    ∃ a', a.leave = .ok a' ∧ a'.Tracks after := by
  obtain ⟨f, outer, hframes, rfl⟩ := Builder.leave_eq_ok_iff.1 hok
  obtain ⟨id, p, ids, hopened⟩ : ∃ id p ids, a.opened = id :: p :: ids := by
    have hlength := h.length_opened
    rw [hframes] at hlength
    match hids : a.opened with
    | [] => rw [hids] at hlength; cases hlength
    | [id] => rw [hids] at hlength; cases hlength
    | id :: p :: ids => exact ⟨id, p, ids, rfl⟩
  have hlength := h.length_opened
  rw [hframes, hopened] at hlength
  rw [ArenaBuilder.leave, hopened]
  refine ⟨_, rfl, ?_, ?_, ?_, ?_, ?_⟩
  · rw [Builder.source_attach, h.source]
  · rw [Builder.fileKind_attach, h.fileKind]
  · rw [Builder.cursor_attach, h.cursor]
  · rw [length_frames_attach]
    exact Nat.succ.inj hlength
  · rw [Builder.nextId_attach, List.length_modify, h.length_records]

theorem Tracks.leave_error {e : BuildError} (h : a.Tracks b) (herror : b.leave = .error e) :
    a.leave = .error e := by
  rw [Builder.leave] at herror
  split at herror
  next hframes =>
      obtain ⟨id, hopened⟩ := List.length_eq_one_iff.1 (hframes ▸ h.length_opened)
      rw [ArenaBuilder.leave, hopened]
      exact congrArg Except.error (Except.error.inj herror)
  next f outer hframes => cases herror

theorem Tracks.step {s : BuildStep} {after : Builder} (h : a.Tracks b)
    (hok : b.step s = .ok after) : ∃ begun a', a.step s = .ok (begun, a') ∧ a'.Tracks after := by
  cases s with
  | enter kind =>
      cases hok
      exact ⟨_, _, rfl, h.enter kind⟩
  | token kind length =>
      obtain ⟨id, a', ha', htracks⟩ := h.token hok
      exact ⟨some id, a', by rw [ArenaBuilder.step, ha']; rfl, htracks⟩
  | leave =>
      obtain ⟨a', ha', htracks⟩ := h.leave hok
      exact ⟨none, a', by rw [ArenaBuilder.step, ha']; rfl, htracks⟩

theorem Tracks.step_error {s : BuildStep} {e : BuildError} (h : a.Tracks b)
    (herror : b.step s = .error e) : a.step s = .error e := by
  cases s with
  | enter kind => cases herror
  | token kind length => rw [ArenaBuilder.step, h.token_error herror]; rfl
  | leave => rw [ArenaBuilder.step, h.leave_error herror]; rfl

theorem Tracks.attempts (h : a.Tracks b) (ss : List BuildStep) :
    (a.attempts ss).2.Tracks (b.attempts ss).2 := by
  induction ss generalizing a b with
  | nil => exact h
  | cons s ss ih =>
      rw [Builder.attempts, Builder.attempt, ArenaBuilder.attempts, ArenaBuilder.attempt]
      cases hs : b.step s with
      | error e =>
          rw [h.step_error hs]
          exact ih h
      | ok after =>
          obtain ⟨begun, a', ha', htracks⟩ := h.step hs
          rw [ha']
          exact ih htracks

/-- Steps of which none fails are the same steps tried. -/
theorem Tracks.steps {after : Builder} (h : a.Tracks b) {ss : List BuildStep}
    (hok : b.steps ss = .ok after) :
    a.steps ss = .ok (a.attempts ss).2 ∧ (b.attempts ss).2 = after := by
  induction ss generalizing a b with
  | nil => exact ⟨rfl, Except.ok.inj hok⟩
  | cons s ss ih =>
      obtain ⟨next, hnext, hok⟩ := bind_eq_ok_iff.1 hok
      obtain ⟨begun, a', ha', htracks⟩ := h.step hnext
      rw [ArenaBuilder.steps, ArenaBuilder.attempts, ArenaBuilder.attempt, ha', Builder.attempts,
        Builder.attempt, hnext]
      exact ih htracks hok

theorem finish_eq_ok_iff {arena : Arena} :
    a.finish = .ok arena ↔ a.opened.length = 1 ∧
      arena = ⟨a.source, a.path, a.fileKind, a.records.modify 0 (·.endAt a.source.size)⟩ := by
  rw [finish]
  split
  next h => simp [h, eq_comm]
  next h => simp [h]

theorem Tracks.finish {arena : Arena} (h : a.Tracks b) (harena : a.finish = .ok arena) :
    ∃ d, b.finish = .ok d ∧ arena.nodeCount = b.nextId ∧ arena.fileKind = d.fileKind := by
  obtain ⟨hopened, rfl⟩ := finish_eq_ok_iff.1 harena
  have hframes : b.frames = [] := List.length_eq_zero_iff.1
    (Nat.succ.inj (h.length_opened.symm.trans hopened))
  refine ⟨_, Builder.finish_eq_ok_iff.2 ⟨hframes, rfl⟩, ?_, h.fileKind⟩
  rw [Arena.nodeCount, List.length_modify, h.length_records]

theorem Tracks.finish_of_finish {d : Document} (h : a.Tracks b) (hd : b.finish = .ok d) :
    ∃ arena, a.finish = .ok arena := by
  obtain ⟨hframes, -⟩ := Builder.finish_eq_ok_iff.1 hd
  exact ⟨_, finish_eq_ok_iff.2 ⟨by rw [h.length_opened, hframes]; rfl, rfl⟩⟩

end ArenaBuilder

end RunMarkers
