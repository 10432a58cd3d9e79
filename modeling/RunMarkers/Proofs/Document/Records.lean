import RunMarkers.Document.Arena
import RunMarkers.Proofs.Document.Tracking

/-!
# The records that a build leaves

Two builders take the same steps: `Builder` grows a tree, `ArenaBuilder` pushes records that link to
each other. As long as the numbers have 32 bits they answer alike, and the records are at every
moment those of the tree, with its open nodes (`Builder.rows`): `ArenaBuilder.Mirrors.attempts`. So
what is finished is the arena of the document (`Document.exists_attempts_arena`).
-/

namespace RunMarkers

mutual

/-- The records of a tree whose root has a place among the children of a parent. -/
def Node.records (parent : Option Nat) (index : Nat) : Node → List NodeRecord
  | .mk id kind span children =>
    ⟨kind, span, parent, index, children.map Node.id⟩ :: Node.recordsList id 0 children

/-- The records of the trees of siblings, the first of them at a place among the children of the
parent. -/
def Node.recordsList (parent index : Nat) : List Node → List NodeRecord
  | [] => []
  | n :: ns => n.records (some parent) index ++ Node.recordsList parent (index + 1) ns

end

theorem Node.recordsList_append (parent index : Nat) (ms ns : List Node) :
    recordsList parent index (ms ++ ns) =
      recordsList parent index ms ++ recordsList parent (index + ms.length) ns := by
  induction ms generalizing index with
  | nil => rfl
  | cons m ms ih =>
      rw [List.cons_append, recordsList, recordsList, ih, List.append_assoc, List.length_cons]
      congr 3
      omega

namespace Node

mutual

theorem length_records (parent : Option Nat) (index : Nat) :
    ∀ n : Node, (n.records parent index).length = n.count
  | .mk id kind span children => by
      rw [records, count, List.length_cons, length_recordsList id 0 children]

theorem length_recordsList (parent index : Nat) :
    ∀ ns : List Node, (recordsList parent index ns).length = countList ns
  | [] => rfl
  | n :: ns => by
      rw [recordsList, countList, List.length_append, length_records (some parent) index n,
        length_recordsList parent (index + 1) ns]

end

end Node

namespace Cursor

mutual

theorem map_record_cursors (above : List Level) (before after : List Node) :
    ∀ n : Node, (n.cursors above before after).map record =
      n.records (above.head?.map fun l => l.node.id) before.length
  | .mk id kind span children => by
      rw [Node.cursors, List.map_cons, map_record_childCursors, Node.records]
      congr 1
      cases above <;> rfl

theorem map_record_childCursors (here : Level) (above : List Level) (before : List Node) :
    ∀ ns : List Node, (Node.childCursors (here :: above) before ns).map record =
      Node.recordsList here.node.id before.length ns
  | [] => rfl
  | n :: ns => by
      rw [Node.childCursors, List.map_append, map_record_cursors (here :: above) before ns n,
        map_record_childCursors here above (n :: before) ns, Node.recordsList, List.length_cons]
      rfl

end

end Cursor

theorem Document.records_arena (d : Document) : d.arena.records = d.root.records none 0 :=
  Cursor.map_record_cursors [] [] [] d.root

namespace Builder

/-- The number of the innermost open node. -/
def innermost : List Frame → Nat
  | [] => 0
  | f :: _ => f.id

/-- The finished children of the innermost open node, last one first. -/
def row (topLevel : List Node) : List Frame → List Node
  | [] => topLevel
  | f :: _ => f.children

/-- The records of the nodes begun, the open ones without an end yet. The innermost open node also
has the children `more`. -/
def rows (topLevel : List Node) (more : List Nat) : List Frame → List NodeRecord
  | [] =>
    ⟨.block, ⟨0, 0⟩, none, 0, topLevel.reverse.map Node.id ++ more⟩ ::
      Node.recordsList 0 0 topLevel.reverse
  | f :: outer =>
    rows topLevel [f.id] outer ++
      ⟨f.kind, ⟨f.start, f.start⟩, some (innermost outer), (row topLevel outer).length,
        f.children.reverse.map Node.id ++ more⟩ :: Node.recordsList f.id 0 f.children.reverse

theorem length_rows (topLevel : List Node) (more : List Nat) (frames : List Frame) :
    (rows topLevel more frames).length = (numbers topLevel frames).length := by
  induction frames generalizing more with
  | nil =>
      simp [rows, numbers, Node.length_recordsList, Node.length_preorderList]
  | cons f outer ih =>
      simp [rows, numbers, ih, Node.length_recordsList, Node.length_preorderList]

theorem rows_attach (b : Builder) (n : Node) :
    rows (b.attach n).topLevel [] (b.attach n).frames =
      rows b.topLevel [n.id] b.frames ++
        n.records (some (innermost b.frames)) (row b.topLevel b.frames).length := by
  rw [attach]
  split
  next h => simp [h, rows, innermost, row, Node.recordsList_append, Node.recordsList]
  next f outer h => simp [h, rows, innermost, row, Node.recordsList_append, Node.recordsList]

theorem length_rows_of_numbers_cons {topLevel : List Node} {f : Frame} {outer : List Frame}
    {count : Nat} (h : numbers topLevel (f :: outer) = List.range count) (more : List Nat) :
    (rows topLevel more outer).length = f.id := by
  have hid : (List.range count)[(numbers topLevel outer).length]? = some f.id := by
    rw [← h, numbers, List.getElem?_append_right (Nat.le_refl _), Nat.sub_self]
    rfl
  obtain ⟨hlt, hid⟩ := List.getElem?_eq_some_iff.1 hid
  rw [length_rows, ← hid, List.getElem_range]

/-- The record of the innermost open node stands at its number. -/
theorem exists_rows_eq_append {topLevel : List Node} {frames : List Frame} {count : Nat}
    (h : numbers topLevel frames = List.range count) :
    ∃ (met : List NodeRecord) (r : NodeRecord) (later : List NodeRecord),
      met.length = innermost frames ∧ r.children = (row topLevel frames).reverse.map Node.id ∧
        ∀ more, rows topLevel more frames =
          met ++ { r with children := r.children ++ more } :: later := by
  cases frames with
  | nil =>
      exact ⟨[], ⟨.block, ⟨0, 0⟩, none, 0, topLevel.reverse.map Node.id⟩,
        Node.recordsList 0 0 topLevel.reverse, rfl, rfl, fun more => rfl⟩
  | cons f outer =>
      exact ⟨rows topLevel [f.id] outer,
        ⟨f.kind, ⟨f.start, f.start⟩, some (innermost outer), (row topLevel outer).length,
          f.children.reverse.map Node.id⟩,
        Node.recordsList f.id 0 f.children.reverse, length_rows_of_numbers_cons h [f.id], rfl,
        fun more => rfl⟩

end Builder

namespace ArenaBuilder

open Builder

/-- The records are those of the tree that is being built, with its open nodes. -/
structure Mirrors (a : ArenaBuilder) (b : Builder) : Prop where
  source : a.source = b.source
  path : a.path = b.path
  fileKind : a.fileKind = b.fileKind
  cursor : a.cursor = b.cursor
  opened : a.opened = b.frames.map Frame.id ++ [0]
  records : a.records = rows b.topLevel [] b.frames

variable {a : ArenaBuilder} {b : Builder}

theorem mirrors_start (source : Source) (path : Option Path) (fileKind : FileKind) :
    (start source path fileKind).Mirrors (.start source path fileKind) :=
  ⟨rfl, rfl, rfl, rfl, rfl, rfl⟩

theorem Mirrors.tracks (h : a.Mirrors b) (hb : b.IsNumbered) : a.Tracks b where
  source := h.source
  fileKind := h.fileKind
  cursor := h.cursor
  length_opened := by rw [h.opened, List.length_append, List.length_map, List.length_singleton]
  length_records := by rw [h.records, length_rows, hb, List.length_range]

theorem modify_length_append {α : Type} (met later : List α) (x : α) (f : α → α) :
    (met ++ x :: later).modify met.length f = met ++ f x :: later :=
  List.modifyTailIdx_add (List.modifyHead f) 0 met (x :: later)

theorem exists_map_id_eq_cons (frames : List Frame) :
    ∃ outer, frames.map Frame.id ++ [0] = innermost frames :: outer := by
  cases frames with
  | nil => exact ⟨[], rfl⟩
  | cons f outer => exact ⟨outer.map Frame.id ++ [0], rfl⟩

/-- A push answers the next number, and links the new record to the innermost open node. -/
theorem Mirrors.push_eq (h : a.Mirrors b) (hb : b.IsNumbered) (hlt : b.nextId < UInt32.size)
    (kind : NodeKind) (span : Span) :
    a.push kind span =
      (b.nextId, { a with
        records := rows b.topLevel [b.nextId] b.frames ++
          [⟨kind, span, some (innermost b.frames), (row b.topLevel b.frames).length, []⟩] }) := by
  obtain ⟨outer, hids⟩ := exists_map_id_eq_cons b.frames
  have hopened := h.opened.trans hids
  obtain ⟨met, r, later, hmet, hchildren, hrows⟩ := exists_rows_eq_append hb
  have hid : a.records.length % UInt32.size = b.nextId := by
    rw [h.records, length_rows, hb, List.length_range, Nat.mod_eq_of_lt hlt]
  have hindex : (a.records[innermost b.frames]?).elim 0 (fun r => r.children.length) =
      (row b.topLevel b.frames).length := by
    rw [h.records, hrows, ← hmet, List.getElem?_append_right (Nat.le_refl _), Nat.sub_self]
    simp [hchildren]
  have hmodify : a.records.modify (innermost b.frames) (·.addChild b.nextId) =
      rows b.topLevel [b.nextId] b.frames := by
    rw [h.records, hrows, hrows, ← hmet, modify_length_append]
    simp [NodeRecord.addChild]
  simp only [push, hopened, hid, hindex, hmodify]

/-- The records that attach a finished node: its number is the last among the children of the
innermost open node, and its own records come last. -/
theorem mirrors_attach {n : Node} (hsource : a.source = b.source) (hpath : a.path = b.path)
    (hkind : a.fileKind = b.fileKind) (hcursor : a.cursor = b.cursor)
    (hopened : a.opened = b.frames.map Frame.id ++ [0])
    (hrecords : a.records = rows b.topLevel [n.id] b.frames ++
      n.records (some (innermost b.frames)) (row b.topLevel b.frames).length) :
    a.Mirrors (b.attach n) := by
  have hframes : (b.attach n).frames.map Frame.id = b.frames.map Frame.id := by
    rw [attach]
    split
    next h => rfl
    next f outer h => rw [h]; rfl
  refine ⟨?_, ?_, ?_, ?_, ?_, ?_⟩
  · rw [source_attach, hsource]
  · rw [hpath, attach]
    split <;> rfl
  · rw [fileKind_attach, hkind]
  · rw [cursor_attach, hcursor]
  · rw [hframes, hopened]
  · rw [rows_attach, hrecords]

theorem Mirrors.enter (h : a.Mirrors b) (hb : b.IsNumbered) (hlt : b.nextId < UInt32.size)
    (kind : NodeKind) :
    (a.enter kind).1 = b.nextId ∧ (a.enter kind).2.Mirrors (b.enter kind) := by
  rw [ArenaBuilder.enter, h.push_eq hb hlt]
  refine ⟨rfl, h.source, h.path, h.fileKind, h.cursor, congrArg (b.nextId :: ·) h.opened, ?_⟩
  rw [Builder.enter, rows, h.cursor]
  rfl

theorem Mirrors.token {kind : NodeKind} {length : Nat} {after : Builder} (h : a.Mirrors b)
    (hb : b.IsNumbered) (hlt : b.nextId < UInt32.size) (hok : b.token kind length = .ok after) :
    ∃ a', a.token kind length = .ok (b.nextId, a') ∧ a'.Mirrors after := by
  obtain ⟨hsize, hboundary, rfl⟩ := token_eq_ok_iff.1 hok
  rw [ArenaBuilder.token, h.push_eq hb hlt, h.source, h.cursor, if_neg (Nat.not_lt.2 hsize),
    if_pos hboundary]
  exact ⟨_, rfl, mirrors_attach rfl h.path h.fileKind rfl h.opened rfl⟩

/-- Closing a node writes its end into its record, which stands at its number. -/
theorem Mirrors.leave {after : Builder} (h : a.Mirrors b) (hb : b.IsNumbered)
    (hok : b.leave = .ok after) : ∃ a', a.leave = .ok a' ∧ a'.Mirrors after := by
  obtain ⟨f, outer, hframes, rfl⟩ := leave_eq_ok_iff.1 hok
  rw [IsNumbered, hframes] at hb
  have hopened := h.opened
  have hrecords := h.records
  rw [hframes] at hopened hrecords
  obtain ⟨ids, hids⟩ := exists_map_id_eq_cons outer
  rw [List.map_cons, List.cons_append, hids] at hopened
  rw [ArenaBuilder.leave, hopened]
  refine ⟨_, rfl, mirrors_attach h.source h.path h.fileKind h.cursor hids.symm ?_⟩
  have hmodify := modify_length_append (rows b.topLevel [f.id] outer)
    (Node.recordsList f.id 0 f.children.reverse)
    ⟨f.kind, ⟨f.start, f.start⟩, some (innermost outer), (row b.topLevel outer).length,
      f.children.reverse.map Node.id⟩ (·.endAt b.cursor)
  rw [length_rows_of_numbers_cons hb] at hmodify
  simp only [hrecords, rows, List.append_nil, h.cursor]
  exact hmodify

theorem Mirrors.step {s : BuildStep} {after : Builder} (h : a.Mirrors b) (hb : b.IsNumbered)
    (hok : b.step s = .ok after) (hle : after.nextId ≤ UInt32.size) :
    ∃ a', a.step s = .ok (b.begun s, a') ∧ a'.Mirrors after := by
  cases s with
  | enter kind =>
      cases hok
      obtain ⟨hid, hmirrors⟩ := h.enter hb hle kind
      exact ⟨_, congrArg Except.ok (Prod.ext (congrArg some hid) rfl), hmirrors⟩
  | token kind length =>
      have hlt : b.nextId < UInt32.size := by
        obtain ⟨-, -, rfl⟩ := token_eq_ok_iff.1 hok
        rwa [nextId_attach] at hle
      obtain ⟨a', ha', hmirrors⟩ := h.token hb hlt hok
      exact ⟨a', by rw [ArenaBuilder.step, ha']; rfl, hmirrors⟩
  | leave =>
      obtain ⟨a', ha', hmirrors⟩ := h.leave hb hok
      exact ⟨a', by rw [ArenaBuilder.step, ha']; rfl, hmirrors⟩

/-- Tried steps are answered alike, and leave the records of the tree. -/
theorem Mirrors.attempts (h : a.Mirrors b) (hb : b.IsNumbered) (ss : List BuildStep)
    (hle : (b.attempts ss).2.nextId ≤ UInt32.size) :
    (a.attempts ss).1 = (b.attempts ss).1 ∧ (a.attempts ss).2.Mirrors (b.attempts ss).2 := by
  induction ss generalizing a b with
  | nil => exact ⟨rfl, h⟩
  | cons s ss ih =>
      rw [Builder.attempts, Builder.attempt] at hle ⊢
      rw [ArenaBuilder.attempts, ArenaBuilder.attempt]
      cases hs : b.step s with
      | error e =>
          rw [hs] at hle
          rw [(h.tracks hb).step_error hs]
          obtain ⟨hanswers, hmirrors⟩ := ih h hb hle
          exact ⟨congrArg (Except.error e :: ·) hanswers, hmirrors⟩
      | ok after =>
          rw [hs] at hle
          obtain ⟨a', ha', hmirrors⟩ :=
            h.step hb hs (Nat.le_trans (nextId_le_attempts after ss) hle)
          rw [ha']
          obtain ⟨hanswers, hmirrors⟩ := ih hmirrors (hb.step hs) hle
          exact ⟨congrArg (Except.ok (b.begun s) :: ·) hanswers, hmirrors⟩

/-- What is finished is the arena of the document. -/
theorem Mirrors.finish {d : Document} (h : a.Mirrors b) (hd : b.finish = .ok d) :
    a.finish = .ok d.arena := by
  obtain ⟨hframes, rfl⟩ := Builder.finish_eq_ok_iff.1 hd
  have hrecords := h.records
  rw [hframes, rows] at hrecords
  have hroot : a.records.modify 0 (·.endAt a.source.size) =
      (Document.arena ⟨b.source, b.path, b.fileKind, b.topLevel.reverse⟩).records := by
    rw [Document.records_arena, hrecords, List.modify_zero_cons, h.source, Document.root,
      Node.records, List.append_nil]
    rfl
  rw [ArenaBuilder.finish, if_pos (by rw [h.opened, hframes]; rfl), hroot, h.source, h.path,
    h.fileKind]
  rfl

end ArenaBuilder

/-- Whatever steps are tried, with failures among them: as long as the numbers have 32 bits, the
records pushed are those of the document. -/
theorem Document.attempts_arena (source : Source) (path : Option Path) (fileKind : FileKind)
    (ss : List BuildStep) {d : Document}
    (hd : ((Builder.start source path fileKind).attempts ss).2.finish = .ok d)
    (hcount : d.nodeCount ≤ UInt32.size) :
    ((ArenaBuilder.start source path fileKind).attempts ss).1 =
        ((Builder.start source path fileKind).attempts ss).1 ∧
      ((ArenaBuilder.start source path fileKind).attempts ss).2.finish = .ok d.arena := by
  have hnumbered := Builder.isNumbered_start source path fileKind
  obtain ⟨-, hnext⟩ := Document.isNumbered_of_finish (hnumbered.attempts ss) hd
  obtain ⟨hanswers, hmirrors⟩ :=
    (ArenaBuilder.mirrors_start source path fileKind).attempts hnumbered ss (hnext ▸ hcount)
  exact ⟨hanswers, hmirrors.finish hd⟩

namespace Document

/-- Whatever steps are tried, with failures among them: records that are finished belong to a
document with as many nodes, and as long as the numbers have 32 bits they are the records of the
document. -/
theorem exists_attempts_arena {source : Source} {path : Option Path} {fileKind : FileKind}
    {ss : List BuildStep} {a : Arena}
    (ha : ((ArenaBuilder.start source path fileKind).attempts ss).2.finish = .ok a) :
    ∃ d, ((Builder.start source path fileKind).attempts ss).2.finish = .ok d ∧ d.IsNumbered ∧
      a.nodeCount = d.nodeCount ∧ a.fileKind = d.fileKind ∧
      (a.nodeCount ≤ UInt32.size → a = d.arena ∧
        ((ArenaBuilder.start source path fileKind).attempts ss).1 =
          ((Builder.start source path fileKind).attempts ss).1) := by
  have htracks := (ArenaBuilder.tracks_start source path fileKind).attempts ss
  obtain ⟨d, hd, hcount, hkind⟩ := htracks.finish ha
  have hnumbered := (Builder.isNumbered_start source path fileKind).attempts ss
  obtain ⟨hnumbered, hnext⟩ := isNumbered_of_finish hnumbered hd
  refine ⟨d, hd, hnumbered, hcount.trans hnext.symm, hkind, ?_⟩
  intro hle
  obtain ⟨hanswers, harena⟩ := attempts_arena source path fileKind ss hd
    (hnext ▸ hcount ▸ hle)
  exact ⟨Except.ok.inj (ha.symm.trans harena), hanswers⟩

/-- Steps that build a document build an arena as well, by trying them. -/
theorem exists_build_arena {source : Source} {path : Option Path} {fileKind : FileKind}
    {ss : List BuildStep} {d : Document} (hd : build source path fileKind ss = .ok d) :
    ∃ a, Arena.build source path fileKind ss = .ok a ∧
      ((ArenaBuilder.start source path fileKind).attempts ss).2.finish = .ok a ∧ d.IsNumbered ∧
      a.nodeCount = d.nodeCount ∧ a.fileKind = d.fileKind ∧
      (a.nodeCount ≤ UInt32.size → a = d.arena) := by
  have htracks := ArenaBuilder.tracks_start source path fileKind
  obtain ⟨b, hsteps, hd⟩ := bind_eq_ok_iff.1 hd
  obtain ⟨harenaSteps, rfl⟩ := htracks.steps hsteps
  obtain ⟨a, ha⟩ := (htracks.attempts ss).finish_of_finish hd
  obtain ⟨d', hd', hnumbered, hcount, hkind, harena⟩ := exists_attempts_arena ha
  obtain rfl : d' = d := Except.ok.inj (hd'.symm.trans hd)
  refine ⟨a, ?_, ha, hnumbered, hcount, hkind, fun hle => (harena hle).1⟩
  rw [Arena.build, harenaSteps]
  exact ha

end Document

end RunMarkers
