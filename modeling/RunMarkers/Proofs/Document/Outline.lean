import RunMarkers.Document.Outline
import RunMarkers.Proofs.Document.Ancestry
import RunMarkers.Proofs.Document.Headers
import RunMarkers.Proofs.Text.Quoted

/-!
# What an outline tells

Cut at its line feeds, an outline has one line for each node in the order of the numbers
(`Document.splitOn_outline`). Quoted text cannot break a line, since nothing is left in it that ends
one. A line is read from left to right, each part up to a character that the part cannot have: the
spaces tell the depth of the node, then come its kind and its span. So the outline tells the headers
of all nodes, and with them the tree (`Document.root_eq_of_outline_eq`).
-/

namespace RunMarkers

namespace Text

/-- A text of lines, each with its line feed, is cut at the line feeds into the lines, with nothing
after the last one. -/
theorem splitOn_join_lines {lines : List String} (h : ∀ l ∈ lines, '\n' ∉ l.toList) :
    (String.join (lines.map (· ++ "\n"))).toList.splitOn '\n' =
      lines.map String.toList ++ [[]] := by
  induction lines with
  | nil => rfl
  | cons l lines ih =>
      have hlater := ih fun m hm => h m (List.mem_cons_of_mem l hm)
      have hjoin : (String.join ((l :: lines).map (· ++ "\n"))).toList =
          l.toList ++ '\n' :: (String.join (lines.map (· ++ "\n"))).toList := by
        simp
      rw [hjoin, List.splitOn_append_cons_self_of_not_mem (h l List.mem_cons_self), hlater]
      rfl

theorem takeWhile_eq_nil {p : Char → Bool} {cs : List Char} (h : ∀ c ∈ cs.head?, p c = false) :
    cs.takeWhile p = [] := by
  cases cs with
  | nil => rfl
  | cons c cs => rw [List.takeWhile_cons, h c rfl, if_neg Bool.false_ne_true]

/-- A text is parted in one way where the characters of a kind end. -/
theorem append_inj_of_all {p : Char → Bool} {xs xs' ys ys' : List Char}
    (hxs : ∀ c ∈ xs, p c = true) (hxs' : ∀ c ∈ xs', p c = true)
    (hys : ∀ c ∈ ys.head?, p c = false) (hys' : ∀ c ∈ ys'.head?, p c = false)
    (h : xs ++ ys = xs' ++ ys') : xs = xs' ∧ ys = ys' := by
  have htake := congrArg (List.takeWhile p) h
  rw [List.takeWhile_append_of_pos hxs, List.takeWhile_append_of_pos hxs', takeWhile_eq_nil hys,
    takeWhile_eq_nil hys', List.append_nil, List.append_nil] at htake
  subst htake
  exact ⟨rfl, List.append_cancel_left h⟩

theorem isDigit_of_mem_toDigits (n : Nat) : ∀ c ∈ Nat.toDigits 10 n, c.isDigit = true :=
  fun _ hc => Nat.isDigit_of_mem_toDigits (by decide) (by decide) hc

theorem toDigits_injective {m n : Nat} (h : Nat.toDigits 10 m = Nat.toDigits 10 n) : m = n := by
  rw [← Nat.ofDigitChars_ten_toDigits (n := m), h, Nat.ofDigitChars_ten_toDigits]

end Text

theorem toList_indented (depth : Nat) (line : String) :
    (indented depth line).toList = List.replicate (2 * depth) ' ' ++ line.toList := by
  rw [indented, String.toList_append, String.toList_ofList]

/-- The depth can be told from a line that does not start with a space of its own. -/
theorem indented_inj {depth depth' : Nat} {line line' : String}
    (hline : ∀ c ∈ line.toList.head?, (c == ' ') = false)
    (hline' : ∀ c ∈ line'.toList.head?, (c == ' ') = false)
    (h : indented depth line = indented depth' line') : depth = depth' ∧ line = line' := by
  have hspaces (n : Nat) : ∀ c ∈ List.replicate n ' ', (c == ' ') = true :=
    fun c hc => beq_iff_eq.2 (List.eq_of_mem_replicate hc)
  have hchars := congrArg String.toList h
  rw [toList_indented, toList_indented] at hchars
  obtain ⟨hdepth, hrest⟩ :=
    Text.append_inj_of_all (hspaces (2 * depth)) (hspaces (2 * depth')) hline hline' hchars
  rw [List.replicate_left_inj] at hdepth
  exact ⟨Nat.eq_of_mul_eq_mul_left Nat.two_pos hdepth, String.toList_inj.1 hrest⟩

namespace NodeKind

theorem name_injective {k k' : NodeKind} (h : k.name = k'.name) : k = k' := by
  cases k <;> cases k' <;> first | rfl | exact absurd h (by decide)

/-- No name has a character that a line has just before or after the name. -/
theorem ne_of_mem_name (k : NodeKind) : ∀ c ∈ k.name.toList, c ≠ ' ' ∧ c ≠ '@' ∧ c ≠ '\n' := by
  cases k <;> simp [name]

theorem name_append_inj {k k' : NodeKind} {rest rest' : String}
    (h : k.name ++ "@" ++ rest = k'.name ++ "@" ++ rest') : k = k' ∧ rest = rest' := by
  have hname (k : NodeKind) : ∀ c ∈ k.name.toList, (c != '@') = true :=
    fun c hc => bne_iff_ne.2 (k.ne_of_mem_name c hc).2.1
  have hat (rest : String) : ∀ c ∈ ('@' :: rest.toList).head?, (c != '@') = false := by
    intro c hc
    obtain rfl := Option.some.inj hc
    rfl
  have hchars := congrArg String.toList h
  simp only [String.toList_append, List.append_assoc] at hchars
  obtain ⟨hkind, hrest⟩ := Text.append_inj_of_all (hname k) (hname k') (hat rest) (hat rest') hchars
  exact ⟨name_injective (String.toList_inj.1 hkind), String.toList_inj.1 (List.cons.inj hrest).2⟩

end NodeKind

namespace Span

theorem toList_written (s : Span) :
    s.written.toList = Nat.toDigits 10 s.start ++ '.' :: '.' :: Nat.toDigits 10 s.stop := by
  rw [written, String.toList_append, String.toList_append, Nat.toString_eq_repr,
    Nat.toString_eq_repr, Nat.toList_repr, Nat.toList_repr, List.append_assoc]
  rfl

theorem written_append_inj {s s' : Span} {rest rest' : String}
    (hrest : ∀ c ∈ rest.toList.head?, c.isDigit = false)
    (hrest' : ∀ c ∈ rest'.toList.head?, c.isDigit = false)
    (h : s.written ++ rest = s'.written ++ rest') : s = s' ∧ rest = rest' := by
  have hdots (stop : List Char) : ∀ c ∈ ('.' :: stop).head?, c.isDigit = false := by
    intro c hc
    obtain rfl := Option.some.inj hc
    rfl
  have hchars := congrArg String.toList h
  simp only [String.toList_append, toList_written, List.append_assoc, List.cons_append] at hchars
  obtain ⟨hstart, hchars⟩ := Text.append_inj_of_all (Text.isDigit_of_mem_toDigits s.start)
    (Text.isDigit_of_mem_toDigits s'.start) (hdots _) (hdots _) hchars
  obtain ⟨hstop, hchars⟩ := Text.append_inj_of_all (Text.isDigit_of_mem_toDigits s.stop)
    (Text.isDigit_of_mem_toDigits s'.stop) hrest hrest' (List.cons.inj (List.cons.inj hchars).2).2
  refine ⟨?_, String.toList_inj.1 hchars⟩
  rw [Span.mk.injEq]
  exact ⟨Text.toDigits_injective hstart, Text.toDigits_injective hstop⟩

end Span

theorem mapM_map_eq_some {α β γ : Type} {f : β → Option γ} {g : α → β} {h : α → γ} {l : List α}
    (hl : ∀ x ∈ l, f (g x) = some (h x)) : (l.map g).mapM f = some (l.map h) := by
  induction l with
  | nil => rfl
  | cons x l ih =>
      rw [List.map_cons, List.mapM_cons, hl x List.mem_cons_self,
        ih fun y hy => hl y (List.mem_cons_of_mem x hy)]
      rfl

namespace Cursor

mutual

theorem map_outlineLine_cursors (d : Document) (above : List Level) (before after : List Node) :
    ∀ n : Node, (n.cursors above before after).map
      (fun c => (c.above.length, d.outlineLine c.node)) = d.outlineOf above.length n
  | .mk id kind span children => by
      rw [Node.cursors, List.map_cons, map_outlineLine_childCursors, Document.outlineOf]
      rfl

theorem map_outlineLine_childCursors (d : Document) (above : List Level) (before : List Node) :
    ∀ ns : List Node, (Node.childCursors above before ns).map
      (fun c => (c.above.length, d.outlineLine c.node)) = d.outlineOfList above.length ns
  | [] => rfl
  | n :: ns => by
      rw [Node.childCursors, List.map_append, map_outlineLine_cursors d above before _ n,
        map_outlineLine_childCursors d above (n :: before) ns, Document.outlineOfList]

end

end Cursor

namespace Document

variable {d d' : Document} {c c' : Cursor}

/-- The line of the node that a cursor stands on. -/
def lineOf (d : Document) (c : Cursor) : String := indented c.above.length (d.outlineLine c.node)

theorem outline_eq_join (d : Document) :
    d.outline = String.join ((d.cursors.map d.lineOf).map (· ++ "\n")) := by
  have hlines : d.outlineLines =
      d.cursors.map fun c => (c.above.length, d.outlineLine c.node) :=
    (Cursor.map_outlineLine_cursors d [] [] [] d.root).symm
  rw [outline, hlines, List.map_map, List.map_map]
  rfl

/-- What a line has after the span. -/
def shownText (d : Document) (n : Node) : String :=
  if n.children.isEmpty && n.kind != .block then " " ++ Text.quoted (d.textOf n) else ""

theorem outlineLine_eq (d : Document) (n : Node) :
    d.outlineLine n = n.kind.name ++ "@" ++ (n.span.written ++ d.shownText n) :=
  String.append_assoc

theorem lineFeed_not_mem_shownText (d : Document) (n : Node) : '\n' ∉ (d.shownText n).toList := by
  rw [shownText]
  split
  next => simp [Text.lineFeed_not_mem_quoted]
  next => exact List.not_mem_nil

theorem head?_shownText_not_isDigit (d : Document) (n : Node) :
    ∀ c ∈ (d.shownText n).toList.head?, c.isDigit = false := by
  intro c hc
  rw [shownText] at hc
  split at hc
  next =>
      rw [String.toList_append] at hc
      obtain rfl := Option.some.inj hc
      rfl
  next => cases hc

theorem head?_outlineLine_ne_space (d : Document) (n : Node) :
    ∀ c ∈ (d.outlineLine n).toList.head?, (c == ' ') = false := by
  intro c hc
  have hne : n.kind.name.toList ≠ [] := by
    cases n.kind <;> decide
  rw [outlineLine_eq, String.toList_append, String.toList_append, String.toList_append,
    List.append_assoc, List.head?_append_of_ne_nil _ hne] at hc
  exact beq_eq_false_iff_ne.2 (n.kind.ne_of_mem_name c (List.mem_of_head? hc)).1

/-- No text that a node has can end a line. -/
theorem lineFeed_not_mem_outlineLine (d : Document) (n : Node) :
    '\n' ∉ (d.outlineLine n).toList := by
  have hname : '\n' ∉ n.kind.name.toList := fun hmem => (n.kind.ne_of_mem_name _ hmem).2.2 rfl
  have hdigits (m : Nat) : '\n' ∉ Nat.toDigits 10 m := fun hmem =>
    Bool.false_ne_true (Text.isDigit_of_mem_toDigits m _ hmem)
  simp [outlineLine_eq, Span.toList_written, hname, hdigits, lineFeed_not_mem_shownText]

theorem lineFeed_not_mem_lineOf (d : Document) (c : Cursor) : '\n' ∉ (d.lineOf c).toList := by
  simp [lineOf, toList_indented, lineFeed_not_mem_outlineLine]

theorem splitOn_outline (d : Document) :
    d.outline.toList.splitOn '\n' = (d.cursors.map d.lineOf).map String.toList ++ [[]] := by
  rw [outline_eq_join]
  apply Text.splitOn_join_lines
  intro l hl
  obtain ⟨c, -, rfl⟩ := List.mem_map.1 hl
  exact d.lineFeed_not_mem_lineOf c

/-- A line tells the header of its node but for the number, which is the place of the line. -/
theorem header_eq_of_lineOf_eq (hid : c'.node.id = c.node.id) (h : d'.lineOf c' = d.lineOf c) :
    c'.header = c.header := by
  obtain ⟨hdepth, hline⟩ :=
    indented_inj (d'.head?_outlineLine_ne_space c'.node) (d.head?_outlineLine_ne_space c.node) h
  rw [outlineLine_eq, outlineLine_eq] at hline
  obtain ⟨hkind, hrest⟩ := NodeKind.name_append_inj hline
  obtain ⟨hspan, -⟩ := Span.written_append_inj (d'.head?_shownText_not_isDigit c'.node)
    (d.head?_shownText_not_isDigit c.node) hrest
  rw [Cursor.header, Cursor.header, hdepth, hid, hkind, hspan]

theorem map_header_eq_of_map_lineOf_eq {cs cs' : List Cursor}
    (hids : cs'.map (fun c => c.node.id) = cs.map fun c => c.node.id)
    (hlines : cs'.map d'.lineOf = cs.map d.lineOf) :
    cs'.map Cursor.header = cs.map Cursor.header := by
  induction cs' generalizing cs with
  | nil =>
      cases cs with
      | nil => rfl
      | cons c cs => cases hids
  | cons c' cs' ih =>
      cases cs with
      | nil => cases hids
      | cons c cs =>
          obtain ⟨hid, hids⟩ := List.cons.inj hids
          obtain ⟨hline, hlines⟩ := List.cons.inj hlines
          rw [List.map_cons, List.map_cons, header_eq_of_lineOf_eq hid hline, ih hids hlines]

/-- Documents with equal outlines have one tree. -/
theorem root_eq_of_outline_eq (hd : d.IsNumbered) (hd' : d'.IsNumbered)
    (h : d'.outline = d.outline) : d'.root = d.root := by
  have hsplit := congrArg (fun text : String => text.toList.splitOn '\n') h
  simp only [splitOn_outline] at hsplit
  have hlines : d'.cursors.map d'.lineOf = d.cursors.map d.lineOf :=
    (List.map_inj_right fun _ _ => String.toList_inj.1).1 (List.append_cancel_right hsplit)
  have hcount := congrArg List.length hlines
  rw [List.length_map, List.length_map, length_cursors, length_cursors] at hcount
  apply root_eq_of_map_header
  apply map_header_eq_of_map_lineOf_eq _ hlines
  rw [hd'.map_id_cursors, hd.map_id_cursors, hcount]

theorem outlineLine_arena (d : Document) (c : Cursor) :
    d.arena.outlineLine c.entry = d.outlineLine c.node := by
  have hchildren : c.entry.record.children.isEmpty = c.node.children.isEmpty := List.isEmpty_map
  rw [Arena.outlineLine, hchildren]
  rfl

theorem outlineOfList_eq_flatten (d : Document) (depth : Nat) (ns : List Node) :
    d.outlineOfList depth ns = (ns.map (d.outlineOf depth)).flatten := by
  induction ns with
  | nil => rfl
  | cons n ns ih => rw [outlineOfList, ih, List.map_cons, List.flatten_cons]

theorem outlineOf_eq (d : Document) (depth : Nat) (c : Cursor) :
    d.outlineOf depth c.node = (depth, d.outlineLine c.node) ::
      (c.children.map fun x => d.outlineOf (depth + 1) x.node).flatten := by
  have hchildren : c.children.map (fun x => d.outlineOf (depth + 1) x.node) =
      c.node.children.map (d.outlineOf (depth + 1)) := by
    rw [← Cursor.map_node_children, List.map_map]
    rfl
  rw [hchildren, ← outlineOfList_eq_flatten]
  cases c.node with
  | mk id kind span children => rfl

/-- Along the links of the arena a node and the nodes below it give the same lines, if there are at
least as many rounds as nodes. -/
theorem outlineOf_arena (hd : d.IsNumbered) (hc : c ∈ d.cursors) {rounds : Nat}
    (hrounds : c.node.count ≤ rounds) (depth : Nat) :
    d.arena.outlineOf rounds depth c.entry = some (d.outlineOf depth c.node) := by
  induction rounds generalizing c depth with
  | zero =>
      rw [Node.count_eq] at hrounds
      exact absurd hrounds (Nat.not_succ_le_zero _)
  | succ rounds ih =>
      have hbelow : (c.children.map Cursor.entry).mapM (d.arena.outlineOf rounds (depth + 1)) =
          some (c.children.map fun x => d.outlineOf (depth + 1) x.node) := by
        apply mapM_map_eq_some
        intro x hx
        refine ih (mem_cursors_of_mem_children hc hx) ?_ (depth + 1)
        have hnode : x.node ∈ c.node.children := Cursor.map_node_children c ▸ List.mem_map_of_mem hx
        have hcount := Node.count_le_countList hnode
        rw [Node.count_eq] at hrounds
        exact Nat.le_trans hcount (Nat.le_of_succ_le_succ hrounds)
      rw [Arena.outlineOf, children_arena hd hc, hbelow, Option.map_some, outlineLine_arena,
        outlineOf_eq]

theorem outline_arena (hd : d.IsNumbered) {rounds : Nat} (hrounds : d.nodeCount ≤ rounds) :
    d.arena.outline rounds = some d.outline := by
  have htop : d.arena.entry? 0 = some d.top.entry := entry?_arena hd d.top_mem_cursors
  have hlines := outlineOf_arena hd d.top_mem_cursors hrounds 0
  simp only [Arena.outline, htop, hlines, Option.bind_eq_bind, Option.bind_some]
  rfl

theorem exists_successors_parent?_arena (hd : d.IsNumbered) (hc : c ∈ d.cursors) :
    ∃ es, es.length = c.above.length ∧ ∀ rounds, c.above.length < rounds →
      successors d.arena.parent? rounds c.entry = some (c.entry :: es) := by
  induction c, hc using induction_on_cursors with
  | top =>
      refine ⟨[], rfl, ?_⟩
      intro rounds hrounds
      obtain ⟨rounds, rfl⟩ := Nat.exists_eq_add_one_of_ne_zero (Nat.ne_zero_of_lt hrounds)
      rw [successors, parent?_top_arena]
  | child p c i hp hi ih =>
      have hcp := List.mem_of_getElem? hi
      obtain ⟨es, hlength, hes⟩ := ih
      rw [above_of_mem_children hcp]
      refine ⟨p.entry :: es, congrArg (· + 1) hlength, ?_⟩
      intro rounds hrounds
      obtain ⟨rounds, rfl⟩ := Nat.exists_eq_add_one_of_ne_zero (Nat.ne_zero_of_lt hrounds)
      have hrest := hes rounds (Nat.lt_of_succ_lt_succ hrounds)
      rw [successors, parent?_arena hd hp hcp]
      simp only [hrest, Option.map_some]

/-- A node has as many ancestors, by the links of the arena, as its cursor has levels above. -/
theorem depth_arena (hd : d.IsNumbered) (hc : c ∈ d.cursors) {rounds : Nat}
    (hrounds : d.nodeCount ≤ rounds) : d.arena.depth rounds c.entry = some c.above.length := by
  obtain ⟨es, hlength, hes⟩ := exists_successors_parent?_arena hd hc
  have hlt := Nat.lt_of_lt_of_le (length_above_lt_nodeCount hd hc) hrounds
  rw [Arena.depth, hes rounds hlt, Option.map_some, List.tail_cons, hlength]

/-- The lines of an outline, in the order of the numbers: what they tell of each node. -/
theorem getElem?_map_lineOf (hd : d.IsNumbered) (hc : c ∈ d.cursors) :
    (d.cursors.map d.lineOf)[c.node.id]? =
      some (indented c.above.length (d.arena.outlineLine c.entry)) := by
  obtain ⟨i, hi, rfl⟩ := List.mem_iff_getElem.1 hc
  rw [hd.id_getElem hi, List.getElem?_map, List.getElem?_eq_getElem hi, outlineLine_arena]
  rfl

/-- Whatever steps are tried, with failures among them: if no node is left open and the numbers have
32 bits, then going along the links of the arena that the same steps leave ends with the outline.
Cut at its line feeds the outline has a line for each node, and nothing after the last one: the node
with the number `i` is described by line `i`, behind two spaces for each of its ancestors. Documents
built in this way that have equal outlines have equal records at every number. -/
theorem outline_of_attempts (source : Source) (path : Option Path) (fileKind : FileKind)
    (ss : List BuildStep) {d : Document}
    (hd : ((Builder.start source path fileKind).attempts ss).2.finish = .ok d)
    (hcount : d.nodeCount < UInt32.size) :
    ((ArenaBuilder.start source path fileKind).attempts ss).2.finish = .ok d.arena ∧
      (∀ rounds, d.nodeCount ≤ rounds → d.arena.outline rounds = some d.outline) ∧
      (∃ lines : List String, lines.length = d.nodeCount ∧
        d.outline.toList.splitOn '\n' = lines.map String.toList ++ [[]] ∧
        ∀ e, d.arena.IsNode e → ∃ depth,
          (∀ rounds, d.nodeCount ≤ rounds → d.arena.depth rounds e = some depth) ∧
          lines[e.id]? = some (indented depth (d.arena.outlineLine e))) ∧
      ∀ (source' : Source) (path' : Option Path) (fileKind' : FileKind) (ss' : List BuildStep)
        (d' : Document),
        ((Builder.start source' path' fileKind').attempts ss').2.finish = .ok d' →
        d'.outline = d.outline → d'.arena.records = d.arena.records := by
  obtain ⟨-, hfinish⟩ := attempts_arena source path fileKind ss hd (Nat.le_of_lt hcount)
  have hnumbered := (Builder.isNumbered_start source path fileKind).attempts ss
  obtain ⟨hnumbered, -⟩ := isNumbered_of_finish hnumbered hd
  refine ⟨hfinish, fun rounds hrounds => outline_arena hnumbered hrounds, ?_, ?_⟩
  · refine ⟨d.cursors.map d.lineOf, ?_, d.splitOn_outline, ?_⟩
    · rw [List.length_map, length_cursors]
    · intro e he
      obtain ⟨c, hc, rfl⟩ := (isNode_arena_iff hnumbered).1 he
      exact ⟨c.above.length, fun rounds hrounds => depth_arena hnumbered hc hrounds,
        getElem?_map_lineOf hnumbered hc⟩
  · intro source' path' fileKind' ss' d' hd' houtline
    have hnumbered' := (Builder.isNumbered_start source' path' fileKind').attempts ss'
    obtain ⟨hnumbered', -⟩ := isNumbered_of_finish hnumbered' hd'
    rw [records_arena, records_arena, root_eq_of_outline_eq hnumbered hnumbered' houtline]

/-- Steps over a cell with a line feed and a quote in it, and a block without children. -/
def brokenCellSteps : List BuildStep := [.enter .line, .token .leaf 3, .leave, .token .block 1]

/-- What `brokenCellSteps` build over a text of four characters, of which the block has the last. -/
def brokenCellDocument (last : Char) : Document where
  source := .ofChars ['a', '\n', '"', last]
  path := none
  fileKind := .suite
  topLevel := [.mk 1 .line ⟨0, 3⟩ [.token 2 .leaf ⟨0, 3⟩], .token 3 .block ⟨3, 4⟩]

/-- The line feed of the cell does not break its line. The text of the block is not shown, so texts
that differ in it have one outline; steps that fail leave nothing in it either. -/
theorem outline_of_attempts_brokenCell :
    ((Builder.start (.ofChars ['a', '\n', '"', 'x']) none .suite).attempts
        brokenCellSteps).2.finish = .ok (brokenCellDocument 'x') ∧
      (brokenCellDocument 'x').nodeCount = 4 ∧ 4 < UInt32.size ∧
      (brokenCellDocument 'x').arena.outline 4 = some (brokenCellDocument 'x').outline ∧
      (∃ lines : List String, lines.length = 4 ∧
        (brokenCellDocument 'x').outline.toList.splitOn '\n' =
          lines.map String.toList ++ [[]] ∧
        lines[2]? = some (indented 2 "LEAF@0..3 \"a\\n\\\"\"")) ∧
      ((Builder.start (.ofChars ['a', '\n', '"', 'y']) none .suite).attempts
        (.leave :: .token .leaf 5 :: brokenCellSteps)).2.finish = .ok (brokenCellDocument 'y') ∧
      (brokenCellDocument 'y').outline = (brokenCellDocument 'x').outline ∧
      (brokenCellDocument 'y').arena.records = (brokenCellDocument 'x').arena.records := by
  have hd : ((Builder.start (.ofChars ['a', '\n', '"', 'x']) none .suite).attempts
      brokenCellSteps).2.finish = .ok (brokenCellDocument 'x') := rfl
  have hd' : ((Builder.start (.ofChars ['a', '\n', '"', 'y']) none .suite).attempts
      (.leave :: .token .leaf 5 :: brokenCellSteps)).2.finish = .ok (brokenCellDocument 'y') := rfl
  have hlt : 4 < UInt32.size := by decide
  obtain ⟨-, harena, ⟨lines, hlength, hsplit, hlines⟩, hrecords⟩ :=
    outline_of_attempts (.ofChars ['a', '\n', '"', 'x']) none .suite brokenCellSteps hd hlt
  have hleaf : (brokenCellDocument 'x').arena.IsNode ⟨2, ⟨.leaf, ⟨0, 3⟩, some 1, 0, []⟩⟩ := rfl
  have htext : (brokenCellDocument 'x').arena.outlineLine ⟨2, ⟨.leaf, ⟨0, 3⟩, some 1, 0, []⟩⟩ =
      "LEAF@0..3 \"a\\n\\\"\"" := by
    decide +kernel
  obtain ⟨depth, hdepth, hline⟩ := hlines _ hleaf
  obtain rfl : 2 = depth := Option.some.inj (hdepth 4 (Nat.le_refl 4))
  rw [htext] at hline
  have houtline : (brokenCellDocument 'y').outline = (brokenCellDocument 'x').outline := by
    decide +kernel
  exact ⟨hd, rfl, hlt, harena 4 (Nat.le_refl 4), ⟨lines, hlength, hsplit, hline⟩, hd', houtline,
    hrecords _ _ _ _ _ hd' houtline⟩

end Document

end RunMarkers
