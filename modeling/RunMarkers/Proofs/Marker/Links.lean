import RunMarkers.Marker.Detect
import RunMarkers.Proofs.Document.Loop
import RunMarkers.Proofs.Marker.CaseName

/-!
# Detection along the links

The pass over an arena reads kinds, spans and links by their numbers. Over the arena of a numbered
document it finds what the pass over the tree finds (`Document.markers_arena`,
`Document.markerAt_arena`), if it has as many rounds as there are nodes. Over an arena whose links
lead back to the root it does not end, whatever the number of rounds
(`Arena.IsEndless.markers_eq_none`).
-/

namespace RunMarkers

/-- The pass over an arena ends within as many rounds as there are nodes, and finds these markers. -/
def Arena.Finds (a : Arena) (ms : List Marker) : Prop :=
  ∀ rounds, a.nodeCount ≤ rounds → a.markers rounds = some ms

namespace Document

variable {d : Document} {c : Cursor}

theorem opens?_arena (d : Document) (c : Cursor) :
    d.arena.opens? c.entry = if c.node.kind == .heading then some (d.opens c.node) else none := rfl

theorem firstChild?_eq_map_head? (hd : d.IsNumbered) (hc : c ∈ d.cursors) :
    (d.arena.firstChild? c.entry).map (fun e => (e.record.span, d.arena.placeOf e)) =
      c.node.children.head?.map fun n => (n.span, d.placeOf n) := by
  rw [(follows_arena hd hc).firstChild?_entry, Cursor.firstChild?]
  split
  next hchildren => rw [hchildren]; rfl
  next n ns hchildren => rw [hchildren]; rfl

theorem headingMarker?_arena (hd : d.IsNumbered) (hc : c ∈ d.cursors) :
    d.arena.headingMarker? c.entry = d.headingMarker? c.node := by
  have hanchor := firstChild?_eq_map_head? hd hc
  rw [Arena.headingMarker?, opens?_arena, headingMarker?]
  generalize d.opens c.node = opens
  cases hheading : c.node.kind == .heading with
  | false => rfl
  | true =>
      cases hrunnable : opens.isRunnable with
      | false => simp [hrunnable]
      | true =>
          simp only [if_true, Option.bind_eq_bind, Option.bind_some, hrunnable, Bool.and_self]
          cases hfirst : d.arena.firstChild? c.entry with
          | none =>
              rw [hfirst, Option.map_none] at hanchor
              rw [Option.map_eq_none_iff.1 hanchor.symm]
              rfl
          | some e =>
              rw [hfirst, Option.map_some] at hanchor
              obtain ⟨n, hn, hpair⟩ := Option.map_eq_some_iff.1 hanchor.symm
              obtain ⟨hspan, hplace⟩ := Prod.mk.inj hpair
              rw [hn, Option.bind_some, Option.map_some, hspan, hplace]
              rfl

theorem caseMarker?_arena (hd : d.IsNumbered) (hc : c ∈ d.cursors) {rounds : Nat}
    (hrounds : d.nodeCount ≤ rounds) (scope : Option Section) :
    d.arena.caseMarker? rounds scope c.entry = some (d.caseMarker? scope c.here) := by
  have hfollows := follows_arena hd hc
  have hname : d.arena.caseName? rounds c.entry = some (d.caseName c.here) := by
    rw [Arena.caseName?, nameSpan?_arena hd hc hrounds]
    rfl
  unfold Arena.caseMarker? caseMarker?
  rw [hfollows.previous?_entry, hfollows.firstChild?_entry, hname]
  clear hfollows hname hc
  obtain ⟨⟨before, node, after⟩, above⟩ := c
  cases scope with
  | none => rfl
  | some within =>
      cases before with
      | nil => rfl
      | cons previous earlier =>
          obtain ⟨id, kind, span, children⟩ := node
          cases children with
          | nil => rfl
          | cons anchor later =>
              simp only [Cursor.previous?, Cursor.firstChild?, Cursor.node, Node.children_mk,
                Option.map_some]
              rw [apply_ite some]
              rfl

theorem isCandidate_arena (d : Document) (c : Cursor) :
    d.arena.isCandidate c.entry = d.isCandidate c.node := by
  have hchildren : c.entry.record.children.isEmpty = c.node.children.isEmpty := List.isEmpty_map
  rw [Arena.isCandidate, hchildren]
  rfl

theorem markerIn?_arena (hd : d.IsNumbered) (hc : c ∈ d.cursors) {rounds : Nat}
    (hrounds : d.nodeCount ≤ rounds) (scope : Option Section) :
    d.arena.markerIn? rounds scope c.entry = some (d.markerIn? scope c.here) := by
  have hcandidate : d.isCandidate c.here.node = d.isCandidate c.node := rfl
  rw [Arena.markerIn?, markerIn?, isCandidate_arena, headingMarker?_arena hd hc,
    caseMarker?_arena hd hc hrounds, hcandidate]
  cases d.isCandidate c.node with
  | false => rfl
  | true =>
      rw [if_pos rfl, if_pos rfl]
      change _ = some ((d.headingMarker? c.node).or _)
      cases d.headingMarker? c.node with
      | none => rfl
      | some m => rfl

theorem scopeAfter_arena (d : Document) (scope : Option Section) (c : Cursor) :
    d.arena.scopeAfter scope c.entry = d.scopeAfter scope c.node := by
  rw [Arena.scopeAfter, opens?_arena, scopeAfter]
  cases c.node.kind == .heading with
  | false => rfl
  | true => rfl

theorem visitAmong_arena {visit : Option Section → Arena.Entry → Option (List Marker)}
    (above : List Level) (scope : Option Section) (before ns : List Node)
    (hvisit : ∀ x ∈ Cursor.along above before ns, ∀ scope,
      visit scope x.entry = some (d.markersFrom scope x.here.before x.here.after x.node)) :
    d.arena.visitAmong visit scope ((Cursor.along above before ns).map Cursor.entry) =
      some (d.markersAmong scope before ns) := by
  induction ns generalizing scope before with
  | nil => rfl
  | cons n ns ih =>
      rw [Cursor.along] at hvisit
      have hlater := ih (d.scopeAfter scope n) (n :: before) fun x hx =>
        hvisit x (List.mem_cons_of_mem _ hx)
      rw [Cursor.along, List.map_cons, Arena.visitAmong, scopeAfter_arena,
        hvisit _ List.mem_cons_self, markersAmong]
      change (some _).bind _ = _
      rw [Option.bind_some]
      change ((d.arena.visitAmong visit (d.scopeAfter scope n) _).bind _) = _
      rw [hlater]
      rfl

theorem markersFrom_eq (d : Document) (scope : Option Section) (c : Cursor) :
    d.markersFrom scope c.here.before c.here.after c.node =
      (d.markerIn? scope c.here).toList ++ d.markersAmong scope [] c.node.children := by
  obtain ⟨⟨before, ⟨id, kind, span, children⟩, after⟩, above⟩ := c
  rw [Cursor.node, markersFrom]
  rfl

/-- Along the links of the arena a node and the nodes below it have the same markers, if there are
at least as many rounds as nodes. -/
theorem markersFrom_arena (hd : d.IsNumbered) (hc : c ∈ d.cursors) {rounds depth : Nat}
    (hrounds : d.nodeCount ≤ rounds) (hdepth : c.node.count ≤ depth) (scope : Option Section) :
    d.arena.markersFrom rounds depth scope c.entry =
      some (d.markersFrom scope c.here.before c.here.after c.node) := by
  induction depth generalizing c scope with
  | zero =>
      rw [Node.count_eq] at hdepth
      exact absurd hdepth (Nat.not_succ_le_zero _)
  | succ depth ih =>
      have hbelow : d.arena.visitAmong (d.arena.markersFrom rounds depth) scope
          (c.children.map Cursor.entry) = some (d.markersAmong scope [] c.node.children) := by
        apply visitAmong_arena
        intro x hx scope
        refine ih (mem_cursors_of_mem_children hc hx) ?_ scope
        have hnode : x.node ∈ c.node.children := Cursor.map_node_children c ▸ List.mem_map_of_mem hx
        have hcount := Node.count_le_countList hnode
        rw [Node.count_eq] at hdepth
        exact Nat.le_trans hcount (Nat.le_of_succ_le_succ hdepth)
      rw [Arena.markersFrom, markerIn?_arena hd hc hrounds, children_arena hd hc, hbelow,
        markersFrom_eq]
      rfl

/-- The pass over the arena of a document ends, and finds the markers of the document. -/
theorem markers_arena (hd : d.IsNumbered) {rounds : Nat} (hrounds : d.nodeCount ≤ rounds) :
    d.arena.markers rounds = some d.markers := by
  have htop : d.arena.entry? 0 = some d.top.entry := entry?_arena hd d.top_mem_cursors
  have hfrom := markersFrom_arena hd d.top_mem_cursors hrounds hrounds none
  have hsuite : d.arena.isSuite = d.isSuite := rfl
  rw [Arena.markers, markers, htop, Option.bind_some, hfrom, hsuite, apply_ite some]
  rfl

theorem finds_arena (hd : d.IsNumbered) : d.arena.Finds d.markers := by
  intro rounds hrounds
  rw [nodeCount_arena] at hrounds
  exact markers_arena hd hrounds

theorem headingLines_arena (hd : d.IsNumbered) {rounds : Nat} (hrounds : d.nodeCount ≤ rounds) :
    d.arena.headingLines rounds = some d.headingLines := by
  rw [Arena.headingLines, descendants_arena hd hrounds, headingLines, ← map_node_cursors,
    Option.map_some, List.filter_map, List.filter_map, List.map_map, List.map_map]
  rfl

theorem markerAt_arena (hd : d.IsNumbered) {rounds : Nat} (hrounds : d.nodeCount ≤ rounds)
    (line : Nat) : d.arena.markerAt rounds line = some (d.markerAt line) := by
  rw [Arena.markerAt, headingLines_arena hd hrounds, markers_arena hd hrounds]
  rfl

end Document

namespace Arena

variable {a : Arena}

/-- A visit to siblings does not end if the visit to one of them does not. -/
theorem visitAmong_eq_none {visit : Option Section → Entry → Option (List Marker)}
    {es : List Entry} {e : Entry} (he : e ∈ es) (hvisit : ∀ scope, visit scope e = none)
    (scope : Option Section) : a.visitAmong visit scope es = none := by
  induction es generalizing scope with
  | nil => exact absurd he List.not_mem_nil
  | cons first later ih =>
      rw [visitAmong]
      rcases List.mem_cons.1 he with rfl | he
      · rw [hvisit]
        rfl
      · simp only [ih he, Option.bind_eq_bind, Option.bind_none, Option.bind_fun_none]

/-- The pass does not end below a node on an endless way. -/
theorem markersFrom_eq_none {onward : Entry → Prop}
    (honward : ∀ e, onward e → ∃ child ∈ a.children e, onward child) (rounds : Nat) {depth : Nat}
    {e : Entry} (hon : onward e) (scope : Option Section) :
    a.markersFrom rounds depth scope e = none := by
  induction depth generalizing e scope with
  | zero => rfl
  | succ depth ih =>
      obtain ⟨child, hchild, hon⟩ := honward e hon
      have hbelow := visitAmong_eq_none (a := a) hchild (fun scope => ih hon scope) scope
      rw [markersFrom]
      simp only [hbelow, Option.bind_eq_bind, Option.bind_none, Option.bind_fun_none]

theorem IsEndless.markers_eq_none (ha : a.IsEndless) (hsuite : a.isSuite = true) (rounds : Nat) :
    a.markers rounds = none := by
  obtain ⟨onward, hroot, -, honward⟩ := ha.exists_onward
  rw [markers, if_pos hsuite, Option.bind_eq_none_iff]
  intro root hentry
  exact markersFrom_eq_none honward rounds (hroot root hentry) none

theorem IsEndless.markerAt_eq_none (ha : a.IsEndless) (rounds line : Nat) :
    a.markerAt rounds line = none := by
  rw [markerAt, headingLines, ha.descendants_eq_none]
  rfl

end Arena

end RunMarkers
