import RunMarkers.Marker.Scope
import RunMarkers.Proofs.Document.Ancestry
import RunMarkers.Proofs.Greatest

/-!
# The heading that decides the scope

A node sees a heading that is the node itself, one of its ancestors, or an earlier sibling of one of
these. A search for the scope goes back and up, level by level; the nodes it can meet are
`Cursor.seen`, and their numbers fall (`Document.pairwise_id_seen`). So the first heading met is the
one with the greatest number among those seen (`Document.scopeAt_eq_some_iff`), whatever the depth
and wherever the headings stand.
-/

namespace RunMarkers

theorem searchAlong_eq_findSome? {α β : Type} {next : α → Option α}
    {find : α → Option (Option β)} {f : α → Option β} {rounds : Nat} {a : α} {l : List α}
    (hl : successors next rounds a = some l) (hfind : ∀ x ∈ l, find x = some (f x)) :
    searchAlong next find rounds a = some (l.findSome? f) := by
  induction rounds generalizing a l with
  | zero => cases hl
  | succ rounds ih =>
      rw [successors] at hl
      cases hnext : next a with
      | none =>
          simp only [hnext] at hl
          obtain rfl := Option.some.inj hl
          rw [searchAlong, hfind a List.mem_cons_self, List.findSome?_cons]
          cases f a with
          | none => simp only [hnext, List.findSome?_nil]
          | some b => rfl
      | some b =>
          simp only [hnext, Option.map_eq_some_iff] at hl
          obtain ⟨later, hlater, rfl⟩ := hl
          have hrest := ih hlater fun x hx => hfind x (List.mem_cons_of_mem a hx)
          rw [searchAlong, hfind a List.mem_cons_self, List.findSome?_cons]
          cases f a with
          | none => simp only [hnext, hrest]
          | some b => rfl

namespace Arena

/-- A node sees a heading that is itself or one of its ancestors, or an earlier sibling of these. -/
structure Sees (a : Arena) (e h : Entry) : Prop where
  kind_eq : h.record.kind = .heading
  exists_level : ∃ m, a.IsAtOrAbove m e ∧ (h = m ∨ a.IsEarlierSibling h m)

/-- The heading with the greatest number among those that a node sees. -/
def IsLastSeen (a : Arena) (e h : Entry) : Prop := a.Sees e h ∧ ∀ h', a.Sees e h' → h'.id ≤ h.id

end Arena

namespace Cursor

def isHeading (c : Cursor) : Bool := c.node.kind == .heading

/-- The nodes that a search for the scope can meet, from a level and those above it. -/
def seenFrom (here : Level) : List Level → List Cursor
  | [] => [⟨here, []⟩]
  | l :: ls => ((children ⟨l, ls⟩).take (here.before.length + 1)).reverse ++ seenFrom l ls

/-- The nodes that a search for the scope can meet, in the order of the search. -/
def seen (c : Cursor) : List Cursor := seenFrom c.here c.above

theorem seen_of_getElem?_children {p c : Cursor} {i : Nat} (hc : p.children[i]? = some c) :
    c.seen = (p.children.take (i + 1)).reverse ++ p.seen := by
  have hlength := length_before_of_getElem?_children hc
  obtain ⟨n, -, rfl⟩ := exists_eq_of_getElem?_children hc
  rw [seen, seenFrom, hlength]
  rfl

end Cursor

namespace Document

open Cursor (isHeading seen_of_getElem?_children)

variable {d : Document} {c p : Cursor} {i : Nat}

theorem take_children (hc : p.children[i]? = some c) :
    p.children.take (i + 1) = p.children.take i ++ [c] := by
  rw [List.take_add_one, hc]
  rfl

theorem mem_take_children_iff (hc : p.children[i]? = some c) {x : Cursor} :
    x ∈ p.children.take (i + 1) ↔ x = c ∨ ∃ j < i, p.children[j]? = some x := by
  rw [take_children hc, List.mem_append, List.mem_singleton, Or.comm, List.mem_iff_getElem?]
  refine or_congr_right (exists_congr fun j => ?_)
  rw [List.getElem?_take]
  split
  next hj => simp only [hj, true_and]
  next hj => simp only [hj, false_and, reduceCtorEq]

/-- The numbers of the children up to one of them, which comes last. -/
theorem id_le_of_mem_take_children (hd : d.IsNumbered) (hp : p ∈ d.cursors)
    (hc : p.children[i]? = some c) {x : Cursor} (hx : x ∈ p.children.take (i + 1)) :
    x.node.id ≤ c.node.id := by
  have hsublist := (List.take_sublist (i + 1) p.children).trans
    ((List.sublist_cons_self p p.children).trans (cons_children_sublist_cursors hp))
  have hpairwise := pairwise_id_lt hd hsublist
  rw [take_children hc, List.map_append, List.pairwise_append] at hpairwise
  rw [take_children hc] at hx
  rcases List.mem_append.1 hx with hx | hx
  · exact Nat.le_of_lt (hpairwise.2.2 _ (List.mem_map.2 ⟨x, hx, rfl⟩) _ List.mem_cons_self)
  · rw [List.mem_singleton.1 hx]

theorem id_le_of_mem_seen (hd : d.IsNumbered) (hc : c ∈ d.cursors) {x : Cursor}
    (hx : x ∈ c.seen) : x.node.id ≤ c.node.id := by
  induction c, hc using induction_on_cursors with
  | top =>
      obtain rfl : x = d.top := List.mem_singleton.1 hx
      exact Nat.le_refl _
  | child p c i hp hi ih =>
      rw [seen_of_getElem?_children hi] at hx
      rcases List.mem_append.1 hx with hx | hx
      · exact id_le_of_mem_take_children hd hp hi (List.mem_reverse.1 hx)
      · exact Nat.le_trans (ih hx)
          (Nat.le_of_lt (id_lt_of_mem_children hd hp (List.mem_of_getElem? hi)))

/-- Back and up, the numbers fall. -/
theorem pairwise_id_seen (hd : d.IsNumbered) (hc : c ∈ d.cursors) :
    c.seen.Pairwise fun x y => y.node.id < x.node.id := by
  induction c, hc using induction_on_cursors with
  | top => exact List.pairwise_singleton _ _
  | child p c i hp hi ih =>
      have hchildren := pairwise_id_lt hd (cons_children_sublist_cursors hp)
      rw [List.map_cons, List.pairwise_cons, List.pairwise_map] at hchildren
      rw [seen_of_getElem?_children hi, List.pairwise_append]
      refine ⟨List.pairwise_reverse.2 (hchildren.2.sublist (List.take_sublist _ _)), ih, ?_⟩
      intro x hx y hy
      have hmem := List.mem_of_mem_take (List.mem_reverse.1 hx)
      exact Nat.lt_of_le_of_lt (id_le_of_mem_seen hd hp hy) (id_lt_of_mem_children hd hp hmem)

/-- The search over the levels of a cursor finds the first heading that it meets. -/
theorem scopeAt_eq_find?_seen (hc : c ∈ d.cursors) :
    d.scopeAt c = (c.seen.find? isHeading).map fun x => d.opens x.node := by
  induction c, hc using induction_on_cursors with
  | top => rfl
  | child p c i hp hi ih =>
      have hrow : c.here.heading? = ((p.children.take (i + 1)).reverse.find? isHeading).map
          Cursor.node := by
        have hbackward := Cursor.backward_of_getElem?_children hi
        rw [Cursor.backward, ← Cursor.map_node_children, ← List.map_take, ← List.map_reverse]
          at hbackward
        rw [Level.heading?, hbackward, List.find?_map]
        rfl
      have habove := above_of_mem_children (List.mem_of_getElem? hi)
      rw [scopeAt, habove, List.findSome?_cons, hrow, seen_of_getElem?_children hi,
        List.find?_append]
      rw [scopeAt] at ih
      cases (p.children.take (i + 1)).reverse.find? isHeading with
      | none => exact ih
      | some x => rfl

theorem findSome?_opens? (cs : List Cursor) :
    (cs.map Cursor.entry).findSome? d.arena.opens? =
      (cs.find? isHeading).map fun x => d.opens x.node := by
  induction cs with
  | nil => rfl
  | cons x cs ih =>
      have hx : d.arena.opens? x.entry = if isHeading x then some (d.opens x.node) else none := rfl
      rw [List.map_cons, List.findSome?_cons, List.find?_cons, ih, hx]
      cases isHeading x with
      | true => rfl
      | false => rfl

theorem openedBeside_arena (hd : d.IsNumbered) (hp : p ∈ d.cursors) (hc : p.children[i]? = some c)
    {rounds : Nat} (hrounds : d.nodeCount ≤ rounds) :
    d.arena.openedBeside rounds c.entry =
      some (((p.children.take (i + 1)).reverse.find? isHeading).map fun x => d.opens x.node) := by
  have hbackward := backward_arena hd hp hc hrounds
  rw [children_arena hd hp, ← List.map_take, ← List.map_reverse, Arena.backward] at hbackward
  rw [Arena.openedBeside, searchAlong_eq_findSome? hbackward (fun _ _ => rfl), findSome?_opens?]

theorem openedBeside_top_arena {rounds : Nat} (hrounds : d.arena.nodeCount ≤ rounds) :
    d.arena.openedBeside rounds d.top.entry = some none := by
  obtain ⟨rounds, rfl⟩ := exists_eq_succ_of_nodeCount_le hrounds
  rfl

theorem searchAlong_parent?_arena (hd : d.IsNumbered) (hc : c ∈ d.cursors) {rounds levels : Nat}
    (hrounds : d.nodeCount ≤ rounds) (hlevels : c.above.length < levels) :
    searchAlong d.arena.parent? (d.arena.openedBeside rounds) levels c.entry =
      some ((c.seen.find? isHeading).map fun x => d.opens x.node) := by
  obtain ⟨levels, rfl⟩ := Nat.exists_eq_add_one_of_ne_zero (Nat.ne_zero_of_lt hlevels)
  induction c, hc using induction_on_cursors generalizing levels with
  | top =>
      rw [← nodeCount_arena] at hrounds
      rw [searchAlong, openedBeside_top_arena hrounds]
      rfl
  | child p c i hp hi ih =>
      have hcp := List.mem_of_getElem? hi
      rw [above_of_mem_children hcp] at hlevels
      have hlevels' := Nat.lt_of_succ_lt_succ hlevels
      obtain ⟨levels, rfl⟩ := Nat.exists_eq_add_one_of_ne_zero (Nat.ne_zero_of_lt hlevels')
      rw [searchAlong, openedBeside_arena hd hp hi hrounds, seen_of_getElem?_children hi,
        List.find?_append]
      cases (p.children.take (i + 1)).reverse.find? isHeading with
      | none =>
          simp only [Option.map_none, parent?_arena hd hp hcp]
          exact ih levels hlevels'
      | some x => rfl

/-- Along the links of the arena the search ends and finds the same. -/
theorem scopeAt_arena (hd : d.IsNumbered) (hc : c ∈ d.cursors) {rounds : Nat}
    (hrounds : d.nodeCount ≤ rounds) :
    d.arena.scopeAt rounds c.entry = some (d.scopeAt c) := by
  have hlevels := Nat.lt_of_lt_of_le (length_above_lt_nodeCount hd hc) hrounds
  rw [Arena.scopeAt, searchAlong_parent?_arena hd hc hrounds hlevels, scopeAt_eq_find?_seen hc]

/-- What a search can meet, by the links of the arena. -/
theorem exists_mem_seen_iff (hd : d.IsNumbered) (hc : c ∈ d.cursors) {h : Arena.Entry} :
    (∃ x ∈ c.seen, x.entry = h) ↔
      ∃ m, d.arena.IsAtOrAbove m c.entry ∧ (h = m ∨ d.arena.IsEarlierSibling h m) := by
  induction c, hc using induction_on_cursors with
  | top =>
      constructor
      · rintro ⟨x, hx, rfl⟩
        obtain rfl : x = d.top := List.mem_singleton.1 hx
        exact ⟨d.top.entry, isAtOrAbove_top_arena_iff.2 rfl, Or.inl rfl⟩
      · rintro ⟨m, hm, hh⟩
        rw [isAtOrAbove_top_arena_iff.1 hm] at hh
        refine ⟨d.top, List.mem_singleton.2 rfl, ?_⟩
        exact (hh.resolve_right (not_isEarlierSibling_top_arena hd)).symm
  | child p c i hp hi ih =>
      have hcp := List.mem_of_getElem? hi
      rw [seen_of_getElem?_children hi]
      constructor
      · rintro ⟨x, hx, rfl⟩
        rcases List.mem_append.1 hx with hx | hx
        · refine ⟨c.entry, (isAtOrAbove_arena_iff hd hp hcp).2 (Or.inl rfl), ?_⟩
          rcases (mem_take_children_iff hi).1 (List.mem_reverse.1 hx) with rfl | ⟨j, hj, hx⟩
          · exact Or.inl rfl
          · exact Or.inr ((isEarlierSibling_arena_iff hd hp hi).2 ⟨j, hj, x, hx, rfl⟩)
        · obtain ⟨m, hm, hh⟩ := ih.1 ⟨x, hx, rfl⟩
          exact ⟨m, (isAtOrAbove_arena_iff hd hp hcp).2 (Or.inr hm), hh⟩
      · rintro ⟨m, hm, hh⟩
        rcases (isAtOrAbove_arena_iff hd hp hcp).1 hm with rfl | hm
        · have hrow : ∃ x ∈ p.children.take (i + 1), x.entry = h := by
            rcases hh with rfl | hh
            · exact ⟨c, (mem_take_children_iff hi).2 (Or.inl rfl), rfl⟩
            · obtain ⟨j, hj, x, hx, rfl⟩ := (isEarlierSibling_arena_iff hd hp hi).1 hh
              exact ⟨x, (mem_take_children_iff hi).2 (Or.inr ⟨j, hj, hx⟩), rfl⟩
          obtain ⟨x, hx, hentry⟩ := hrow
          exact ⟨x, List.mem_append_left _ (List.mem_reverse.2 hx), hentry⟩
        · obtain ⟨x, hx, hentry⟩ := ih.2 ⟨m, hm, hh⟩
          exact ⟨x, List.mem_append_right _ hx, hentry⟩

theorem sees_arena_iff (hd : d.IsNumbered) (hc : c ∈ d.cursors) {h : Arena.Entry} :
    d.arena.Sees c.entry h ↔ ∃ x ∈ c.seen, isHeading x = true ∧ x.entry = h := by
  constructor
  · intro hsees
    obtain ⟨x, hx, rfl⟩ := (exists_mem_seen_iff hd hc).2 hsees.exists_level
    exact ⟨x, hx, beq_iff_eq.2 hsees.kind_eq, rfl⟩
  · rintro ⟨x, hx, hheading, rfl⟩
    exact ⟨beq_iff_eq.1 hheading, (exists_mem_seen_iff hd hc).1 ⟨x, hx, rfl⟩⟩

theorem isLastSeen_arena_iff (hd : d.IsNumbered) (hc : c ∈ d.cursors) {h : Arena.Entry} :
    d.arena.IsLastSeen c.entry h ↔ ∃ x, c.seen.find? isHeading = some x ∧ x.entry = h := by
  have hfind := find?_eq_some_iff_isGreatestBy (pairwise_id_seen hd hc) isHeading
  constructor
  · rintro ⟨hsees, hlast⟩
    obtain ⟨x, hx, hheading, rfl⟩ := (sees_arena_iff hd hc).1 hsees
    refine ⟨x, (hfind x).2 ⟨⟨hx, hheading⟩, ?_⟩, rfl⟩
    intro y hy hy'
    exact hlast y.entry ((sees_arena_iff hd hc).2 ⟨y, hy, hy', rfl⟩)
  · rintro ⟨x, hx, rfl⟩
    obtain ⟨⟨hmem, hheading⟩, hlast⟩ := (hfind x).1 hx
    refine ⟨(sees_arena_iff hd hc).2 ⟨x, hmem, hheading, rfl⟩, ?_⟩
    intro h' hh'
    obtain ⟨y, hy, hy', rfl⟩ := (sees_arena_iff hd hc).1 hh'
    exact hlast y hy hy'

/-- The heading with the greatest number among those seen decides the scope. -/
theorem scopeAt_eq_some_iff (hd : d.IsNumbered) (hc : c ∈ d.cursors) (within : Section) :
    d.scopeAt c = some within ↔
      ∃ h, d.arena.IsLastSeen c.entry h ∧
        .ofHeading (d.source.slice h.record.span) = within := by
  rw [scopeAt_eq_find?_seen hc, Option.map_eq_some_iff]
  constructor
  · rintro ⟨x, hx, rfl⟩
    exact ⟨x.entry, (isLastSeen_arena_iff hd hc).2 ⟨x, hx, rfl⟩, rfl⟩
  · rintro ⟨h, hh, rfl⟩
    obtain ⟨x, hx, rfl⟩ := (isLastSeen_arena_iff hd hc).1 hh
    exact ⟨x, hx, rfl⟩

theorem scopeAt_eq_none_iff (hd : d.IsNumbered) (hc : c ∈ d.cursors) :
    d.scopeAt c = none ↔ ∀ h, ¬ d.arena.Sees c.entry h := by
  rw [scopeAt_eq_find?_seen hc, Option.map_eq_none_iff, List.find?_eq_none]
  constructor
  · intro hnone h hh
    obtain ⟨x, hx, hheading, -⟩ := (sees_arena_iff hd hc).1 hh
    exact hnone x hx hheading
  · intro hnone x hx hheading
    exact hnone x.entry ((sees_arena_iff hd hc).2 ⟨x, hx, hheading, rfl⟩)

theorem isAtOrAbove_of_sees (hd : d.IsNumbered) {e s h : Arena.Entry} (hsees : d.arena.Sees e h)
    (hsh : d.arena.IsAtOrAbove s h) (hne : s ≠ h) : d.arena.IsAtOrAbove s e := by
  obtain ⟨m, hm, rfl | ⟨q, hq, i, j, -, hi, hj⟩⟩ := hsees.exists_level
  · exact hm.trans hsh
  · -- the parent of `h` is a parent of an ancestor, and `s` is at or above it
    obtain ⟨y, hy, rfl⟩ := (isNode_arena_iff hd).1 hq
    obtain ⟨-, hparent, -⟩ := (getElem?_children_arena_iff hd hy).1 hi
    obtain ⟨-, hmparent, -⟩ := (getElem?_children_arena_iff hd hy).1 hj
    rcases Relation.ReflTransGen.cases_head hsh with heq | ⟨q', hq', hsh⟩
    · exact absurd heq.symm hne
    · rw [← Option.some.inj (hparent.symm.trans hq')] at hsh
      exact (hm.tail hmparent).trans hsh

/-- A heading inside an earlier sibling of a node, or of one of its ancestors, is not seen. -/
theorem not_sees_of_isEarlierSibling (hd : d.IsNumbered) {e m s h : Arena.Entry}
    (hm : d.arena.IsAtOrAbove m e) (hs : d.arena.IsEarlierSibling s m)
    (hsh : d.arena.IsAtOrAbove s h) (hne : s ≠ h) : ¬ d.arena.Sees e h := by
  intro hsees
  have hse := isAtOrAbove_of_sees hd hsees hsh hne
  obtain ⟨q, hq, i, j, hij, hi, hj⟩ := hs
  obtain ⟨y, hy, rfl⟩ := (isNode_arena_iff hd).1 hq
  obtain ⟨hsnode, hsparent, hsindex⟩ := (getElem?_children_arena_iff hd hy).1 hi
  obtain ⟨hmnode, hmparent, hmindex⟩ := (getElem?_children_arena_iff hd hy).1 hj
  have hsm : s ≠ m := by
    rintro rfl
    exact absurd (hsindex.symm.trans hmindex) (Nat.ne_of_lt hij)
  rcases hse.total hm with habove | habove
  · exact not_isAtOrAbove_of_parent?_eq hd hmnode hq hmparent hsparent hsm.symm habove
  · exact not_isAtOrAbove_of_parent?_eq hd hsnode hq hsparent hmparent hsm habove

/-- Whatever steps are tried, with failures among them: if no node is left open and the numbers have
32 bits, the section that a node stands in is that of the heading with the greatest number among
those it sees, and there is none if it sees none. A search along the links of the arena that the
same steps leave ends with that section. A heading inside an earlier sibling of the node, or of one
of its ancestors, is not seen. -/
theorem scopeAt_of_attempts (source : Source) (path : Option Path) (fileKind : FileKind)
    (ss : List BuildStep) {d : Document}
    (hd : ((Builder.start source path fileKind).attempts ss).2.finish = .ok d)
    (hcount : d.nodeCount < UInt32.size) :
    ((ArenaBuilder.start source path fileKind).attempts ss).2.finish = .ok d.arena ∧
      ∀ c ∈ d.cursors,
        (∀ rounds, d.nodeCount ≤ rounds →
          d.arena.scopeAt rounds c.entry = some (d.scopeAt c)) ∧
        (∀ within, d.scopeAt c = some within ↔ ∃ h, d.arena.IsLastSeen c.entry h ∧
          .ofHeading (source.slice h.record.span) = within) ∧
        (d.scopeAt c = none ↔ ∀ h, ¬ d.arena.Sees c.entry h) ∧
        ∀ m s h, d.arena.IsAtOrAbove m c.entry → d.arena.IsEarlierSibling s m →
          d.arena.IsAtOrAbove s h → s ≠ h → ¬ d.arena.Sees c.entry h := by
  obtain ⟨-, hfinish⟩ := attempts_arena source path fileKind ss hd (Nat.le_of_lt hcount)
  have hnumbered := (Builder.isNumbered_start source path fileKind).attempts ss
  obtain ⟨hnumbered, -⟩ := isNumbered_of_finish hnumbered hd
  obtain ⟨-, hsource, -⟩ := (Builder.sound_start source path fileKind).attempts ss
  have hsource' : d.source = source := by
    obtain ⟨-, rfl⟩ := Builder.finish_eq_ok_iff.1 hd
    exact hsource
  refine ⟨hfinish, ?_⟩
  intro c hc
  refine ⟨fun rounds hrounds => scopeAt_arena hnumbered hc hrounds, ?_,
    scopeAt_eq_none_iff hnumbered hc, ?_⟩
  · rw [← hsource']
    exact scopeAt_eq_some_iff hnumbered hc
  · intro m s h hm hs hsh hne
    exact not_sees_of_isEarlierSibling hnumbered hm hs hsh hne

/-- Steps that put a heading into a block behind another heading. -/
def nestedHeadingSteps : List BuildStep :=
  [.enter .heading, .token .leaf 4, .leave, .enter .block, .enter .heading, .token .leaf 1, .leave,
    .leave, .leave, .enter .line, .token .leaf 1, .leave]

/-- What `nestedHeadingSteps` build over a text of six characters. -/
def nestedHeadingDocument : Document where
  source := .ofChars ['t', 'a', 's', 'k', 'x', 'y']
  path := none
  fileKind := .suite
  topLevel :=
    [.mk 1 .heading ⟨0, 4⟩ [.token 2 .leaf ⟨0, 4⟩],
      .mk 3 .block ⟨4, 5⟩ [.mk 4 .heading ⟨4, 5⟩ [.token 5 .leaf ⟨4, 5⟩]],
      .mk 6 .line ⟨5, 6⟩ [.token 7 .leaf ⟨5, 6⟩]]

/-- The token of the line is in the section of the first heading; it does not see the second. -/
theorem scopeAt_of_attempts_nestedHeading :
    ((Builder.start (.ofChars ['t', 'a', 's', 'k', 'x', 'y']) none .suite).attempts
        nestedHeadingSteps).2.finish = .ok nestedHeadingDocument ∧
      nestedHeadingDocument.nodeCount = 8 ∧ 8 < UInt32.size ∧
      ∃ c h, nestedHeadingDocument.find? 7 = some c ∧
        nestedHeadingDocument.arena.entry? 4 = some h ∧ h.record.kind = .heading ∧
        nestedHeadingDocument.scopeAt c = some .tasks ∧
        (∃ first, nestedHeadingDocument.arena.IsLastSeen c.entry first ∧
          .ofHeading (Source.slice (.ofChars ['t', 'a', 's', 'k', 'x', 'y']) first.record.span) =
            Section.tasks) ∧
        ¬ nestedHeadingDocument.arena.Sees c.entry h := by
  have hd : ((Builder.start (.ofChars ['t', 'a', 's', 'k', 'x', 'y']) none .suite).attempts
      nestedHeadingSteps).2.finish = .ok nestedHeadingDocument := rfl
  have hlt : 8 < UInt32.size := by decide
  obtain ⟨-, hscope⟩ := scopeAt_of_attempts (.ofChars ['t', 'a', 's', 'k', 'x', 'y']) none .suite
    nestedHeadingSteps hd hlt
  have hc : nestedHeadingDocument.cursors[7] ∈ nestedHeadingDocument.cursors :=
    List.getElem_mem (by decide)
  obtain ⟨-, hsome, -, hnested⟩ := hscope _ hc
  have htasks : nestedHeadingDocument.scopeAt nestedHeadingDocument.cursors[7] = some .tasks := by
    decide +kernel
  have hline : nestedHeadingDocument.arena.IsAtOrAbove
      ⟨6, ⟨.line, ⟨5, 6⟩, some 0, 2, [7]⟩⟩ nestedHeadingDocument.cursors[7].entry :=
    Relation.ReflTransGen.single rfl
  have hblock : nestedHeadingDocument.arena.IsEarlierSibling
      ⟨3, ⟨.block, ⟨4, 5⟩, some 0, 1, [4]⟩⟩ ⟨6, ⟨.line, ⟨5, 6⟩, some 0, 2, [7]⟩⟩ :=
    ⟨⟨0, ⟨.block, ⟨0, 6⟩, none, 0, [1, 3, 6]⟩⟩, rfl, 1, 2, by decide, rfl, rfl⟩
  have hheading : nestedHeadingDocument.arena.IsAtOrAbove ⟨3, ⟨.block, ⟨4, 5⟩, some 0, 1, [4]⟩⟩
      ⟨4, ⟨.heading, ⟨4, 5⟩, some 3, 0, [5]⟩⟩ := Relation.ReflTransGen.single rfl
  exact ⟨hd, rfl, hlt, _, _, rfl, rfl, rfl, htasks, (hsome .tasks).1 htasks,
    hnested _ _ _ hline hblock hheading (by decide)⟩

end Document

end RunMarkers
