import Mathlib.Logic.Relation
import RunMarkers.Proofs.Document.Links

/-!
# Above and before a node

Going up the links to the parents from a node ends at the root, and the numbers fall on the way, so
the nodes at or above a node are a chain (`Arena.IsAtOrAbove.total`). What holds of the root, and of
the children of each node of which it holds, holds of all nodes (`Document.induction_on_cursors`).
-/

namespace RunMarkers

namespace Arena

/-- The node `m` is `e` itself or one of its ancestors, by the links to the parents. -/
def IsAtOrAbove (a : Arena) (m e : Entry) : Prop :=
  Relation.ReflTransGen (fun child p => a.parent? child = some p) e m

/-- The nodes have a parent in common, and `s` is before `m` among its children. -/
def IsEarlierSibling (a : Arena) (s m : Entry) : Prop :=
  ∃ p, a.IsNode p ∧
    ∃ i j : Nat, i < j ∧ (a.children p)[i]? = some s ∧ (a.children p)[j]? = some m

theorem IsAtOrAbove.total {a : Arena} {m m' e : Entry} (h : a.IsAtOrAbove m e)
    (h' : a.IsAtOrAbove m' e) : a.IsAtOrAbove m' m ∨ a.IsAtOrAbove m m' :=
  Relation.ReflTransGen.total_of_right_unique
    (fun _ _ _ hp hq => Option.some.inj (hp.symm.trans hq)) h h'

end Arena

namespace Document

variable {d : Document} {p c : Cursor}

theorem above_of_mem_children (hc : c ∈ p.children) : c.above = p.here :: p.above := by
  obtain ⟨i, hi⟩ := List.mem_iff_getElem?.1 hc
  obtain ⟨n, -, rfl⟩ := Cursor.exists_eq_of_getElem?_children hi
  rfl

/-- From the root to the children of a node, and so to all nodes. -/
theorem induction_on_cursors {motive : (c : Cursor) → c ∈ d.cursors → Prop}
    (top : motive d.top d.top_mem_cursors)
    (child : ∀ (p c : Cursor) (i : Nat) (hp : p ∈ d.cursors) (hi : p.children[i]? = some c),
      motive p hp → motive c (mem_cursors_of_mem_children hp (List.mem_of_getElem? hi)))
    (c : Cursor) (hc : c ∈ d.cursors) : motive c hc := by
  -- the induction is on the number of ancestors
  induction hdepth : c.above.length generalizing c with
  | zero =>
      rcases eq_top_or_exists_mem_children hc with rfl | ⟨p, -, hcp⟩
      · exact top
      · rw [above_of_mem_children hcp] at hdepth
        exact absurd hdepth (Nat.succ_ne_zero _)
  | succ depth ih =>
      rcases eq_top_or_exists_getElem?_children hc with rfl | ⟨p, hp, i, hi⟩
      · exact top
      · rw [above_of_mem_children (List.mem_of_getElem? hi)] at hdepth
        exact child p c i hp hi (ih p hp (Nat.succ.inj hdepth))

/-- A node comes before its children in the order of the numbers. -/
theorem id_lt_of_mem_children (hd : d.IsNumbered) (hp : p ∈ d.cursors) (hc : c ∈ p.children) :
    p.node.id < c.node.id := by
  have hpairwise := pairwise_id_lt hd (cons_children_sublist_cursors hp)
  rw [List.map_cons, List.pairwise_cons] at hpairwise
  exact hpairwise.1 _ (List.mem_map.2 ⟨c, hc, rfl⟩)

theorem length_above_lt_nodeCount (hd : d.IsNumbered) (hc : c ∈ d.cursors) :
    c.above.length < d.nodeCount := by
  have hle : c.above.length ≤ c.node.id := by
    induction c, hc using induction_on_cursors with
    | top => exact Nat.zero_le _
    | child p c i hp hi ih =>
        have hcp := List.mem_of_getElem? hi
        rw [above_of_mem_children hcp]
        exact Nat.lt_of_le_of_lt ih (id_lt_of_mem_children hd hp hcp)
  obtain ⟨i, hi, rfl⟩ := List.mem_iff_getElem.1 hc
  rw [hd.id_getElem hi] at hle
  rw [length_cursors] at hi
  exact Nat.lt_of_le_of_lt hle hi

theorem isAtOrAbove_top_arena_iff {m : Arena.Entry} :
    d.arena.IsAtOrAbove m d.top.entry ↔ m = d.top.entry := by
  constructor
  · intro hm
    rcases Relation.ReflTransGen.cases_head hm with heq | ⟨q, hq, -⟩
    · exact heq.symm
    · rw [parent?_top_arena] at hq
      cases hq
  · rintro rfl
    exact Relation.ReflTransGen.refl

theorem isAtOrAbove_arena_iff (hd : d.IsNumbered) (hp : p ∈ d.cursors) (hc : c ∈ p.children)
    {m : Arena.Entry} :
    d.arena.IsAtOrAbove m c.entry ↔ m = c.entry ∨ d.arena.IsAtOrAbove m p.entry := by
  have hparent := parent?_arena hd hp hc
  constructor
  · intro hm
    rcases Relation.ReflTransGen.cases_head hm with heq | ⟨q, hq, hm⟩
    · exact Or.inl heq.symm
    · rw [← Option.some.inj (hparent.symm.trans hq)] at hm
      exact Or.inr hm
  · rintro (rfl | hm)
    · exact Relation.ReflTransGen.refl
    · exact Relation.ReflTransGen.head hparent hm

theorem not_isEarlierSibling_top_arena (hd : d.IsNumbered) {s : Arena.Entry} :
    ¬ d.arena.IsEarlierSibling s d.top.entry := by
  rintro ⟨q, hq, i, j, -, -, hj⟩
  obtain ⟨y, hy, rfl⟩ := (isNode_arena_iff hd).1 hq
  have hparent := ((getElem?_children_arena_iff hd hy).1 hj).2.1
  rw [parent?_top_arena] at hparent
  cases hparent

theorem isEarlierSibling_arena_iff (hd : d.IsNumbered) (hp : p ∈ d.cursors) {i : Nat}
    (hc : p.children[i]? = some c) {s : Arena.Entry} :
    d.arena.IsEarlierSibling s c.entry ↔
      ∃ j < i, ∃ x, p.children[j]? = some x ∧ x.entry = s := by
  have hentry : ∀ j : Nat,
      (d.arena.children p.entry)[j]? = some s ↔ ∃ x, p.children[j]? = some x ∧ x.entry = s := by
    intro j
    rw [children_arena hd hp, List.getElem?_map, Option.map_eq_some_iff]
  constructor
  · rintro ⟨q, hq, j, k, hjk, hj, hk⟩
    obtain ⟨y, hy, rfl⟩ := (isNode_arena_iff hd).1 hq
    -- the node has one parent and one place among its children
    obtain ⟨-, hparent, hindex⟩ := (getElem?_children_arena_iff hd hy).1 hk
    rw [parent?_arena hd hp (List.mem_of_getElem? hc)] at hparent
    rw [← Option.some.inj hparent] at hj
    have hindex' : c.entry.record.index = i := Cursor.length_before_of_getElem?_children hc
    rw [← hindex, hindex'] at hjk
    exact ⟨j, hjk, (hentry j).1 hj⟩
  · rintro ⟨j, hj, hx⟩
    refine ⟨p.entry, entry?_arena hd hp, j, i, hj, (hentry j).2 hx, ?_⟩
    rw [children_arena hd hp, List.getElem?_map, hc]
    rfl

theorem id_le_of_isAtOrAbove (hd : d.IsNumbered) (hc : c ∈ d.cursors) {m : Arena.Entry}
    (hm : d.arena.IsAtOrAbove m c.entry) : m.id ≤ c.node.id := by
  induction c, hc using induction_on_cursors with
  | top =>
      rw [isAtOrAbove_top_arena_iff.1 hm]
      exact Nat.le_refl _
  | child p c i hp hi ih =>
      have hcp := List.mem_of_getElem? hi
      rcases (isAtOrAbove_arena_iff hd hp hcp).1 hm with rfl | hm
      · exact Nat.le_refl _
      · exact Nat.le_trans (ih hm) (Nat.le_of_lt (id_lt_of_mem_children hd hp hcp))

theorem id_lt_of_parent?_arena (hd : d.IsNumbered) {e q : Arena.Entry} (he : d.arena.IsNode e)
    (hparent : d.arena.parent? e = some q) : q.id < e.id := by
  obtain ⟨c, hc, rfl⟩ := (isNode_arena_iff hd).1 he
  rcases eq_top_or_exists_mem_children hc with rfl | ⟨p, hp, hcp⟩
  · rw [parent?_top_arena] at hparent
    cases hparent
  · rw [parent?_arena hd hp hcp] at hparent
    rw [← Option.some.inj hparent]
    exact id_lt_of_mem_children hd hp hcp

/-- Of two children of a node neither is above the other. -/
theorem not_isAtOrAbove_of_parent?_eq (hd : d.IsNumbered) {s m q : Arena.Entry}
    (hs : d.arena.IsNode s) (hq : d.arena.IsNode q) (hsparent : d.arena.parent? s = some q)
    (hmparent : d.arena.parent? m = some q) (hne : s ≠ m) : ¬ d.arena.IsAtOrAbove s m := by
  intro habove
  rcases Relation.ReflTransGen.cases_head habove with heq | ⟨q', hq', habove⟩
  · exact hne heq.symm
  · rw [← Option.some.inj (hmparent.symm.trans hq')] at habove
    obtain ⟨y, hy, rfl⟩ := (isNode_arena_iff hd).1 hq
    exact absurd (id_le_of_isAtOrAbove hd hy habove)
      (Nat.not_le_of_lt (id_lt_of_parent?_arena hd hs hsparent))

end Document

end RunMarkers
