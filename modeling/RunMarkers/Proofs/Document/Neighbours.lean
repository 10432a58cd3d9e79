import RunMarkers.Proofs.Document.Walk

/-!
# The neighbours of a node

The cursors on the children of a node are a row: each has the node as its parent, its place as the
number of its earlier siblings, and the cursors just before and just after it as its neighbours. A
walk meets a cursor before those on its children, and meets nothing that is not on its stack or a
child of something it has met.
-/

namespace RunMarkers

namespace Cursor

theorem getElem?_along (above : List Level) (before ns : List Node) (i : Nat) :
    (along above before ns)[i]? = (ns[i]?).map fun n =>
      ⟨⟨(ns.take i).reverse ++ before, n, ns.drop (i + 1)⟩, above⟩ := by
  induction ns generalizing before i with
  | nil => rfl
  | cons n ns ih =>
      cases i with
      | zero => rfl
      | succ i =>
          rw [along, List.getElem?_cons_succ, ih, List.getElem?_cons_succ, List.take_succ_cons,
            List.reverse_cons, List.append_assoc]
          rfl

/-- A child stands between the children before it and those after it. -/
theorem getElem?_children (p : Cursor) (i : Nat) :
    p.children[i]? = (p.node.children[i]?).map fun n =>
      ⟨⟨(p.node.children.take i).reverse, n, p.node.children.drop (i + 1)⟩,
        p.here :: p.above⟩ := by
  rw [children, getElem?_along]
  simp only [List.append_nil]

variable {p c : Cursor} {i : Nat}

theorem exists_eq_of_getElem?_children (hc : p.children[i]? = some c) :
    ∃ n, p.node.children[i]? = some n ∧
      ⟨⟨(p.node.children.take i).reverse, n, p.node.children.drop (i + 1)⟩,
        p.here :: p.above⟩ = c := by
  rwa [getElem?_children, Option.map_eq_some_iff] at hc

theorem parent?_of_mem_children (hc : c ∈ p.children) : c.parent? = some p := by
  obtain ⟨i, hi⟩ := List.mem_iff_getElem?.1 hc
  obtain ⟨n, -, rfl⟩ := exists_eq_of_getElem?_children hi
  rfl

theorem length_before_of_getElem?_children (hc : p.children[i]? = some c) :
    c.here.before.length = i := by
  obtain ⟨n, hn, rfl⟩ := exists_eq_of_getElem?_children hc
  obtain ⟨hi, -⟩ := List.getElem?_eq_some_iff.1 hn
  rw [List.length_reverse, List.length_take_of_le (Nat.le_of_lt hi)]

theorem backward_of_getElem?_children (hc : p.children[i]? = some c) :
    c.backward = (p.node.children.take (i + 1)).reverse := by
  obtain ⟨n, hn, rfl⟩ := exists_eq_of_getElem?_children hc
  rw [List.take_add_one, hn, List.reverse_append]
  rfl

theorem forward_of_getElem?_children (hc : p.children[i]? = some c) :
    c.forward = p.node.children.drop i := by
  obtain ⟨n, hn, rfl⟩ := exists_eq_of_getElem?_children hc
  obtain ⟨hi, rfl⟩ := List.getElem?_eq_some_iff.1 hn
  rw [List.drop_eq_getElem_cons hi]
  rfl

/-- The cursors on the node and its later siblings, going on. -/
def onward (c : Cursor) : List Cursor := along c.above c.here.before c.forward

@[simp] theorem map_node_onward (c : Cursor) : c.onward.map node = c.forward :=
  map_node_along _ _ _

theorem drop_along (above : List Level) (before ns : List Node) (i : Nat) :
    (along above before ns).drop i =
      along above ((ns.take i).reverse ++ before) (ns.drop i) := by
  induction ns generalizing before i with
  | nil => rw [along, List.drop_nil, List.drop_nil, along]
  | cons n ns ih =>
      cases i with
      | zero => rfl
      | succ i =>
          rw [along, List.drop_succ_cons, ih, List.take_succ_cons, List.reverse_cons,
            List.append_assoc, List.drop_succ_cons]
          rfl

theorem onward_of_getElem?_children (hc : p.children[i]? = some c) :
    c.onward = p.children.drop i := by
  rw [onward, forward_of_getElem?_children hc, children, drop_along, List.append_nil]
  obtain ⟨n, -, rfl⟩ := exists_eq_of_getElem?_children hc
  rfl

theorem next?_of_getElem?_children (hc : p.children[i]? = some c) :
    c.next? = p.children[i + 1]? := by
  have hbackward := backward_of_getElem?_children hc
  obtain ⟨n, -, rfl⟩ := exists_eq_of_getElem?_children hc
  rw [backward] at hbackward
  rw [getElem?_children, ← hbackward, next?]
  cases hm : p.node.children[i + 1]? with
  | none => rw [List.drop_eq_nil_of_le (List.getElem?_eq_none_iff.1 hm)]; rfl
  | some m =>
      obtain ⟨hi, rfl⟩ := List.getElem?_eq_some_iff.1 hm
      rw [List.drop_eq_getElem_cons hi]
      rfl

theorem previous?_of_getElem?_children (hc : p.children[i]? = some c) :
    c.previous? = if i = 0 then none else p.children[i - 1]? := by
  cases i with
  | zero =>
      have hlength := length_before_of_getElem?_children hc
      rw [previous?, List.eq_nil_of_length_eq_zero hlength, if_pos rfl]
  | succ i =>
      have hforward := forward_of_getElem?_children hc
      obtain ⟨n, hn, rfl⟩ := exists_eq_of_getElem?_children hc
      obtain ⟨hi, -⟩ := List.getElem?_eq_some_iff.1 hn
      have hm := List.getElem?_eq_getElem (Nat.lt_of_succ_lt hi)
      rw [forward] at hforward
      rw [if_neg (Nat.succ_ne_zero i), Nat.add_sub_cancel, getElem?_children, ← hforward, previous?,
        List.take_add_one, hm, List.reverse_append]
      rfl

/-- A walk meets the cursors on its stack in their order. -/
theorem sublist_walk (stack : List Cursor) : stack.Sublist (walk stack) := by
  rw [walk_eq_flatMap_subtree]
  induction stack with
  | nil => exact List.Sublist.slnil
  | cons c rest ih =>
      rw [List.flatMap_cons, subtree_eq, List.cons_append]
      exact (ih.trans (List.sublist_append_right _ _)).cons_cons c

/-- What a walk does after a cursor that it meets. -/
theorem exists_walk_eq_append {stack : List Cursor} (hp : p ∈ walk stack) :
    ∃ met rest, walk stack = met ++ p :: walk (p.children ++ rest) := by
  fun_induction walk stack with
  | case1 => exact absurd hp List.not_mem_nil
  | case2 top rest ih =>
      rcases List.mem_cons.1 hp with rfl | hp
      · exact ⟨[], rest, rfl⟩
      · obtain ⟨met, rest', h⟩ := ih hp
        exact ⟨top :: met, rest', by rw [h, List.cons_append]⟩

/-- What a walk meets was on its stack or is a child of something met. -/
theorem mem_or_exists_mem_children_of_mem_walk {stack : List Cursor} (hc : c ∈ walk stack) :
    c ∈ stack ∨ ∃ p ∈ walk stack, c ∈ p.children := by
  fun_induction walk stack with
  | case1 => exact absurd hc List.not_mem_nil
  | case2 top rest ih =>
      rcases List.mem_cons.1 hc with rfl | hc
      · exact Or.inl List.mem_cons_self
      · rcases ih hc with hc | ⟨p, hp, hc⟩
        · rcases List.mem_append.1 hc with hc | hc
          · exact Or.inr ⟨top, List.mem_cons_self, hc⟩
          · exact Or.inl (List.mem_cons_of_mem top hc)
        · exact Or.inr ⟨p, List.mem_cons_of_mem top hp, hc⟩

end Cursor

namespace Document

variable {d : Document} {p c : Cursor}

theorem top_mem_cursors (d : Document) : d.top ∈ d.cursors := by
  rw [← descendants_eq_cursors]
  exact (Cursor.sublist_walk [d.top]).subset List.mem_cons_self

/-- A node comes before its children, and these come in their order. -/
theorem cons_children_sublist_cursors (hp : p ∈ d.cursors) :
    (p :: p.children).Sublist d.cursors := by
  rw [← descendants_eq_cursors] at hp ⊢
  obtain ⟨met, rest, h⟩ := Cursor.exists_walk_eq_append hp
  have hwalk := (List.sublist_append_left p.children rest).trans (Cursor.sublist_walk _)
  rw [descendants, h]
  exact (hwalk.cons_cons p).trans (List.sublist_append_right met _)

theorem mem_cursors_of_mem_children (hp : p ∈ d.cursors) (hc : c ∈ p.children) : c ∈ d.cursors :=
  (cons_children_sublist_cursors hp).subset (List.mem_cons_of_mem p hc)

theorem eq_top_or_exists_mem_children (hc : c ∈ d.cursors) :
    c = d.top ∨ ∃ p ∈ d.cursors, c ∈ p.children := by
  rw [← descendants_eq_cursors] at hc ⊢
  rcases Cursor.mem_or_exists_mem_children_of_mem_walk hc with hc | hc
  · exact Or.inl (List.mem_singleton.1 hc)
  · exact Or.inr hc

theorem eq_top_or_exists_getElem?_children (hc : c ∈ d.cursors) :
    c = d.top ∨ ∃ p ∈ d.cursors, ∃ i : Nat, p.children[i]? = some c := by
  rcases eq_top_or_exists_mem_children hc with htop | ⟨p, hp, hcp⟩
  · exact Or.inl htop
  · exact Or.inr ⟨p, hp, List.mem_iff_getElem?.1 hcp⟩

theorem mem_cursors_of_mem_onward (hp : p ∈ d.cursors) (hc : c ∈ p.onward) : c ∈ d.cursors := by
  rcases eq_top_or_exists_getElem?_children hp with rfl | ⟨q, hq, i, hi⟩
  · rw [List.mem_singleton.1 hc]
    exact hp
  · rw [Cursor.onward_of_getElem?_children hi] at hc
    exact mem_cursors_of_mem_children hq (List.mem_of_mem_drop hc)

end Document

end RunMarkers
