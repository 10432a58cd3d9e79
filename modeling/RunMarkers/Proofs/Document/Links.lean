import Mathlib.Data.List.Nodup
import RunMarkers.Proofs.Document.Neighbours
import RunMarkers.Proofs.Document.Records

/-!
# The links of an arena

The arena of a document whose nodes are numbered in document order is coherent
(`Arena.IsLinked`): both sides of every link agree, and every walk ends. The nodes of the arena are
read off the cursors of the document (`Document.isNode_arena_iff`), and going along a link is
going to the neighbouring cursor, so what is known of cursors carries over.
-/

namespace RunMarkers

section Successors

variable {α : Type} {next previous : α → Option α} {l : List α}

/-- Going on through a list, from a place to its end. -/
theorem successors_eq_drop (hnext : ∀ i x, l[i]? = some x → next x = l[i + 1]?) {i : Nat} {x : α}
    (hx : l[i]? = some x) {rounds : Nat} (hrounds : l.length ≤ i + rounds) :
    successors next rounds x = some (l.drop i) := by
  obtain ⟨hi, hget⟩ := List.getElem?_eq_some_iff.1 hx
  induction rounds generalizing i x with
  | zero => exact absurd hi (Nat.not_lt_of_le hrounds)
  | succ rounds ih =>
      rw [successors, hnext i x hx, List.drop_eq_getElem_cons hi, hget]
      cases hsucc : l[i + 1]? with
      | none => rw [List.drop_eq_nil_of_le (List.getElem?_eq_none_iff.1 hsucc)]
      | some y =>
          obtain ⟨hi', hget'⟩ := List.getElem?_eq_some_iff.1 hsucc
          have hy := ih hsucc (Nat.succ_add_eq_add_succ i rounds ▸ hrounds) hi' hget'
          simp only [hy, Option.map_some]

/-- Going back through a list, from a place to its start. -/
theorem successors_eq_reverse_take
    (hprevious : ∀ i x, l[i]? = some x → previous x = if i = 0 then none else l[i - 1]?)
    {i : Nat} {x : α} (hx : l[i]? = some x) {rounds : Nat} (hrounds : i < rounds) :
    successors previous rounds x = some (l.take (i + 1)).reverse := by
  obtain ⟨rounds, rfl⟩ := Nat.exists_eq_add_one_of_ne_zero (Nat.ne_zero_of_lt hrounds)
  induction i generalizing x rounds with
  | zero =>
      rw [successors, hprevious 0 x hx, if_pos rfl, List.take_add_one, hx]
      rfl
  | succ i ih =>
      obtain ⟨hi, -⟩ := List.getElem?_eq_some_iff.1 hx
      have hy : l[i]? = some l[i] := List.getElem?_eq_getElem (Nat.lt_of_succ_lt hi)
      obtain ⟨rounds, rfl⟩ := Nat.exists_eq_add_one_of_ne_zero (Nat.ne_zero_of_lt
        (Nat.lt_of_succ_lt_succ hrounds))
      have hback := ih hy rounds (Nat.lt_of_succ_lt_succ hrounds)
      rw [successors, hprevious (i + 1) x hx, if_neg (Nat.succ_ne_zero i), Nat.add_sub_cancel, hy,
        List.take_add_one, hx, List.reverse_append]
      simp only [hback, Option.map_some]
      rfl

end Successors

namespace Arena

/-- A number with the record that stands there. -/
def IsNode (a : Arena) (e : Entry) : Prop := a.entry? e.id = some e

/-- The links of an arena agree with each other and with the numbers of the nodes. -/
structure IsLinked (a : Arena) : Prop where
  /-- The walk over all nodes ends, and meets them in the order of their numbers. -/
  map_id_descendants : ∀ rounds, a.nodeCount ≤ rounds →
    (a.descendants rounds).map (·.map Entry.id) = some (List.range a.nodeCount)
  /-- The numbers in a list of children are numbers of nodes. -/
  map_id_children : ∀ p, a.IsNode p → (a.children p).map Entry.id = p.record.children
  /-- A node is among the children of its parent, at its index, and nowhere else. -/
  getElem?_children_iff : ∀ p c i, a.IsNode p →
    ((a.children p)[i]? = some c ↔ a.IsNode c ∧ a.parent? c = some p ∧ c.record.index = i)
  /-- All nodes but the root have a parent, which comes before them. Their number stands once
  among the children of the parent, and not among those of another node. -/
  exists_parent : ∀ c, a.IsNode c → c.id ≠ 0 → ∃ p, a.IsNode p ∧ a.parent? c = some p ∧
    p.id < c.id ∧ p.record.children.count c.id = 1 ∧
      ∀ q, a.IsNode q → c.id ∈ q.record.children → q = p
  next?_eq_some_iff : ∀ c c', a.IsNode c → a.IsNode c' →
    (a.next? c = some c' ↔ a.previous? c' = some c)
  /-- The walks to the earlier and to the later siblings end, and meet all children of the
  parent. -/
  exists_siblings : ∀ c p, a.IsNode c → a.parent? c = some p → ∃ earlier later,
    (∀ rounds, a.nodeCount ≤ rounds →
      a.backward rounds c = some earlier ∧ a.forward rounds c = some later) ∧
        earlier.reverse ++ later.tail = a.children p

/-- Going along the links of a node is going to the neighbouring cursors. -/
structure Follows (a : Arena) (c : Cursor) : Prop where
  entry?_id : a.entry? c.node.id = some c.entry
  parent?_entry : a.parent? c.entry = c.parent?.map Cursor.entry
  firstChild?_entry : a.firstChild? c.entry = c.firstChild?.map Cursor.entry
  children_entry : a.children c.entry = c.children.map Cursor.entry
  previous?_entry : a.previous? c.entry = c.previous?.map Cursor.entry
  next?_entry : a.next? c.entry = c.next?.map Cursor.entry
  map_id_backward : ∀ rounds, a.nodeCount ≤ rounds →
    (a.backward rounds c.entry).map (·.map Entry.id) = some (c.backward.map Node.id)
  map_id_forward : ∀ rounds, a.nodeCount ≤ rounds →
    (a.forward rounds c.entry).map (·.map Entry.id) = some (c.forward.map Node.id)

end Arena

theorem Cursor.children_record_entry (c : Cursor) :
    c.entry.record.children = c.children.map fun child => child.node.id := by
  change c.node.children.map Node.id = _
  rw [← Cursor.map_node_children, List.map_map]
  rfl

namespace Document

open Cursor (children_record_entry)

variable {d : Document} {p c : Cursor} {e : Arena.Entry}

theorem nodeCount_arena (d : Document) : d.arena.nodeCount = d.nodeCount := by
  rw [Arena.nodeCount, arena, List.length_map, length_cursors]

theorem entry?_arena (hd : d.IsNumbered) (hc : c ∈ d.cursors) :
    d.arena.entry? c.node.id = some c.entry := by
  obtain ⟨i, hi, rfl⟩ := List.mem_iff_getElem.1 hc
  rw [Arena.entry?, arena, List.getElem?_map, hd.id_getElem hi, List.getElem?_eq_getElem hi,
    Cursor.entry, hd.id_getElem hi]
  rfl

/-- The nodes of the arena are read off the cursors. -/
theorem isNode_arena_iff (hd : d.IsNumbered) :
    d.arena.IsNode e ↔ ∃ c ∈ d.cursors, c.entry = e := by
  constructor
  · intro he
    rw [Arena.IsNode, Arena.entry?, arena, List.getElem?_map, Option.map_map,
      Option.map_eq_some_iff] at he
    obtain ⟨c, hc, he⟩ := he
    obtain ⟨hi, hc⟩ := List.getElem?_eq_some_iff.1 hc
    refine ⟨c, hc ▸ List.getElem_mem hi, ?_⟩
    rw [← he, Cursor.entry, ← hc, hd.id_getElem hi]
    rfl
  · rintro ⟨c, hc, rfl⟩
    exact entry?_arena hd hc

theorem children_arena (hd : d.IsNumbered) (hp : p ∈ d.cursors) :
    d.arena.children p.entry = p.children.map Cursor.entry := by
  rw [Arena.children, children_record_entry, List.filterMap_map,
    List.filterMap_eq_map_iff_forall_eq_some]
  intro c hc
  exact entry?_arena hd (mem_cursors_of_mem_children hp hc)

theorem getElem?_children_bind_entry? (hd : d.IsNumbered) (hp : p ∈ d.cursors) (i : Nat) :
    (p.entry.record.children[i]?).bind d.arena.entry? = (p.children[i]?).map Cursor.entry := by
  rw [children_record_entry, List.getElem?_map]
  cases hc : p.children[i]? with
  | none => rfl
  | some c => exact entry?_arena hd (mem_cursors_of_mem_children hp (List.mem_of_getElem? hc))

theorem parent?_arena (hd : d.IsNumbered) (hp : p ∈ d.cursors) (hc : c ∈ p.children) :
    d.arena.parent? c.entry = some p.entry := by
  rw [Arena.parent?, Cursor.entry, Cursor.record, Cursor.parent?_of_mem_children hc]
  exact entry?_arena hd hp

theorem next?_arena (hd : d.IsNumbered) (hp : p ∈ d.cursors) {i : Nat}
    (hc : p.children[i]? = some c) :
    d.arena.next? c.entry = (p.children[i + 1]?).map Cursor.entry := by
  have hindex : c.entry.record.index = i := Cursor.length_before_of_getElem?_children hc
  rw [Arena.next?, parent?_arena hd hp (List.mem_of_getElem? hc), hindex]
  exact getElem?_children_bind_entry? hd hp (i + 1)

theorem previous?_arena (hd : d.IsNumbered) (hp : p ∈ d.cursors) {i : Nat}
    (hc : p.children[i]? = some c) :
    d.arena.previous? c.entry =
      if i = 0 then none else (p.children[i - 1]?).map Cursor.entry := by
  have hindex : c.entry.record.index = i := Cursor.length_before_of_getElem?_children hc
  rw [Arena.previous?, parent?_arena hd hp (List.mem_of_getElem? hc), hindex]
  cases i with
  | zero => rfl
  | succ i => exact getElem?_children_bind_entry? hd hp i

theorem parent?_top_arena (d : Document) : d.arena.parent? d.top.entry = none := rfl

theorem next?_top_arena (d : Document) : d.arena.next? d.top.entry = none := rfl

theorem previous?_top_arena (d : Document) : d.arena.previous? d.top.entry = none := rfl

theorem getElem?_children_arena_iff (hd : d.IsNumbered) (hp : p ∈ d.cursors) {i : Nat} :
    (d.arena.children p.entry)[i]? = some e ↔
      d.arena.IsNode e ∧ d.arena.parent? e = some p.entry ∧ e.record.index = i := by
  constructor
  · intro he
    rw [children_arena hd hp, List.getElem?_map, Option.map_eq_some_iff] at he
    obtain ⟨c, hc, rfl⟩ := he
    have hmem := List.mem_of_getElem? hc
    exact ⟨entry?_arena hd (mem_cursors_of_mem_children hp hmem), parent?_arena hd hp hmem,
      Cursor.length_before_of_getElem?_children hc⟩
  · rintro ⟨he, hparent, rfl⟩
    obtain ⟨c, hc, rfl⟩ := (isNode_arena_iff hd).1 he
    rcases eq_top_or_exists_getElem?_children hc with rfl | ⟨q, hq, i, hi⟩
    · rw [parent?_top_arena] at hparent
      cases hparent
    · rw [parent?_arena hd hq (List.mem_of_getElem? hi)] at hparent
      have hindex : c.entry.record.index = i := Cursor.length_before_of_getElem?_children hi
      rw [← Option.some.inj hparent, hindex, children_arena hd hq, List.getElem?_map, hi]
      rfl

/-- Going on from a node is going back to it. -/
theorem next?_arena_eq_some_iff (hd : d.IsNumbered) {e e' : Arena.Entry} (he : d.arena.IsNode e)
    (he' : d.arena.IsNode e') : d.arena.next? e = some e' ↔ d.arena.previous? e' = some e := by
  obtain ⟨c, hc, rfl⟩ := (isNode_arena_iff hd).1 he
  obtain ⟨c', hc', rfl⟩ := (isNode_arena_iff hd).1 he'
  constructor
  · intro hnext
    rcases eq_top_or_exists_getElem?_children hc with rfl | ⟨p, hp, i, hi⟩
    · rw [next?_top_arena] at hnext
      cases hnext
    · rw [next?_arena hd hp hi, Option.map_eq_some_iff] at hnext
      obtain ⟨x, hx, hentry⟩ := hnext
      rw [← hentry, previous?_arena hd hp hx, if_neg (Nat.succ_ne_zero i), Nat.add_sub_cancel, hi]
      rfl
  · intro hprevious
    rcases eq_top_or_exists_getElem?_children hc' with rfl | ⟨p, hp, i, hi⟩
    · rw [previous?_top_arena] at hprevious
      cases hprevious
    · rw [previous?_arena hd hp hi] at hprevious
      cases i with
      | zero => cases hprevious
      | succ i =>
          rw [if_neg (Nat.succ_ne_zero i), Option.map_eq_some_iff] at hprevious
          obtain ⟨x, hx, hentry⟩ := hprevious
          rw [← hentry, next?_arena hd hp hx]
          exact congrArg (Option.map Cursor.entry) hi

theorem length_children_lt_nodeCount (hp : p ∈ d.cursors) : p.children.length < d.nodeCount := by
  have hlength := (cons_children_sublist_cursors hp).length_le
  rwa [List.length_cons, length_cursors] at hlength

theorem backward_arena (hd : d.IsNumbered) (hp : p ∈ d.cursors) {i : Nat}
    (hc : p.children[i]? = some c) {rounds : Nat} (hrounds : d.nodeCount ≤ rounds) :
    d.arena.backward rounds c.entry = some ((d.arena.children p.entry).take (i + 1)).reverse := by
  obtain ⟨hi, -⟩ := List.getElem?_eq_some_iff.1 hc
  have hlt := Nat.lt_of_lt_of_le (Nat.lt_trans hi (length_children_lt_nodeCount hp)) hrounds
  rw [Arena.backward, children_arena hd hp]
  refine successors_eq_reverse_take ?_ ?_ hlt
  · intro j x hx
    rw [List.getElem?_map, Option.map_eq_some_iff] at hx
    obtain ⟨c', hc', rfl⟩ := hx
    rw [previous?_arena hd hp hc', List.getElem?_map]
  · rw [List.getElem?_map, hc]
    rfl

theorem forward_arena (hd : d.IsNumbered) (hp : p ∈ d.cursors) {i : Nat}
    (hc : p.children[i]? = some c) {rounds : Nat} (hrounds : d.nodeCount ≤ rounds) :
    d.arena.forward rounds c.entry = some ((d.arena.children p.entry).drop i) := by
  have hle := Nat.le_trans (Nat.le_of_lt (length_children_lt_nodeCount hp)) hrounds
  rw [Arena.forward, children_arena hd hp]
  refine successors_eq_drop ?_ ?_ ?_
  · intro j x hx
    rw [List.getElem?_map, Option.map_eq_some_iff] at hx
    obtain ⟨c', hc', rfl⟩ := hx
    rw [next?_arena hd hp hc', List.getElem?_map]
  · rw [List.getElem?_map, hc]
    rfl
  · rw [List.length_map]
    exact Nat.le_trans hle (Nat.le_add_left rounds i)

/-- A walk over the arena takes a round for each cursor that the walk over the document meets. -/
theorem walk_arena (hd : d.IsNumbered) (stack : List Cursor) (hstack : ∀ c ∈ stack, c ∈ d.cursors)
    {rounds : Nat} (hrounds : (Cursor.walk stack).length ≤ rounds) :
    d.arena.walk rounds (stack.map Cursor.entry) =
      some ((Cursor.walk stack).map Cursor.entry) := by
  fun_induction Cursor.walk stack generalizing rounds with
  | case1 => rw [List.map_nil, Arena.walk]
  | case2 c rest ih =>
      have hc := hstack c List.mem_cons_self
      obtain ⟨rounds, rfl⟩ := Nat.exists_eq_add_one_of_ne_zero (Nat.ne_zero_of_lt hrounds)
      have hwalk : d.arena.walk rounds (c.children.map Cursor.entry ++ rest.map Cursor.entry) =
          some ((Cursor.walk (c.children ++ rest)).map Cursor.entry) := by
        rw [← List.map_append]
        apply ih _ (Nat.le_of_succ_le_succ hrounds)
        intro x hx
        rcases List.mem_append.1 hx with hx | hx
        · exact mem_cursors_of_mem_children hc hx
        · exact hstack x (List.mem_cons_of_mem c hx)
      rw [List.map_cons, Arena.walk, children_arena hd hc, hwalk, List.map_cons, Option.map_some]

theorem descendants_arena (hd : d.IsNumbered) {rounds : Nat} (hrounds : d.nodeCount ≤ rounds) :
    d.arena.descendants rounds = some (d.cursors.map Cursor.entry) := by
  have htop : d.arena.entry? 0 = some d.top.entry := entry?_arena hd d.top_mem_cursors
  have hlength : (Cursor.walk [d.top]).length ≤ rounds := by
    rwa [← descendants, descendants_eq_cursors, length_cursors]
  have hstack : ∀ c ∈ [d.top], c ∈ d.cursors :=
    fun c hc => List.mem_singleton.1 hc ▸ d.top_mem_cursors
  rw [Arena.descendants, htop, Option.bind_some, ← descendants_eq_cursors, descendants]
  exact walk_arena hd [d.top] hstack hlength

/-- Nodes are numbered upwards along a list of cursors that keeps the document order. -/
theorem pairwise_id_lt (hd : d.IsNumbered) {cs : List Cursor} (hcs : cs.Sublist d.cursors) :
    (cs.map fun c => c.node.id).Pairwise (· < ·) := by
  have hsublist := hcs.map fun c : Cursor => c.node.id
  rw [hd.map_id_cursors] at hsublist
  exact List.pairwise_lt_range.sublist hsublist

theorem exists_parent_arena (hd : d.IsNumbered) (he : d.arena.IsNode e) (hid : e.id ≠ 0) :
    ∃ p, d.arena.IsNode p ∧ d.arena.parent? e = some p ∧ p.id < e.id ∧
      p.record.children.count e.id = 1 ∧
        ∀ q, d.arena.IsNode q → e.id ∈ q.record.children → q = p := by
  obtain ⟨c, hc, rfl⟩ := (isNode_arena_iff hd).1 he
  rcases eq_top_or_exists_mem_children hc with rfl | ⟨p, hp, hcp⟩
  · exact absurd rfl hid
  have hparent := parent?_arena hd hp hcp
  have hpairwise := pairwise_id_lt hd (cons_children_sublist_cursors hp)
  rw [List.map_cons, List.pairwise_cons, ← children_record_entry] at hpairwise
  have hmem : c.node.id ∈ p.entry.record.children := by
    rw [children_record_entry]
    exact List.mem_map.2 ⟨c, hcp, rfl⟩
  refine ⟨p.entry, entry?_arena hd hp, hparent, hpairwise.1 _ hmem, ?_, ?_⟩
  · exact List.count_eq_one_of_mem (hpairwise.2.imp Nat.ne_of_lt) hmem
  · intro q hq hcq
    obtain ⟨y, hy, rfl⟩ := (isNode_arena_iff hd).1 hq
    rw [children_record_entry] at hcq
    obtain ⟨x, hx, hxid⟩ := List.mem_map.1 hcq
    -- the child of `y` with the number of `c` is `c`, so `y` is the parent of `c`
    have hentry := entry?_arena hd (mem_cursors_of_mem_children hy hx)
    rw [hxid] at hentry
    have hsame := (entry?_arena hd hc).symm.trans hentry
    have hparent' := parent?_arena hd hy hx
    rw [← Option.some.inj hsame, hparent] at hparent'
    exact (Option.some.inj hparent').symm

theorem exists_siblings_arena (hd : d.IsNumbered) {p : Arena.Entry} (he : d.arena.IsNode e)
    (hparent : d.arena.parent? e = some p) :
    ∃ earlier later, (∀ rounds, d.arena.nodeCount ≤ rounds →
      d.arena.backward rounds e = some earlier ∧ d.arena.forward rounds e = some later) ∧
        earlier.reverse ++ later.tail = d.arena.children p := by
  obtain ⟨c, hc, rfl⟩ := (isNode_arena_iff hd).1 he
  rcases eq_top_or_exists_getElem?_children hc with rfl | ⟨q, hq, i, hi⟩
  · rw [parent?_top_arena] at hparent
    cases hparent
  rw [parent?_arena hd hq (List.mem_of_getElem? hi)] at hparent
  refine ⟨((d.arena.children q.entry).take (i + 1)).reverse, (d.arena.children q.entry).drop i,
    ?_, ?_⟩
  · intro rounds hrounds
    rw [nodeCount_arena] at hrounds
    exact ⟨backward_arena hd hq hi hrounds, forward_arena hd hq hi hrounds⟩
  · rw [List.reverse_reverse, List.tail_drop, List.take_append_drop, Option.some.inj hparent]

/-- The arena of a document numbered in document order is coherent. -/
theorem isLinked_arena (hd : d.IsNumbered) : d.arena.IsLinked where
  map_id_descendants := by
    intro rounds hrounds
    rw [nodeCount_arena] at hrounds ⊢
    rw [descendants_arena hd hrounds, ← hd, ← map_node_cursors, Option.map_some, List.map_map,
      List.map_map]
    rfl
  map_id_children := by
    intro e he
    obtain ⟨p, hp, rfl⟩ := (isNode_arena_iff hd).1 he
    rw [children_arena hd hp, children_record_entry, List.map_map]
    rfl
  getElem?_children_iff := by
    intro e c i he
    obtain ⟨p, hp, rfl⟩ := (isNode_arena_iff hd).1 he
    exact getElem?_children_arena_iff hd hp
  exists_parent := fun c hc hid => exists_parent_arena hd hc hid
  next?_eq_some_iff := fun c c' hc hc' => next?_arena_eq_some_iff hd hc hc'
  exists_siblings := fun c p hc hparent => exists_siblings_arena hd hc hparent

theorem firstChild?_arena (hd : d.IsNumbered) (hc : c ∈ d.cursors) :
    d.arena.firstChild? c.entry = c.firstChild?.map Cursor.entry := by
  have hfirst : c.firstChild? = c.children[0]? := by
    rw [Cursor.firstChild?, Cursor.children]
    split
    next h => rw [h]; rfl
    next n ns h => rw [h]; rfl
  rw [Arena.firstChild?, hfirst, ← getElem?_children_bind_entry? hd hc, List.head?_eq_getElem?]

theorem map_id_children_arena (hd : d.IsNumbered) (hp : p ∈ d.cursors) :
    (d.arena.children p.entry).map Arena.Entry.id = p.node.children.map Node.id :=
  (isLinked_arena hd).map_id_children p.entry (entry?_arena hd hp)

theorem exists_eq_succ_of_nodeCount_le {rounds : Nat} (h : d.arena.nodeCount ≤ rounds) :
    ∃ n, rounds = n + 1 := by
  have hpos := List.length_pos_of_mem d.top_mem_cursors
  rw [nodeCount_arena, ← length_cursors] at h
  exact Nat.exists_eq_add_one_of_ne_zero (Nat.ne_zero_of_lt (Nat.lt_of_lt_of_le hpos h))

/-- The links of the arena are the steps that a cursor can take. -/
theorem follows_arena (hd : d.IsNumbered) (hc : c ∈ d.cursors) : d.arena.Follows c := by
  rcases eq_top_or_exists_getElem?_children hc with rfl | ⟨p, hp, i, hi⟩
  · refine ⟨entry?_arena hd hc, rfl, firstChild?_arena hd hc, children_arena hd hc, rfl, rfl,
      ?_, ?_⟩
    · intro rounds hrounds
      obtain ⟨rounds, rfl⟩ := exists_eq_succ_of_nodeCount_le hrounds
      rw [Arena.backward, successors, previous?_top_arena]
      rfl
    · intro rounds hrounds
      obtain ⟨rounds, rfl⟩ := exists_eq_succ_of_nodeCount_le hrounds
      rw [Arena.forward, successors, next?_top_arena]
      rfl
  · have hcp := List.mem_of_getElem? hi
    refine ⟨entry?_arena hd hc, ?_, firstChild?_arena hd hc, children_arena hd hc, ?_, ?_, ?_, ?_⟩
    · rw [parent?_arena hd hp hcp, Cursor.parent?_of_mem_children hcp]
      rfl
    · rw [previous?_arena hd hp hi, Cursor.previous?_of_getElem?_children hi]
      split <;> rfl
    · rw [next?_arena hd hp hi, Cursor.next?_of_getElem?_children hi]
    · intro rounds hrounds
      rw [nodeCount_arena] at hrounds
      rw [backward_arena hd hp hi hrounds, Cursor.backward_of_getElem?_children hi, Option.map_some,
        List.map_reverse, List.map_take, map_id_children_arena hd hp, List.map_reverse,
        List.map_take]
    · intro rounds hrounds
      rw [nodeCount_arena] at hrounds
      rw [forward_arena hd hp hi hrounds, Cursor.forward_of_getElem?_children hi, Option.map_some,
        List.map_drop, map_id_children_arena hd hp, List.map_drop]

/-- Going on along the links of the arena is going on from cursor to cursor. -/
theorem forward_arena_eq_onward (hd : d.IsNumbered) (hc : c ∈ d.cursors) {rounds : Nat}
    (hrounds : d.nodeCount ≤ rounds) :
    d.arena.forward rounds c.entry = some (c.onward.map Cursor.entry) := by
  rcases eq_top_or_exists_getElem?_children hc with rfl | ⟨p, hp, i, hi⟩
  · rw [← nodeCount_arena] at hrounds
    obtain ⟨rounds, rfl⟩ := exists_eq_succ_of_nodeCount_le hrounds
    rw [Arena.forward, successors, next?_top_arena]
    rfl
  · rw [forward_arena hd hp hi hrounds, children_arena hd hp, Cursor.onward_of_getElem?_children hi,
      List.map_drop]

/-- Whatever steps are tried, with failures among them: if no node is left open and the numbers have
32 bits, the records pushed make a coherent arena, and its links are those of the tree. -/
theorem isLinked_arena_of_attempts (source : Source) (path : Option Path) (fileKind : FileKind)
    (ss : List BuildStep) {d : Document}
    (hd : ((Builder.start source path fileKind).attempts ss).2.finish = .ok d)
    (hcount : d.nodeCount < UInt32.size) :
    ((ArenaBuilder.start source path fileKind).attempts ss).2.finish = .ok d.arena ∧
      d.arena.nodeCount = d.nodeCount ∧ d.arena.IsLinked ∧
        ∀ c ∈ d.cursors, d.arena.Follows c := by
  have hnumbered := (Builder.isNumbered_start source path fileKind).attempts ss
  obtain ⟨hnumbered, -⟩ := isNumbered_of_finish hnumbered hd
  obtain ⟨-, hfinish⟩ := attempts_arena source path fileKind ss hd (Nat.le_of_lt hcount)
  exact ⟨hfinish, d.nodeCount_arena, isLinked_arena hnumbered,
    fun c hc => follows_arena hnumbered hc⟩

/-- What `nestedSteps` build over a text of four characters. -/
def nestedDocument : Document where
  source := .ofChars ['é', '\n', 'a', 'b']
  path := none
  fileKind := .suite
  topLevel :=
    [.mk 1 .line ⟨0, 2⟩ [.token 2 .leaf ⟨0, 2⟩, .mk 3 .other ⟨2, 2⟩ [.token 4 .leaf ⟨2, 2⟩]],
      .token 5 .newLine ⟨2, 3⟩, .token 6 .leaf ⟨3, 4⟩]

theorem isLinked_arena_of_attempts_nestedSteps :
    ((Builder.start (.ofChars ['é', '\n', 'a', 'b']) none .suite).attempts nestedSteps).2.finish =
        .ok nestedDocument ∧
      nestedDocument.nodeCount = 7 ∧ 7 < UInt32.size ∧
      nestedDocument.arena.records.map NodeRecord.children =
        [[1, 5, 6], [2, 3], [], [4], [], [], []] ∧
      (nestedDocument.arena.descendants 7).map (·.map Arena.Entry.id) =
        some [0, 1, 2, 3, 4, 5, 6] ∧
      nestedDocument.arena.IsLinked := by
  have hd : ((Builder.start (.ofChars ['é', '\n', 'a', 'b']) none .suite).attempts
      nestedSteps).2.finish = .ok nestedDocument := rfl
  have hcount : nestedDocument.nodeCount = 7 := rfl
  have hlt : 7 < UInt32.size := by decide
  obtain ⟨-, hnodes, hlinked, -⟩ :=
    isLinked_arena_of_attempts (.ofChars ['é', '\n', 'a', 'b']) none .suite nestedSteps hd hlt
  have hids := hlinked.map_id_descendants 7
  rw [hnodes, hcount] at hids
  exact ⟨hd, hcount, hlt, rfl, hids (Nat.le_refl 7), hlinked⟩

end Document

end RunMarkers
