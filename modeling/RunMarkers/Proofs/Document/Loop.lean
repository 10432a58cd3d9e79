import Mathlib.Data.List.Chain
import RunMarkers.Proofs.Document.Links

/-!
# Arenas with more nodes than numbers

There are 2 ^ 32 numbers. The node that is begun after them has the number of the root, and the
innermost open node, which stands below the root, gets it as a child. From there on the links to the
children lead from the root back to the root (`Arena.IsEndless`), since no step takes a link away.
So a walk over such an arena never ends, whatever the number of rounds
(`Arena.IsEndless.descendants_eq_none`).
-/

namespace RunMarkers

namespace NodeRecord

/-- A record is kept at a number, and has another number among its children. -/
def Leads (rs : List NodeRecord) (p c : Nat) : Prop := ∃ r, rs[p]? = some r ∧ c ∈ r.children

/-- From the root, children lead to children without an end. -/
def Endless (rs : List NodeRecord) : Prop :=
  ∃ ids : List Nat, 0 ∈ ids ∧ ∀ id ∈ ids, ∃ child ∈ ids, Leads rs id child

variable {rs : List NodeRecord} {p c q : Nat}

theorem Leads.append (h : Leads rs p c) (more : List NodeRecord) : Leads (rs ++ more) p c := by
  obtain ⟨r, hr, hc⟩ := h
  refine ⟨r, ?_, hc⟩
  rw [List.getElem?_append_left (List.getElem?_eq_some_iff.1 hr).1, hr]

theorem Leads.modify (h : Leads rs p c) {f : NodeRecord → NodeRecord}
    (hf : ∀ r : NodeRecord, ∀ x ∈ r.children, x ∈ (f r).children) : Leads (rs.modify q f) p c := by
  obtain ⟨r, hr, hc⟩ := h
  by_cases hq : q = p
  · refine ⟨f r, ?_, hf r c hc⟩
    rw [hq, List.getElem?_modify_eq, hr]
    rfl
  · refine ⟨r, ?_, hc⟩
    rw [List.getElem?_modify_ne _ _ hq, hr]

theorem leads_addChild (hp : p < rs.length) : Leads (rs.modify p (·.addChild c)) p c := by
  refine ⟨rs[p].addChild c, ?_, ?_⟩
  · rw [List.getElem?_modify_eq, List.getElem?_eq_getElem hp]
    rfl
  · exact List.mem_append_right _ (List.mem_singleton_self c)

theorem mem_children_addChild (r : NodeRecord) : ∀ x ∈ r.children, x ∈ (r.addChild c).children :=
  fun _ hx => List.mem_append_left _ hx

theorem mem_children_endAt (stop : Nat) (r : NodeRecord) :
    ∀ x ∈ r.children, x ∈ (r.endAt stop).children := fun _ hx => hx

theorem Endless.of_leads {rs' : List NodeRecord} (h : Endless rs)
    (hkeep : ∀ p c, Leads rs p c → Leads rs' p c) : Endless rs' := by
  obtain ⟨ids, hroot, hids⟩ := h
  refine ⟨ids, hroot, ?_⟩
  intro id hid
  obtain ⟨child, hchild, hleads⟩ := hids id hid
  exact ⟨child, hchild, hkeep id child hleads⟩

/-- On a way up each number but the first has the one before as a child. -/
theorem exists_leads_of_mem {outer : List Nat}
    (hchain : (p :: outer).IsChain fun inner outer => Leads rs outer inner) {id : Nat}
    (hid : id ∈ outer) : ∃ inner ∈ p :: outer, Leads rs id inner := by
  induction outer generalizing p with
  | nil => exact absurd hid List.not_mem_nil
  | cons q outer ih =>
      rw [List.isChain_cons_cons] at hchain
      rcases List.mem_cons.1 hid with rfl | hid
      · exact ⟨p, List.mem_cons_self, hchain.1⟩
      · obtain ⟨inner, hinner, hleads⟩ := ih hchain.2 hid
        exact ⟨inner, List.mem_cons_of_mem p hinner, hleads⟩

/-- A way up to the root is closed by the root as a child of where the way starts. -/
theorem Endless.of_isChain {outer : List Nat} (hroot : 0 ∈ p :: outer)
    (hchain : (p :: outer).IsChain fun inner outer => Leads rs outer inner)
    (hclosed : Leads rs p 0) : Endless rs := by
  refine ⟨p :: outer, hroot, ?_⟩
  intro id hid
  rcases List.mem_cons.1 hid with rfl | hid
  · exact ⟨0, hroot, hclosed⟩
  · exact exists_leads_of_mem hchain hid

end NodeRecord

namespace ArenaBuilder

open NodeRecord

/-- The open nodes are a way up to the root, each a child of the one that it was opened in, and
more nodes than there are numbers have closed a loop. -/
structure IsNested (b : ArenaBuilder) : Prop where
  isChain : b.opened.IsChain fun inner outer => Leads b.records outer inner
  getLast? : b.opened.getLast? = some 0
  lt_length : ∀ id ∈ b.opened, id < b.records.length
  endless : UInt32.size < b.records.length → Endless b.records

variable {b : ArenaBuilder}

theorem isNested_start (source : Source) (path : Option Path) (fileKind : FileKind) :
    (start source path fileKind).IsNested where
  isChain := List.isChain_singleton 0
  getLast? := rfl
  lt_length := fun _ hid => List.mem_singleton.1 hid ▸ Nat.zero_lt_one
  endless := by
    intro hlt
    change UInt32.size < 1 at hlt
    exact absurd hlt (by decide)

theorem IsNested.exists_opened_eq_cons (hb : b.IsNested) : ∃ p outer, b.opened = p :: outer := by
  have hlast := hb.getLast?
  cases hopened : b.opened with
  | nil => rw [hopened] at hlast; cases hlast
  | cons p outer => exact ⟨p, outer, rfl⟩

theorem IsNested.root_mem_opened (hb : b.IsNested) : 0 ∈ b.opened :=
  List.mem_of_getLast? hb.getLast?

theorem push_eq_of_cons {p : Nat} {outer : List Nat} (hopened : b.opened = p :: outer)
    (kind : NodeKind) (span : Span) :
    ∃ r, b.push kind span =
      (b.records.length % UInt32.size, { b with
        records := b.records.modify p (·.addChild (b.records.length % UInt32.size)) ++ [r] }) := by
  refine ⟨⟨kind, span, some p, (b.records[p]?).elim 0 fun r => r.children.length, []⟩, ?_⟩
  rw [push, hopened]

theorem leads_push {p c : Nat} (h : Leads b.records p c) (kind : NodeKind) (span : Span) :
    Leads (b.push kind span).2.records p c := by
  rw [push]
  split
  next => exact h.append _
  next => exact (h.modify mem_children_addChild).append _

/-- A record pushed is a child of the innermost open node. The first one for which there is no
number of its own makes the root a child of that node. -/
theorem IsNested.push (hb : b.IsNested) (kind : NodeKind) (span : Span) :
    (b.push kind span).2.IsNested ∧ (b.push kind span).1 < (b.push kind span).2.records.length ∧
      ∀ p ∈ b.opened.head?, Leads (b.push kind span).2.records p (b.push kind span).1 := by
  obtain ⟨p, outer, hopened⟩ := hb.exists_opened_eq_cons
  have hp : p < b.records.length := hb.lt_length p (hopened ▸ List.mem_cons_self)
  have hkeep : ∀ q c, Leads b.records q c → Leads (b.push kind span).2.records q c :=
    fun q c h => leads_push h kind span
  have hlength := length_records_push b kind span
  have hnew : Leads (b.push kind span).2.records p (b.records.length % UInt32.size) := by
    obtain ⟨r, hpush⟩ := push_eq_of_cons hopened kind span
    rw [hpush]
    exact (leads_addChild hp).append [r]
  have hid : (b.push kind span).1 = b.records.length % UInt32.size := by
    obtain ⟨r, hpush⟩ := push_eq_of_cons hopened kind span
    rw [hpush]
  have hchain : (b.push kind span).2.opened.IsChain fun inner outer =>
      Leads (b.push kind span).2.records outer inner := by
    rw [opened_push]
    exact hb.isChain.imp fun inner outer h => hkeep outer inner h
  refine ⟨⟨hchain, ?_, ?_, ?_⟩, ?_, ?_⟩
  · rw [opened_push, hb.getLast?]
  · intro id hmem
    rw [opened_push] at hmem
    rw [hlength]
    exact Nat.lt_succ_of_lt (hb.lt_length id hmem)
  · intro hlt
    rw [hlength] at hlt
    rcases Nat.lt_or_eq_of_le (Nat.le_of_lt_succ hlt) with hlt | heq
    · exact (hb.endless hlt).of_leads hkeep
    · -- the new number is that of the root, and the open nodes are a way from there
      rw [← heq, Nat.mod_self] at hnew
      rw [opened_push, hopened] at hchain
      exact .of_isChain (hopened ▸ hb.root_mem_opened) hchain hnew
  · rw [hid, hlength]
    exact Nat.lt_succ_of_le (Nat.mod_le _ _)
  · intro q hq
    rw [hopened] at hq
    rw [hid, ← Option.mem_some.1 hq]
    exact hnew

theorem IsNested.enter (hb : b.IsNested) (kind : NodeKind) : (b.enter kind).2.IsNested := by
  obtain ⟨hpush, hlt, hleads⟩ := hb.push kind ⟨b.cursor, b.cursor⟩
  obtain ⟨p, outer, hopened⟩ := hb.exists_opened_eq_cons
  have hopened' := (opened_push b kind ⟨b.cursor, b.cursor⟩).trans hopened
  refine ⟨?_, ?_, ?_, hpush.endless⟩
  · have hchain := hpush.isChain
    change List.IsChain _ ((b.push kind _).1 :: (b.push kind _).2.opened)
    rw [hopened'] at hchain ⊢
    exact List.isChain_cons_cons.2 ⟨hleads p (by rw [hopened]; rfl), hchain⟩
  · have hlast := hpush.getLast?
    change ((b.push kind _).1 :: (b.push kind _).2.opened).getLast? = some 0
    rw [hopened'] at hlast ⊢
    rw [List.getLast?_cons_cons, hlast]
  · intro id hid
    rcases List.mem_cons.1 hid with rfl | hid
    · exact hlt
    · exact hpush.lt_length id hid

theorem IsNested.token {after : ArenaBuilder} {kind : NodeKind} {length id : Nat}
    (hb : b.IsNested) (h : b.token kind length = .ok (id, after)) : after.IsNested := by
  rw [ArenaBuilder.token] at h
  split at h
  next => cases h
  next =>
      split at h
      next =>
          obtain ⟨hpush, -⟩ := hb.push kind ⟨b.cursor, b.cursor + length⟩
          cases h
          exact ⟨hpush.isChain, hpush.getLast?, hpush.lt_length, hpush.endless⟩
      next => cases h

theorem IsNested.leave {after : ArenaBuilder} (hb : b.IsNested) (h : b.leave = .ok after) :
    after.IsNested := by
  rw [ArenaBuilder.leave] at h
  split at h
  next id p outer hopened =>
      have hkeep : ∀ q c, Leads b.records q c →
          Leads (b.records.modify id (·.endAt b.cursor)) q c :=
        fun q c h => h.modify (mem_children_endAt b.cursor)
      have hchain := hb.isChain
      have hlast := hb.getLast?
      rw [hopened, List.isChain_cons_cons] at hchain
      rw [hopened, List.getLast?_cons_cons] at hlast
      cases h
      refine ⟨hchain.2.imp fun inner outer h => hkeep outer inner h, hlast, ?_, ?_⟩
      · intro q hq
        rw [List.length_modify]
        exact hb.lt_length q (hopened ▸ List.mem_cons_of_mem id hq)
      · rw [List.length_modify]
        exact fun hlt => (hb.endless hlt).of_leads hkeep
  next => cases h

theorem IsNested.step {after : ArenaBuilder} {s : BuildStep} {begun : Option Nat}
    (hb : b.IsNested) (h : b.step s = .ok (begun, after)) : after.IsNested := by
  cases s with
  | enter kind =>
      cases h
      exact hb.enter kind
  | token kind length =>
      obtain ⟨⟨id, b'⟩, htoken, hafter⟩ := map_eq_ok_iff.1 h
      obtain rfl : b' = after := congrArg Prod.snd hafter
      exact hb.token htoken
  | leave =>
      obtain ⟨b', hleave, hafter⟩ := map_eq_ok_iff.1 h
      obtain rfl : b' = after := congrArg Prod.snd hafter
      exact hb.leave hleave

theorem IsNested.attempts (hb : b.IsNested) (ss : List BuildStep) : (b.attempts ss).2.IsNested := by
  induction ss generalizing b with
  | nil => exact hb
  | cons s ss ih =>
      rw [ArenaBuilder.attempts, attempt]
      cases hs : b.step s with
      | error e => exact ih hb
      | ok next => exact ih (hb.step hs)

end ArenaBuilder

namespace Arena

open NodeRecord

/-- From the root, the links to the children lead on without an end. -/
def IsEndless (a : Arena) : Prop := Endless a.records

variable {a : Arena}

/-- With more nodes than numbers, whatever steps were tried, the way down from the root has no
end. -/
theorem isEndless_of_attempts {source : Source} {path : Option Path} {fileKind : FileKind}
    {ss : List BuildStep}
    (ha : ((ArenaBuilder.start source path fileKind).attempts ss).2.finish = .ok a)
    (hcount : UInt32.size < a.nodeCount) : a.IsEndless := by
  have hnested := (ArenaBuilder.isNested_start source path fileKind).attempts ss
  obtain ⟨-, rfl⟩ := ArenaBuilder.finish_eq_ok_iff.1 ha
  rw [nodeCount, List.length_modify] at hcount
  exact (hnested.endless hcount).of_leads fun p c h => h.modify (mem_children_endAt _)

theorem exists_mem_children_of_leads {e : Entry} {c : Nat} {r : NodeRecord}
    (he : a.IsNode e) (hleads : Leads a.records e.id c) (hr : a.records[c]? = some r) :
    ⟨c, r⟩ ∈ a.children e := by
  obtain ⟨s, hs, hc⟩ := hleads
  rw [IsNode, Arena.entry?, hs, Option.map_some, Option.some.injEq] at he
  refine List.mem_filterMap.2 ⟨c, ?_, by rw [Arena.entry?, hr]; rfl⟩
  rw [← he]
  exact hc

/-- On an endless way every node has a child that is on the way as well. -/
theorem IsEndless.exists_onward (ha : a.IsEndless) :
    ∃ onward : Entry → Prop, (∀ e ∈ a.entry? 0, onward e) ∧ (a.entry? 0).isSome = true ∧
      ∀ e, onward e → ∃ child ∈ a.children e, onward child := by
  obtain ⟨ids, hroot, hids⟩ := ha
  have hentry : ∀ id ∈ ids, ∃ r, a.records[id]? = some r := by
    intro id hid
    obtain ⟨child, -, r, hr, -⟩ := hids id hid
    exact ⟨r, hr⟩
  refine ⟨fun e => a.IsNode e ∧ e.id ∈ ids, ?_, ?_, ?_⟩
  · intro e he
    obtain ⟨r, -, rfl⟩ := Option.map_eq_some_iff.1 he
    exact ⟨he, hroot⟩
  · obtain ⟨r, hr⟩ := hentry 0 hroot
    rw [Arena.entry?, hr]
    rfl
  · rintro e ⟨he, hid⟩
    obtain ⟨child, hchild, hleads⟩ := hids e.id hid
    obtain ⟨r, hr⟩ := hentry child hchild
    have hnode : a.IsNode ⟨child, r⟩ := by
      rw [IsNode, Arena.entry?, hr]
      rfl
    exact ⟨⟨child, r⟩, exists_mem_children_of_leads he hleads hr, hnode, hchild⟩

/-- A walk with a node on an endless way in its stack does not end. -/
theorem walk_eq_none {onward : Entry → Prop}
    (honward : ∀ e, onward e → ∃ child ∈ a.children e, onward child) {rounds : Nat}
    {stack : List Entry} {e : Entry} (he : e ∈ stack) (hon : onward e) :
    a.walk rounds stack = none := by
  induction rounds generalizing stack e with
  | zero =>
      cases stack with
      | nil => exact absurd he List.not_mem_nil
      | cons top rest => rw [walk]
  | succ rounds ih =>
      cases stack with
      | nil => exact absurd he List.not_mem_nil
      | cons top rest =>
          rw [walk, Option.map_eq_none_iff]
          -- the node on the way stays in the stack, or gives way to its child on the way
          rcases List.mem_cons.1 he with rfl | he
          · obtain ⟨child, hchild, hon⟩ := honward e hon
            exact ih (List.mem_append_left rest hchild) hon
          · exact ih (List.mem_append_right _ he) hon

theorem IsEndless.descendants_eq_none (ha : a.IsEndless) (rounds : Nat) :
    a.descendants rounds = none := by
  obtain ⟨onward, hroot, hsome, honward⟩ := ha.exists_onward
  obtain ⟨root, hentry⟩ := Option.isSome_iff_exists.1 hsome
  rw [descendants, hentry, Option.bind_some]
  exact walk_eq_none honward (List.mem_singleton_self root) (hroot root hentry)

end Arena

end RunMarkers
