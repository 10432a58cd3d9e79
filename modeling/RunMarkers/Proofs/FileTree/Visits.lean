import Mathlib.Data.List.Infix
import RunMarkers.Proofs.FileTree.Leads

/-!
# The places that a path visits

In a tree without links it can be seen from the pieces of a path alone where they lead, and where
every row of first pieces leads: a name goes down, two dots go up. A walk can go down and come back
up, so it may visit places that are not above its end; but it visits every place that is above its
end (`exists_visit`). So a search along the walk, backwards from its end, may differ from a search
straight up, but only by finding something beside the way up (`findSome?_visited_iff`).
-/

namespace RunMarkers

namespace Path

/-- Where a piece leads from a place. -/
def turn (place : List String) (piece : List Char) : List String :=
  if piece = ['.', '.'] then place.dropLast else place ++ [String.ofList piece]

/-- Where pieces lead from the root. -/
def resolved (pieces : List (List Char)) : List String := pieces.foldl turn []

variable {place dir : List String} {pieces : List (List Char)}

/-- Without two dots the pieces are the names of the place. -/
theorem foldl_turn (hdots : ∀ piece ∈ pieces, piece ≠ ['.', '.']) :
    pieces.foldl turn place = place ++ pieces.map String.ofList := by
  induction pieces generalizing place with
  | nil => exact (List.append_nil place).symm
  | cons piece pieces ih =>
      rw [List.foldl_cons, turn, if_neg (hdots piece List.mem_cons_self),
        ih fun later hlater => hdots later (List.mem_cons_of_mem piece hlater)]
      simp

/-- A walk that comes to or below a place, and started elsewhere, visits the place itself. -/
theorem exists_visit (hstart : ¬ dir <+: place) (hend : dir <+: pieces.foldl turn place) :
    ∃ front, front <+: pieces ∧ front ≠ [] ∧ front.foldl turn place = dir := by
  induction pieces generalizing place with
  | nil => exact absurd hend hstart
  | cons piece pieces ih =>
      by_cases hnext : dir <+: turn place piece
      · -- only a step down can come below the place, and then it comes exactly there
        refine ⟨[piece], List.prefix_append [piece] pieces, List.cons_ne_nil _ _, ?_⟩
        change turn place piece = dir
        rw [turn] at hnext ⊢
        split at hnext
        next => exact absurd (hnext.trans (List.dropLast_prefix place)) hstart
        next hdots =>
          rw [if_neg hdots]
          rcases List.prefix_concat_iff.1 hnext with heq | hprefix
          · exact heq.symm
          · exact absurd hprefix hstart
      · obtain ⟨front, hfront, -, hvisit⟩ := ih hnext hend
        exact ⟨piece :: front, List.cons_prefix_cons.2 ⟨rfl, hfront⟩, List.cons_ne_nil _ _, hvisit⟩

end Path

namespace FileTree

open RunMarkers.Path (turn resolved isIdle)

variable {t : FileTree} {place reached : List String} {pieces : List (List Char)}

theorem Leads.eq_foldl_turn (h : t.Leads place pieces reached) :
    (pieces.filter fun piece => !isIdle piece).foldl turn place = reached := by
  induction h with
  | done _ => rfl
  | stay _ hpiece _ ih => rwa [List.filter_cons_of_neg (by simp [hpiece])]
  | up _ _ ih =>
      rw [List.filter_cons_of_pos (by decide), List.foldl_cons, turn, if_pos rfl]
      exact ih
  | down hpiece hdots _ _ _ ih =>
      rw [List.filter_cons_of_pos (by simp [hpiece]), List.foldl_cons, turn, if_neg hdots]
      exact ih

end FileTree

section Search

variable {α β : Type} {f : List α → Option β}

theorem findSome?_inits_concat (l : List α) (a : α) :
    (l ++ [a]).inits.reverse.findSome? f =
      (f (l ++ [a])).or (l.inits.reverse.findSome? f) := by
  have hinits : (l ++ [a]).inits = l.inits ++ [l ++ [a]] := by simp [List.inits_append]
  rw [hinits, List.reverse_concat, List.findSome?_cons]
  cases f (l ++ [a]) <;> rfl

theorem findSome?_inits_eq_none_iff {l : List α} :
    l.inits.reverse.findSome? f = none ↔ ∀ front, front <+: l → f front = none := by
  rw [List.findSome?_eq_none_iff]
  refine forall_congr' fun front => ?_
  rw [List.mem_reverse, List.mem_inits]

/-- The search among the beginnings of a list finds what the longest of them gives. -/
theorem findSome?_inits_eq_some_iff {l : List α} {b : β} :
    l.inits.reverse.findSome? f = some b ↔ ∃ front back, l = front ++ back ∧ f front = some b ∧
      ∀ mid, mid <+: back → mid ≠ [] → f (front ++ mid) = none := by
  induction l using List.reverseRecOn with
  | nil =>
      have hsearch : ([] : List α).inits.reverse.findSome? f = f [] := by
        rw [List.inits, List.reverse_singleton, List.findSome?_cons]
        cases f [] <;> rfl
      rw [hsearch]
      constructor
      · intro hb
        exact ⟨[], [], rfl, hb, fun mid hmid hne => absurd (List.prefix_nil.1 hmid) hne⟩
      · rintro ⟨front, back, hsplit, hb, -⟩
        rwa [(List.append_eq_nil_iff.1 hsplit.symm).1] at hb
  | append_singleton l a ih =>
      rw [findSome?_inits_concat]
      constructor
      · intro hb
        cases hwhole : f (l ++ [a]) with
        | some c =>
            rw [hwhole, Option.some_or] at hb
            refine ⟨l ++ [a], [], (List.append_nil _).symm, hwhole.trans hb, ?_⟩
            exact fun mid hmid hne => absurd (List.prefix_nil.1 hmid) hne
        | none =>
            rw [hwhole, Option.none_or] at hb
            obtain ⟨front, back, rfl, hfront, hlonger⟩ := ih.1 hb
            refine ⟨front, back ++ [a], List.append_assoc _ _ _, hfront, ?_⟩
            intro mid hmid hne
            rcases List.prefix_concat_iff.1 hmid with rfl | hmid
            · rwa [← List.append_assoc]
            · exact hlonger mid hmid hne
      · rintro ⟨front, back, hsplit, hfront, hlonger⟩
        rcases List.eq_nil_or_concat back with rfl | ⟨rest, last, rfl⟩
        · rw [hsplit, List.append_nil, hfront]
          rfl
        · rw [List.concat_eq_append] at hsplit hlonger
          have hwhole := hlonger _ List.prefix_rfl (by simp)
          rw [← hsplit] at hwhole
          rw [hwhole, Option.none_or]
          rw [← List.append_assoc] at hsplit
          refine ih.2 ⟨front, rest, (List.append_inj' hsplit rfl).1, hfront, ?_⟩
          intro mid hmid hne
          exact hlonger mid (hmid.trans (List.prefix_append rest [last])) hne

end Search

namespace Path

variable {front back pieces : List (List Char)} {look : List String → Option (List String)}

theorem resolved_append : resolved (front ++ back) = back.foldl turn (resolved front) :=
  List.foldl_append

/-- A walk cannot leave out a place that is above its end, or the end itself. -/
theorem exists_resolved_eq {dir : List String} (hstart : ¬ dir <+: resolved front)
    (hend : dir <+: resolved (front ++ back)) :
    ∃ mid, mid <+: back ∧ mid ≠ [] ∧ resolved (front ++ mid) = dir := by
  rw [resolved_append] at hend
  obtain ⟨mid, hmid, hne, hvisit⟩ := exists_visit hstart hend
  exact ⟨mid, hmid, hne, resolved_append.trans hvisit⟩

/-- A search along a walk and a search straight up from its end find the same, unless the first
finds something beside the way up. What is found is named by the place it stands in. -/
theorem findSome?_visited_iff (hlook : ∀ dir file, look dir = some file → file.dropLast = dir) :
    (pieces.inits.reverse.findSome? fun front => look (resolved front)) =
        (resolved pieces).inits.reverse.findSome? look ↔
      ∀ file, (pieces.inits.reverse.findSome? fun front => look (resolved front)) = some file →
        file.dropLast <+: resolved pieces := by
  constructor
  · intro heq file hfile
    rw [heq] at hfile
    obtain ⟨dir, rest, hsplit, hdir, -⟩ := findSome?_inits_eq_some_iff.1 hfile
    rw [hlook dir file hdir, hsplit]
    exact List.prefix_append dir rest
  · intro habove
    cases hfound : pieces.inits.reverse.findSome? fun front => look (resolved front) with
    | none =>
        have hnone := findSome?_inits_eq_none_iff.1 hfound
        refine (findSome?_inits_eq_none_iff.2 fun dir hdir => ?_).symm
        by_cases hroot : dir = []
        · subst hroot
          exact hnone [] List.nil_prefix
        · have hstart : ¬ dir <+: resolved [] := fun h => hroot (List.prefix_nil.1 h)
          obtain ⟨front, hfront, -, rfl⟩ := exists_resolved_eq hstart hdir
          exact hnone front hfront
    | some file =>
        obtain ⟨front, back, rfl, hdir, hlater⟩ := findSome?_inits_eq_some_iff.1 hfound
        obtain ⟨rest, hrest⟩ := habove file hfound
        rw [hlook _ file hdir] at hrest
        refine (findSome?_inits_eq_some_iff.2 ⟨_, rest, hrest.symm, hdir, ?_⟩).symm
        intro mid hmid hne
        have hstart : ¬ resolved front ++ mid <+: resolved front := by
          intro h
          have hlength := h.length_le
          rw [List.length_append] at hlength
          exact hne (List.length_eq_zero_iff.1 (by omega))
        have hend : resolved front ++ mid <+: resolved (front ++ back) := by
          rw [← hrest]
          exact (List.prefix_append_right_inj _).2 hmid
        obtain ⟨more, hmore, hmoreNe, hvisit⟩ := exists_resolved_eq hstart hend
        rw [← hvisit]
        exact hlater more hmore hmoreNe

end Path

end RunMarkers
