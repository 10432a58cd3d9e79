/-!
# The first of a falling list

Going through a list whose keys fall, the first element that satisfies a predicate is the one with
the greatest key among all that satisfy it.
-/

namespace RunMarkers

/-- The element of a list with the greatest key among those that satisfy the predicate. -/
def IsGreatestBy {α : Type} (key : α → Nat) (l : List α) (p : α → Bool) (x : α) : Prop :=
  (x ∈ l ∧ p x = true) ∧ ∀ y ∈ l, p y = true → key y ≤ key x

theorem find?_eq_some_iff_isGreatestBy {α : Type} {key : α → Nat} {l : List α}
    (hl : l.Pairwise fun x y => key y < key x) (p : α → Bool) (x : α) :
    l.find? p = some x ↔ IsGreatestBy key l p x := by
  induction l with
  | nil =>
      constructor
      · intro hx
        cases hx
      · intro hx
        exact absurd hx.1.1 List.not_mem_nil
  | cons first later ih =>
      obtain ⟨hfirst, hlater⟩ := List.pairwise_cons.1 hl
      by_cases hp : p first = true
      · rw [List.find?_cons_of_pos hp]
        constructor
        · intro hx
          obtain rfl := Option.some.inj hx
          refine ⟨⟨List.mem_cons_self, hp⟩, ?_⟩
          intro y hy _
          rcases List.mem_cons.1 hy with rfl | hy
          · exact Nat.le_refl _
          · exact Nat.le_of_lt (hfirst y hy)
        · intro hx
          rcases List.mem_cons.1 hx.1.1 with rfl | hmem
          · rfl
          · exact absurd (hx.2 first List.mem_cons_self hp) (Nat.not_le_of_lt (hfirst x hmem))
      · rw [List.find?_cons_of_neg hp, ih hlater]
        constructor
        · intro hx
          refine ⟨⟨List.mem_cons_of_mem first hx.1.1, hx.1.2⟩, ?_⟩
          intro y hy hpy
          rcases List.mem_cons.1 hy with rfl | hy
          · exact absurd hpy hp
          · exact hx.2 y hy hpy
        · intro hx
          refine ⟨⟨?_, hx.1.2⟩, fun y hy => hx.2 y (List.mem_cons_of_mem first hy)⟩
          rcases List.mem_cons.1 hx.1.1 with rfl | hmem
          · exact absurd hx.1.2 hp
          · exact hmem

end RunMarkers
