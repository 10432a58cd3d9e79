import Mathlib.Data.List.Nodup

/-!
# Lists told apart by a key

The fields of a record and the entries of a directory have names that tell them apart. A search for
a name finds the one element that has it.
-/

namespace RunMarkers

theorem find?_key_eq_some_iff {α κ : Type} [BEq κ] [LawfulBEq κ] {key : α → κ} {l : List α}
    (hl : (l.map key).Nodup) {k : κ} {a : α} :
    l.find? (fun x => key x == k) = some a ↔ a ∈ l ∧ key a = k := by
  constructor
  · intro h
    have hkey : (key a == k) = true := List.find?_some (p := fun x => key x == k) h
    exact ⟨List.mem_of_find?_eq_some h, eq_of_beq hkey⟩
  · rintro ⟨ha, rfl⟩
    obtain ⟨b, hb⟩ := Option.isSome_iff_exists.1
      (List.find?_isSome.2 ⟨a, ha, beq_self_eq_true (key a)⟩ :
        (l.find? fun x => key x == key a).isSome)
    have hkey : (key b == key a) = true := List.find?_some (p := fun x => key x == key a) hb
    rw [hb, List.inj_on_of_nodup_map hl (List.mem_of_find?_eq_some hb) ha (eq_of_beq hkey)]

end RunMarkers
