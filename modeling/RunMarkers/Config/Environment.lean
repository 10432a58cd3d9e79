/-!
# Environments

The environment variables that a configuration sets: texts under names, in the order of the names. A
name holds one text, the one given last.
-/

namespace RunMarkers

/-- Variables in the order of their names. -/
structure Environment where
  entries : List (String × String)
  sorted : entries.Pairwise fun a b => a.1 < b.1

namespace Environment

instance : DecidableEq Environment := fun a b =>
  if h : a.entries = b.entries then
    isTrue (by cases a; cases b; simp only at h; subst h; rfl)
  else isFalse fun e => h (e ▸ rfl)

/-- No variables. -/
def empty : Environment := ⟨[], .nil⟩

instance : EmptyCollection Environment := ⟨empty⟩

/-- Puts a variable in its place in a sorted list. -/
def insertEntry (name value : String) : List (String × String) → List (String × String)
  | [] => [(name, value)]
  | e :: es =>
    if name < e.1 then (name, value) :: e :: es
    else if name = e.1 then (name, value) :: es
    else e :: insertEntry name value es

theorem mem_insertEntry {name value : String} {a : String × String}
    {es : List (String × String)} (h : a ∈ insertEntry name value es) :
    a = (name, value) ∨ a ∈ es := by
  induction es with
  | nil => simpa [insertEntry] using h
  | cons e es ih =>
    rw [insertEntry] at h
    split at h
    · simpa using h
    · split at h
      · rcases List.mem_cons.1 h with h | h
        · exact .inl h
        · exact .inr (List.mem_cons_of_mem _ h)
      · rcases List.mem_cons.1 h with h | h
        · exact .inr (h ▸ List.mem_cons_self)
        · exact (ih h).imp_right (List.mem_cons_of_mem _)

theorem pairwise_insertEntry {name value : String} {es : List (String × String)}
    (h : es.Pairwise fun a b => a.1 < b.1) :
    (insertEntry name value es).Pairwise fun a b => a.1 < b.1 := by
  induction es with
  | nil => simp [insertEntry]
  | cons e es ih =>
    obtain ⟨he, hes⟩ := List.pairwise_cons.1 h
    rw [insertEntry]
    split
    next hlt =>
      refine List.pairwise_cons.2 ⟨?_, h⟩
      intro a ha
      rcases List.mem_cons.1 ha with rfl | ha
      · exact hlt
      · exact String.lt_trans hlt (he a ha)
    next hlt =>
      split
      next heq => exact List.pairwise_cons.2 ⟨fun a ha => heq ▸ he a ha, hes⟩
      next hne =>
        refine List.pairwise_cons.2 ⟨?_, ih hes⟩
        intro a ha
        rcases mem_insertEntry ha with rfl | ha
        · exact Std.lt_of_le_of_ne (String.not_lt.1 hlt) (Ne.symm hne)
        · exact he a ha

/-- Sets a variable. -/
def insert (env : Environment) (name value : String) : Environment :=
  ⟨insertEntry name value env.entries, pairwise_insertEntry env.sorted⟩

/-- The environment of a list of settings, of which the last for a name counts. -/
def ofList (settings : List (String × String)) : Environment :=
  settings.foldl (fun env s => env.insert s.1 s.2) empty

@[simp] theorem entries_insert (env : Environment) (name value : String) :
    (env.insert name value).entries = insertEntry name value env.entries := rfl

@[simp] theorem entries_empty : (∅ : Environment).entries = [] := rfl

end Environment

end RunMarkers
