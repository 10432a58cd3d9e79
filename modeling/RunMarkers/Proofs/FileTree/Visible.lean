import Mathlib.Data.List.Nodup
import RunMarkers.Proofs.FileTree.Leads
import RunMarkers.Proofs.Keys
import RunMarkers.Suite.Search

/-!
# The visible files of a tree

A walk that passes over what is hidden comes to every other file once: the rows of names that it
lists are those that lead to a file with no hidden name among them (`mem_visibleFiles_iff`), and
none is listed twice (`nodup_visibleFiles`). This needs what every directory promises, that its
entries are told apart by their names (`IsWellNamed`).
-/

namespace RunMarkers.FileTree

variable {Name : Type}

/-- Every directory has names for its entries that can stand in a path, each name once. -/
inductive IsWellNamed (isName : Name → Prop) : FileTree Name → Prop where
  | file (content : Except AccessFault ByteArray) : IsWellNamed isName (.file content)
  | dir {entries : List (Name × FileTree Name)} (hnames : ∀ e ∈ entries, isName e.1)
      (hnodup : (entries.map (·.1)).Nodup) (h : ∀ e ∈ entries, IsWellNamed isName e.2) :
      IsWellNamed isName (.dir entries)

variable [DecidableEq Name] {isName : Name → Prop} {hidden : Name → Bool}
  {t below : FileTree Name} {entries : List (Name × FileTree Name)} {name : Name}
  {names : List Name}

theorem child?_dir_eq_some_iff (hnodup : (entries.map (·.1)).Nodup) :
    (FileTree.dir entries).child? name = some below ↔ (name, below) ∈ entries := by
  rw [child?, Option.map_eq_some_iff]
  constructor
  · rintro ⟨e, hfind, rfl⟩
    obtain ⟨hentry, rfl⟩ := (find?_key_eq_some_iff hnodup).1 hfind
    exact hentry
  · intro hentry
    exact ⟨_, (find?_key_eq_some_iff hnodup).2 ⟨hentry, rfl⟩, rfl⟩

/-- Names that lead anywhere can stand in a path. -/
theorem IsWellNamed.isName_of_at? (ht : t.IsWellNamed isName) (h : t.at? names = some below) :
    ∀ name ∈ names, isName name := by
  induction names generalizing t with
  | nil => exact fun _ hname => absurd hname List.not_mem_nil
  | cons first names ih =>
      rw [at?, Option.bind_eq_some_iff] at h
      obtain ⟨here, hchild, hbelow⟩ := h
      cases ht with
      | file content => exact absurd hchild.symm (Option.some_ne_none here)
      | dir hnames hnodup htrees =>
          have hentry := (child?_dir_eq_some_iff hnodup).1 hchild
          intro name hname
          rcases List.mem_cons.1 hname with rfl | hname
          · exact hnames _ hentry
          · exact ih (htrees _ hentry) hbelow name hname

omit [DecidableEq Name] in
theorem visibleAmong_eq_flatMap (entries : List (Name × FileTree Name)) :
    visibleAmong hidden entries = entries.flatMap fun e =>
      if hidden e.1 then [] else (e.2.visibleFiles hidden).map (e.1 :: ·) := by
  induction entries with
  | nil => rw [visibleAmong, List.flatMap_nil]
  | cons e entries ih => rw [visibleAmong, ih, List.flatMap_cons]

omit [DecidableEq Name] in
theorem mem_visibleAmong_iff :
    names ∈ visibleAmong hidden entries ↔ ∃ e ∈ entries, hidden e.1 = false ∧
      ∃ rest ∈ e.2.visibleFiles hidden, e.1 :: rest = names := by
  rw [visibleAmong_eq_flatMap, List.mem_flatMap]
  refine exists_congr fun e => and_congr_right fun _ => ?_
  cases hidden e.1 <;> simp

/-- The walk lists the rows of names that lead to a file past nothing hidden. -/
theorem mem_visibleFiles_iff (ht : t.IsWellNamed isName) :
    names ∈ t.visibleFiles hidden ↔
      (∃ content, t.at? names = some (.file content)) ∧ ∀ name ∈ names, hidden name = false := by
  induction ht generalizing names with
  | file content =>
      rw [visibleFiles, List.mem_singleton]
      cases names with
      | nil => simp [at?]
      | cons first rest => simp [at?, child?]
  | @dir entries _ hnodup _ ih =>
      rw [visibleFiles, mem_visibleAmong_iff]
      cases names with
      | nil => simp [at?]
      | cons first rest =>
          simp only [at?, Option.bind_eq_some_iff, child?_dir_eq_some_iff hnodup,
            List.forall_mem_cons, List.cons.injEq]
          constructor
          · rintro ⟨e, he, hvisible, _, hrest, rfl, rfl⟩
            obtain ⟨⟨content, hfile⟩, hnames⟩ := (ih e he).1 hrest
            exact ⟨⟨content, e.2, he, hfile⟩, hvisible, hnames⟩
          · rintro ⟨⟨content, below, he, hfile⟩, hvisible, hnames⟩
            exact ⟨_, he, hvisible, rest, (ih _ he).2 ⟨⟨content, hfile⟩, hnames⟩, rfl, rfl⟩

omit [DecidableEq Name] in
theorem nodup_visibleFiles (ht : t.IsWellNamed isName) : (t.visibleFiles hidden).Nodup := by
  induction ht with
  | file content =>
      rw [visibleFiles]
      exact List.nodup_singleton _
  | @dir entries _ hnodup _ ih =>
      rw [visibleFiles, visibleAmong_eq_flatMap, List.nodup_flatMap]
      constructor
      · intro e he
        split
        next => exact List.nodup_nil
        next => exact (ih e he).map (List.cons_injective)
      · -- rows from different entries start with different names
        refine (List.pairwise_map.1 hnodup).imp ?_
        intro d e hne row hd he
        dsimp only at hd he
        split at hd
        next => exact List.not_mem_nil hd
        next =>
          split at he
          next => exact List.not_mem_nil he
          next =>
            obtain ⟨_, -, rfl⟩ := List.mem_map.1 hd
            obtain ⟨_, -, hrow⟩ := List.mem_map.1 he
            exact hne (List.cons.inj hrow).1.symm

end RunMarkers.FileTree
