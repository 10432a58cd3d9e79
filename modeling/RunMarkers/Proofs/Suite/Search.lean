import RunMarkers.Proofs.Project
import RunMarkers.Proofs.Suite.SystemNames

/-!
# The suites at or below a place

The search lists the visible files whose extension the configuration lists, each once and in order.
Names that are the bytes of texts are searched like the texts
(`exists_rows_systemSuites_encoded`). Among the other names that a system keeps there are some that
start with a dot. What they name is listed, so the suites at or below a place need not be those
without a leading dot in a name (`systemSuites_exact`).
-/

namespace RunMarkers

namespace FileTree

variable {Name : Type} [DecidableEq Name] [LT Name] [DecidableLT Name] [LE Name]
  [Std.IsLinearOrder Name] [Std.LawfulOrderLT Name]

/-- Different rows of names are sorted strictly. -/
theorem pairwise_lt_mergeSort {rows : List (List Name)} (hrows : rows.Nodup) :
    (rows.mergeSort fun a b => !decide (b < a)).Pairwise (· < ·) := by
  have hle : ∀ a b : List Name, (!decide (b < a)) = true ↔ ¬ b < a := by
    intro a b
    rw [Bool.not_eq_true', decide_eq_false_iff_not]
  have htrans : ∀ a b c : List Name, (!decide (b < a)) = true → (!decide (c < b)) = true →
      (!decide (c < a)) = true := by
    intro a b c hab hbc
    rw [hle, List.not_lt] at hab hbc ⊢
    exact List.le_trans hab hbc
  have htotal : ∀ a b : List Name, ((!decide (b < a)) || (!decide (a < b))) = true := by
    intro a b
    rw [Bool.or_eq_true, hle, hle, List.not_lt, List.not_lt]
    exact List.le_total a b
  have hsorted : (rows.mergeSort fun a b => !decide (b < a)).Pairwise
      fun a b => (!decide (b < a)) = true :=
    List.pairwise_mergeSort htrans htotal rows
  have hnodup := (rows.mergeSort_perm fun a b => !decide (b < a)).nodup_iff.2 hrows
  refine hsorted.imp₂ ?_ hnodup
  intro a b hab hne
  rw [hle, List.not_lt] at hab
  by_contra hlt
  exact hne (List.le_antisymm hab (List.not_lt.1 hlt))

variable {isName : Name → Prop} {hidden : Name → Bool} {wanted : List Name → Bool}
  {t : FileTree Name} {names : List Name}

omit [LE Name] [Std.IsLinearOrder Name] [Std.LawfulOrderLT Name] in
/-- The search comes to the wanted files past nothing hidden. -/
theorem mem_search_iff (ht : t.IsWellNamed isName) :
    names ∈ t.search hidden wanted ↔ (∃ content, t.at? names = some (.file content)) ∧
      (∀ name ∈ names, hidden name = false) ∧ wanted names = true := by
  rw [search, List.mem_mergeSort, List.mem_filter, mem_visibleFiles_iff ht, and_assoc]

theorem pairwise_search (ht : t.IsWellNamed isName) :
    (t.search hidden wanted).Pairwise (· < ·) :=
  pairwise_lt_mergeSort ((nodup_visibleFiles ht).filter _)

end FileTree

/-- There is an extension, and the configuration lists it. Dots before a listed extension and the
case of ASCII letters do not matter. -/
def Config.ListsExtension (c : Config) (extension? : Option String) : Prop :=
  ∃ extension, extension? = some extension ∧ ∃ listed ∈ c.suiteExtensions,
    Text.asciiLower (String.ofList (listed.toList.dropWhile (· == '.'))) =
      Text.asciiLower extension

theorem FileKind.ofExtension_eq_suite_iff {c : Config} {extension? : Option String} :
    FileKind.ofExtension extension? c.suiteExtensions = .suite ↔ c.ListsExtension extension? := by
  have hlisted : ∀ extension : String,
      (c.suiteExtensions.any fun listed =>
        Text.eqIgnoringAsciiCase (FileKind.bareExtension listed) extension) = true ↔
      ∃ listed ∈ c.suiteExtensions,
        Text.asciiLower (FileKind.bareExtension listed) = Text.asciiLower extension := by
    intro extension
    simp only [List.any_eq_true, Text.eqIgnoringAsciiCase_iff]
  cases extension? with
  | none => simp [FileKind.ofExtension, Config.ListsExtension]
  | some extension =>
      simp only [FileKind.ofExtension, Config.ListsExtension, Option.some.injEq, exists_eq_left']
      refine Iff.trans ?_ (hlisted extension)
      split
      next h => exact iff_of_true rfl h
      next h =>
        refine iff_of_false ?_ h
        split <;> exact nofun

section System

/-- Names that are the bytes of texts are searched like the texts. -/
theorem exists_rows_systemSuites_encoded {files u : FileTree} {start : Path}
    (suiteExtensions : List String) (hfind : files.find start = .ok u)
    (hu : u.encoded.IsWellNamed SystemName.IsName) :
    ∃ rows : List (List String), suiteFiles files suiteExtensions start = rows.map start.below ∧
      (∀ names ∈ rows, (start.below names).parts = start.parts ++ names) ∧
      systemSuites suiteExtensions start u.encoded = rows.map (List.map SystemName.ofText) := by
  have hstart := FileTree.isAbsolute_of_find_eq_ok hfind
  have haccept := FileTree.accept_eq_ok_iff.1 (FileTree.find_eq_ok_iff.1 hfind).1
  have hnul : '\x00' ∉ start.text.toList := by
    simpa using haccept.1
  have hwellNamed : ∀ names ∈ u.visibleFiles isHidden,
      ∀ name ∈ names, SystemName.IsName (SystemName.ofText name) := by
    intro names hnames
    have hrow := List.mem_map_of_mem (f := List.map SystemName.ofText) hnames
    rw [← FileTree.visibleFiles_encoded, FileTree.mem_visibleFiles_iff hu] at hrow
    obtain ⟨⟨content, hfile⟩, -⟩ := hrow
    exact List.forall_mem_map.1 (hu.isName_of_at? hfile)
  refine ⟨u.search isHidden fun names => isOpenTo start names &&
    FileKind.ofPath (start.below names) suiteExtensions == .suite, ?_, ?_, ?_⟩
  · rw [suiteFiles, hfind]
  · intro names hnames
    rw [FileTree.search, List.mem_mergeSort] at hnames
    exact Path.parts_below hstart fun name hname =>
      (hwellNamed names (List.mem_of_mem_filter hnames) name hname).isName_of_ofText
  · rw [systemSuites, FileTree.search, FileTree.search, FileTree.visibleFiles_encoded,
      List.filter_map, List.map_mergeSort (s := fun a b => !decide (b < a))]
    · congr 2
      refine List.filter_congr fun names hnames => ?_
      have hnames := hwellNamed names hnames
      rw [Function.comp_apply, SystemName.isOpenTo_map_ofText hstart hnames hnul,
        SystemName.extensionBelow?_map_ofText hstart hnames, FileKind.ofPath]
    · intro a _ b _
      exact congrArg not (decide_eq_decide.2 SystemName.map_ofText_lt_map_ofText_iff.symm)

open SystemName

variable {c : Config} {start : Path} {t : FileTree SystemName} {names : List SystemName}

theorem SystemName.OpensAll.isOpenTo (hopen : OpensAll start t)
    (hfound : (t.at? names).isSome = true) : isOpenTo start names = true := by
  rw [SystemName.isOpenTo, decide_eq_true_eq]
  rcases List.eq_nil_or_concat names with rfl | ⟨dir, name, rfl⟩
  · exact hopen [] (.inl rfl)
  · rw [List.concat_eq_append] at hfound ⊢
    rw [List.dropLast_concat]
    exact hopen dir (.inr (FileTree.hasDir_of_isSome_at?_concat hfound))

/-- The names lead to a file whose extension the configuration lists. -/
def Config.ListsBelow (c : Config) (start : Path) (t : FileTree SystemName)
    (names : List SystemName) : Prop :=
  (∃ content, t.at? names = some (.file content)) ∧ c.ListsExtension (extensionBelow? start names)

/-- What the search lists in a tree with names as a system keeps them. -/
theorem mem_systemSuites_iff (ht : t.IsWellNamed IsName) (hopen : OpensAll start t) :
    names ∈ systemSuites c.suiteExtensions start t ↔ c.ListsBelow start t names ∧
      ∀ name ∈ names, name.head? = some dot → text? name = none := by
  have hvisible : ∀ name : SystemName, name.isHidden = false ↔
      (name.head? = some dot → text? name = none) := by
    intro name
    rw [← Bool.not_eq_true, isHidden_iff, not_and, Option.not_isSome_iff_eq_none]
  simp only [systemSuites, FileTree.mem_search_iff ht, hvisible, Bool.and_eq_true, beq_iff_eq,
    FileKind.ofExtension_eq_suite_iff]
  constructor
  · rintro ⟨hfile, hnames, -, hlisted⟩
    exact ⟨⟨hfile, hlisted⟩, hnames⟩
  · rintro ⟨⟨⟨content, hfile⟩, hlisted⟩, hnames⟩
    exact ⟨⟨content, hfile⟩, hnames, hopen.isOpenTo (Option.isSome_of_eq_some hfile), hlisted⟩

/-- What is listed are the files without a name that starts with a dot, exactly if each file with a
listed extension that has such a name has one that is a text. -/
theorem forall_mem_systemSuites_iff (ht : t.IsWellNamed IsName) (hopen : OpensAll start t) :
    (∀ names, names ∈ systemSuites c.suiteExtensions start t ↔ c.ListsBelow start t names ∧
        ∀ name ∈ names, name.head? ≠ some dot) ↔
      ∀ names, c.ListsBelow start t names → (∃ name ∈ names, name.head? = some dot) →
        ∃ name ∈ names, name.head? = some dot ∧ ∃ text, text? name = some text := by
  simp only [mem_systemSuites_iff ht hopen]
  refine forall_congr' fun names => ?_
  rw [and_congr_right_iff]
  refine imp_congr_right fun _ => ?_
  constructor
  · rintro hsame ⟨name, hname, hdot⟩
    by_contra hnone
    refine hsame.1 (fun other hother hdot => ?_) name hname hdot
    cases htext : text? other with
    | none => rfl
    | some text => exact absurd ⟨other, hother, hdot, text, htext⟩ hnone
  · intro htext
    constructor
    · intro hnames name hname hdot
      obtain ⟨other, hother, hdot, text, hsome⟩ := htext ⟨name, hname, hdot⟩
      exact Option.some_ne_none text (hsome.symm.trans (hnames other hother hdot))
    · intro hnames name hname hdot
      exact absurd hdot (hnames name hname)

/-- A directory whose name is a dot and a byte that no text has, a hidden directory, and a suite
beside them. -/
def dottedTree : FileTree SystemName :=
  .dir [([dot, 255], .dir [(ofText "a.robot", .file (.ok .empty))]),
    (ofText ".git", .dir [(ofText "c.robot", .file (.ok .empty))]),
    (ofText "b.Robot", .file (.ok .empty))]

theorem isWellNamed_dottedTree : dottedTree.IsWellNamed IsName := by
  have hfile : ∀ name : SystemName, IsName name →
      (FileTree.dir [(name, .file (.ok .empty))]).IsWellNamed IsName := by
    intro name hname
    refine .dir ?_ (List.nodup_singleton _) ?_
    · exact List.forall_mem_singleton.2 hname
    · exact List.forall_mem_singleton.2 (.file _)
  have hname : ∀ name : SystemName, name ≠ [] ∧ name ≠ [dot] ∧ name ≠ [dot, dot] ∧
      slash ∉ name ∧ 0 ∉ name → IsName name := fun _ ⟨h₁, h₂, h₃, h₄, h₅⟩ => ⟨h₁, h₂, h₃, h₄, h₅⟩
  refine .dir ?_ (by decide) ?_
  · simp only [List.forall_mem_cons, List.not_mem_nil, false_imp_iff, implies_true, and_true]
    exact ⟨hname _ (by decide), hname _ (by decide), hname _ (by decide)⟩
  · simp only [List.forall_mem_cons, List.not_mem_nil, false_imp_iff, implies_true, and_true]
    exact ⟨hfile _ (hname _ (by decide)), hfile _ (hname _ (by decide)), .file _⟩

theorem opensAll_dottedTree : OpensAll ⟨"/.top"⟩ dottedTree := by
  have hleaf : ∀ (name : SystemName) (dir : List SystemName) entries,
      (FileTree.dir [(name, .file (.ok .empty))]).at? dir = some (.dir entries) → dir = [] := by
    intro name dir entries h
    cases dir with
    | nil => rfl
    | cons first rest =>
        rw [FileTree.at?, Option.bind_eq_some_iff] at h
        obtain ⟨below, hchild, h⟩ := h
        have hnodup : ([(name, FileTree.file (.ok .empty))].map fun e : SystemName ×
            FileTree SystemName => e.1).Nodup := List.nodup_singleton name
        rw [FileTree.child?_dir_eq_some_iff hnodup, List.mem_singleton] at hchild
        obtain ⟨rfl, rfl⟩ := Prod.mk.inj hchild
        cases rest <;> cases h
  rintro dir (rfl | ⟨entries, h⟩)
  · decide
  cases dir with
  | nil => decide
  | cons first rest =>
      rw [FileTree.at?, Option.bind_eq_some_iff] at h
      obtain ⟨below, hchild, h⟩ := h
      rw [dottedTree, FileTree.child?_dir_eq_some_iff (by decide)] at hchild
      simp only [List.mem_cons, Prod.mk.injEq, List.not_mem_nil, or_false] at hchild
      rcases hchild with ⟨rfl, rfl⟩ | ⟨rfl, rfl⟩ | ⟨rfl, rfl⟩
      · obtain rfl := hleaf _ rest entries h
        decide
      · obtain rfl := hleaf _ rest entries h
        decide
      · cases rest <;> cases h

theorem listsBelow_dottedTree :
    Config.ListsBelow ⟨.default, ["..ROBOT"]⟩ ⟨"/.top"⟩ dottedTree
      [[dot, 255], ofText "a.robot"] := by
  exact ⟨⟨_, rfl⟩, "robot", rfl, "..ROBOT", List.mem_singleton_self _, by decide⟩

theorem text?_dot_255 : text? [dot, 255] = none := rfl

end System

end RunMarkers
