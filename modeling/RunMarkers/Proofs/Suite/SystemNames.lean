import Mathlib.Data.List.TakeWhile
import RunMarkers.Proofs.FileTree.Visible
import RunMarkers.Proofs.Path.Parts
import RunMarkers.Proofs.Text.Encoded

/-!
# Names of a system

A system keeps names as bytes. A text and its bytes agree on the leading dot
(`SystemName.isHidden_ofText`), on the extension (`Path.extensionOf?_encoded`) and on the order
(`SystemName.ofText_lt_ofText_iff`), and so do a path below a place and its bytes. So a tree with
names of a system that are texts has the visible files of the tree with the texts
(`FileTree.visibleFiles_encoded`).
-/

namespace RunMarkers

/-- The name that a system keeps for a text. -/
def SystemName.ofText (name : String) : SystemName := Text.encoded name.toList

namespace FileTree

mutual

/-- The tree with its names as a system keeps them. -/
def encoded : FileTree → FileTree SystemName
  | .file content => .file content
  | .dir entries => .dir (encodedEntries entries)

/-- Entries with their names as a system keeps them. -/
def encodedEntries : List (String × FileTree) → List (SystemName × FileTree SystemName)
  | [] => []
  | (name, t) :: entries => (SystemName.ofText name, t.encoded) :: encodedEntries entries

end

end FileTree

namespace Path

variable {p : Path} {name : String} {names : List String}

theorem parts_of_isAbsolute (hp : p.isAbsolute = true) : p.parts = p.counted.map String.ofList := by
  rw [parts, counted_eq hp, List.map_map]
  rfl

theorem parts_entry (hp : p.isAbsolute = true) (hname : IsName name.toList) :
    (p.entry name).isAbsolute = true ∧ (p.entry name).parts = p.parts ++ [name] := by
  obtain ⟨habsolute, front, hbody, hfront⟩ := exists_body_entry hp hname
  refine ⟨habsolute, ?_⟩
  rw [parts_of_isAbsolute habsolute, parts_of_isAbsolute hp, counted, hbody, List.filter_append,
    hfront, List.filter_cons_of_pos (by rw [hname.counts]; rfl), List.map_append]
  simp

/-- The parts of a path below a place are those of the place and then the names. -/
theorem parts_below (hp : p.isAbsolute = true) (hnames : ∀ name ∈ names, IsName name.toList) :
    (p.below names).parts = p.parts ++ names := by
  induction names generalizing p with
  | nil => exact (List.append_nil _).symm
  | cons name names ih =>
      obtain ⟨habsolute, hparts⟩ := parts_entry hp (hnames name List.mem_cons_self)
      have hbelow := ih habsolute fun later hlater => hnames later (List.mem_cons_of_mem name hlater)
      rw [hparts, List.append_assoc, List.singleton_append] at hbelow
      exact hbelow

end Path

namespace SystemName

theorem utf8EncodeChar_dot : String.utf8EncodeChar '.' = [dot] := rfl

theorem utf8EncodeChar_slash : String.utf8EncodeChar '/' = [slash] := rfl

end SystemName

namespace Path

open SystemName

/-- After the last dot comes the extension. -/
theorem extensionOf?_append {α : Type} [BEq α] [LawfulBEq α] {dot : α} (stem : List α)
    {extension : List α} (hdot : dot ∉ extension) :
    extensionOf? dot (stem ++ dot :: extension) = if stem.isEmpty then none else some extension := by
  have hall : ∀ x ∈ extension.reverse, (x != dot) = true := by
    intro x hx
    rw [bne_iff_ne]
    exact ne_of_mem_of_not_mem (List.mem_reverse.1 hx) hdot
  rw [extensionOf?, List.reverse_append, List.reverse_cons, List.append_assoc,
    List.singleton_append, List.dropWhile_append_of_pos hall, List.takeWhile_append_of_pos hall,
    List.dropWhile_cons_of_neg (by simp), List.takeWhile_cons_of_neg (by simp), List.append_nil,
    List.reverse_reverse]
  simp only [List.isEmpty_reverse]

theorem extensionOf?_of_not_mem {α : Type} [BEq α] [LawfulBEq α] {dot : α} {name : List α}
    (hdot : dot ∉ name) : extensionOf? dot name = none := by
  have hnil : name.reverse.dropWhile (· != dot) = [] := by
    rw [List.dropWhile_eq_nil_iff]
    intro x hx
    rw [bne_iff_ne]
    exact ne_of_mem_of_not_mem (List.mem_reverse.1 hx) hdot
  rw [extensionOf?, hnil]

theorem extensionOf?_encoded (cs : List Char) :
    extensionOf? dot (Text.encoded cs) = (extensionOf? '.' cs).map Text.encoded := by
  have hmem : ∀ {cs : List Char}, '.' ∉ cs → dot ∉ Text.encoded cs :=
    mt (Text.mem_encoded_iff utf8EncodeChar_dot).1
  by_cases hdot : '.' ∈ cs
  · obtain ⟨back, front, hcs, hback⟩ := List.eq_append_cons_of_mem (List.mem_reverse.2 hdot)
    obtain rfl : cs = front.reverse ++ '.' :: back.reverse := by
      simpa using congrArg List.reverse hcs
    have hextension := mt List.mem_reverse.1 hback
    have hbytes : Text.encoded (front.reverse ++ '.' :: back.reverse) =
        Text.encoded front.reverse ++ dot :: Text.encoded back.reverse := Text.encoded_append _ _
    rw [hbytes, extensionOf?_append _ (hmem hextension), extensionOf?_append _ hextension]
    simp only [List.isEmpty_iff, Text.encoded_eq_nil_iff]
    split <;> rfl
  · rw [extensionOf?_of_not_mem hdot, extensionOf?_of_not_mem (hmem hdot)]
    rfl

end Path

namespace SystemName

/-- Bytes that can stand in a path as a name. -/
structure IsName (name : SystemName) : Prop where
  ne_nil : name ≠ []
  ne_dot : name ≠ [dot]
  ne_dots : name ≠ [dot, dot]
  slash_not_mem : slash ∉ name
  nul_not_mem : 0 ∉ name

/-- The place and every directory of the tree there can be opened. -/
def OpensAll (start : Path) (t : FileTree SystemName) : Prop :=
  ∀ dir, dir = [] ∨ t.HasDir dir → (below start dir).length < FileTree.pathLimit

theorem toList_toUTF8 (text : String) : text.toUTF8.data.toList = Text.encoded text.toList := by
  rw [String.toUTF8, ← String.ofList_toList (s := text), String.toByteArray_ofList,
    String.toList_ofList]
  simp [Text.encoded, List.utf8Encode]

theorem text?_eq_some_iff {bytes : List UInt8} {text : String} :
    text? bytes = some text ↔ Text.encoded text.toList = bytes := by
  rw [text?, String.fromUTF8?, Option.dite_none_right_eq_some, ← toList_toUTF8]
  constructor
  · rintro ⟨_, h⟩
    obtain rfl := Option.some.inj h
    rfl
  · rintro rfl
    exact ⟨text.isValidUTF8, rfl⟩

/-- What is hidden has a name that starts with a dot and is a text. -/
theorem isHidden_iff {name : SystemName} :
    name.isHidden = true ↔ name.head? = some dot ∧ (text? name).isSome = true := by
  rw [SystemName.isHidden]
  cases htext : text? name with
  | none => simp
  | some text =>
      rw [Option.any_some, Option.isSome_some, and_iff_left rfl, ← text?_eq_some_iff.1 htext,
        Text.head?_encoded_eq_some_iff utf8EncodeChar_dot, RunMarkers.isHidden, beq_iff_eq]

theorem text?_encoded (cs : List Char) : text? (Text.encoded cs) = some (String.ofList cs) := by
  rw [text?_eq_some_iff, String.toList_ofList]

theorem isHidden_ofText (name : String) : isHidden (ofText name) = RunMarkers.isHidden name := by
  rw [isHidden, ofText, text?_encoded, String.ofList_toList, Option.any_some]

theorem IsName.isName_of_ofText {name : String} (h : IsName (ofText name)) :
    Path.IsName name.toList where
  counts := by
    rw [Path.isIdle, Bool.or_eq_false_iff, List.isEmpty_eq_false_iff, beq_eq_false_iff_ne]
    refine ⟨mt Text.encoded_eq_nil_iff.2 h.ne_nil, fun hdot => h.ne_dot ?_⟩
    rw [ofText, hdot]
    rfl
  ne_dots hdots := h.ne_dots (by rw [ofText, hdots]; rfl)
  slash_not_mem := mt (Text.mem_encoded_iff utf8EncodeChar_slash).2 h.slash_not_mem

variable {p : Path} {name : String} {names : List String}

theorem below_nil (p : Path) : below p [] = Text.encoded p.text.toList :=
  toList_toUTF8 p.text

theorem below_ofText_cons (hp : p.isAbsolute = true) (hname : Path.IsName name.toList)
    (rest : List SystemName) :
    below p (ofText name :: rest) = below (p.entry name) rest := by
  have hentry : below p [ofText name] = below (p.entry name) [] := by
    have hne : (Text.encoded p.text.toList).isEmpty = false := by
      obtain ⟨cs, hcs⟩ := Path.isAbsolute_iff.1 hp
      rw [hcs]
      rfl
    have hslash : (Text.encoded p.text.toList).getLast? = some slash ↔
        p.text.toList.getLast? = some '/' := Text.getLast?_encoded_eq_some_iff utf8EncodeChar_slash
    rw [below_nil, Path.toList_text_entry hp hname, Text.encoded_append, Text.encoded_append, below,
      toList_toUTF8, List.foldl_cons, List.foldl_nil, hne, Bool.false_or, beq_eq_decide]
    simp only [hslash, decide_eq_true_eq]
    split
    next => rw [Text.encoded_nil, List.append_nil, ofText]
    next => rw [List.append_assoc]; rfl
  rw [below, List.foldl_cons]
  exact congrArg (fun path => List.foldl _ path rest) hentry

/-- The bytes of a path below a place. -/
theorem below_map_ofText (hp : p.isAbsolute = true)
    (hnames : ∀ name ∈ names, Path.IsName name.toList) :
    below p (names.map ofText) = Text.encoded (p.below names).text.toList := by
  induction names generalizing p with
  | nil => exact below_nil p
  | cons name names ih =>
      have hname := hnames name List.mem_cons_self
      rw [List.map_cons, below_ofText_cons hp hname]
      exact ih (Path.parts_entry hp hname).1 fun later hlater =>
        hnames later (List.mem_cons_of_mem name hlater)

/-- A path below a place has no NUL character if the place and the names have none. -/
theorem nul_not_mem_below (hp : p.isAbsolute = true) (hnul : '\x00' ∉ p.text.toList)
    (hnames : ∀ name ∈ names, Path.IsName name.toList ∧ '\x00' ∉ name.toList) :
    '\x00' ∉ (p.below names).text.toList := by
  induction names generalizing p with
  | nil => exact hnul
  | cons name names ih =>
      obtain ⟨hname, hclean⟩ := hnames name List.mem_cons_self
      have hslash : '\x00' ∉ if p.text.toList.getLast? = some '/' then [] else ['/'] := by
        split <;> decide
      refine ih (Path.parts_entry hp hname).1 ?_ fun later hlater =>
        hnames later (List.mem_cons_of_mem name hlater)
      rw [Path.toList_text_entry hp hname, List.mem_append, List.mem_append]
      exact not_or_intro (not_or_intro hnul hslash) hclean

theorem IsName.nul_not_mem_of_ofText (h : IsName (ofText name)) : '\x00' ∉ name.toList :=
  mt (Text.mem_encoded_iff rfl).2 h.nul_not_mem

section Below

variable (hp : p.isAbsolute = true) (hnames : ∀ name ∈ names, IsName (ofText name))
include hp hnames

theorem isOpenTo_map_ofText (hnul : '\x00' ∉ p.text.toList) :
    isOpenTo p (names.map ofText) = RunMarkers.isOpenTo p names := by
  have hnames : ∀ name ∈ names.dropLast, IsName (ofText name) := fun name hname =>
    hnames name (List.dropLast_subset names hname)
  have hclean := nul_not_mem_below hp hnul fun name hname =>
    ⟨(hnames name hname).isName_of_ofText, (hnames name hname).nul_not_mem_of_ofText⟩
  rw [isOpenTo, RunMarkers.isOpenTo, ← List.map_dropLast,
    below_map_ofText hp fun name hname => (hnames name hname).isName_of_ofText, Text.length_encoded,
    FileTree.accept, if_neg (by rwa [List.contains_iff_mem])]
  split
  next hlimit => exact decide_eq_false (Nat.not_lt.2 hlimit)
  next hlimit => exact decide_eq_true (Nat.not_le.1 hlimit)

theorem extensionBelow?_map_ofText :
    extensionBelow? p (names.map ofText) = (p.below names).extension? := by
  rcases List.eq_nil_or_concat names with rfl | ⟨dir, name, rfl⟩
  · rfl
  · rw [List.concat_eq_append] at hnames ⊢
    have hname := (hnames name List.mem_concat_self).isName_of_ofText
    have hparts := Path.parts_below hp fun name hname => (hnames name hname).isName_of_ofText
    have hfile : (p.below (dir ++ [name])).fileName? = some name := by
      rw [Path.fileName?, hparts, ← List.append_assoc, List.getLast?_concat]
      refine if_neg (not_or_intro ?_ ?_)
      · rintro rfl
        exact absurd hname.counts (by decide)
      · rintro rfl
        exact hname.ne_dots rfl
    have hextension : (p.below (dir ++ [name])).extension? =
        (Path.extensionOf? '.' name.toList).map String.ofList := by
      rw [Path.extension?, hfile, Option.bind_some]
    rw [extensionBelow?, List.map_append, List.map_singleton, List.getLast?_concat, hextension]
    change (Path.extensionOf? dot (ofText name)).bind text? = _
    rw [ofText, Path.extensionOf?_encoded, Option.bind_map, Option.map_eq_bind]
    exact congrArg _ (funext text?_encoded)

end Below

theorem ofText_lt_ofText_iff {a b : String} : ofText a < ofText b ↔ a < b :=
  Text.encoded_lt_encoded_iff.trans String.lt_iff.symm

theorem map_ofText_lt_map_ofText_iff {a b : List String} :
    a.map ofText < b.map ofText ↔ a < b :=
  (RelEmbedding.ofMonotone (List.map ofText) fun _ _ =>
    List.map_lt fun _ _ => ofText_lt_ofText_iff.2).map_rel_iff

end SystemName

namespace FileTree

mutual

theorem visibleFiles_encoded : (t : FileTree) →
    t.encoded.visibleFiles SystemName.isHidden =
      (t.visibleFiles isHidden).map (List.map SystemName.ofText)
  | .file _ => rfl
  | .dir entries => visibleAmong_encodedEntries entries

theorem visibleAmong_encodedEntries : (entries : List (String × FileTree)) →
    visibleAmong SystemName.isHidden (encodedEntries entries) =
      (visibleAmong isHidden entries).map (List.map SystemName.ofText)
  | [] => rfl
  | (name, t) :: entries => by
      rw [encodedEntries, visibleAmong, visibleAmong, SystemName.isHidden_ofText,
        visibleFiles_encoded t, visibleAmong_encodedEntries entries, List.map_append]
      cases isHidden name <;> simp

end

end FileTree

end RunMarkers
