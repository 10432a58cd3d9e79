import RunMarkers.Proofs.Document.Loop
import RunMarkers.Proofs.Suite.Lossless

/-!
# The arena of a parsed text

A text is parsed into an arena as well as into a tree, with as many nodes: one for the root, and one
or two for each chunk. Up to 2 ^ 32 nodes the arena is that of the tree, so this is what it is for
every text below 2 ^ 31 bytes. Beyond, the links of the arena lead back to the root
(`exists_parseArena`). The two cases are told apart by the chunks, and there are texts below 2 ^ 32
bytes of both kinds (`nodeCount_shortLines`).
-/

namespace RunMarkers

namespace Suite

namespace Chunk

theorem countList_layOut (id start : Nat) (ks : List Chunk) :
    Node.countList (layOut id start ks) = countOf ks := by
  induction ks generalizing id start with
  | nil => rfl
  | cons k ks ih =>
      rw [layOut, Node.countList_cons, ih, countOf_cons]
      cases k with
      | bare kind text => rfl
      | wrap kind text => rfl

theorem countOf_append (ks ls : List Chunk) : countOf (ks ++ ls) = countOf ks + countOf ls := by
  induction ks with
  | nil => rw [List.nil_append, countOf_nil, Nat.zero_add]
  | cons k ks ih => rw [List.cons_append, countOf_cons, countOf_cons, ih, Nat.add_assoc]

/-- A chunk with text has no more than two nodes for each of its bytes. -/
theorem countOf_le_byteLength {ks : List Chunk} (hks : ∀ k ∈ ks, k.text ≠ []) :
    countOf ks ≤ 2 * Text.byteLength (textOf ks) := by
  induction ks with
  | nil => exact Nat.le_refl 0
  | cons k ks ih =>
      have hlater := ih fun l hl => hks l (List.mem_cons_of_mem k hl)
      have hpos := List.length_pos_iff.2 (hks k List.mem_cons_self)
      have hle := Text.length_le_byteLength k.text
      have hcount : k.count ≤ 2 := by
        cases k with
        | bare kind text => exact Nat.le_succ 1
        | wrap kind text => exact Nat.le_refl 2
      rw [countOf_cons, textOf_cons, Text.byteLength_append]
      omega

end Chunk

section Count

variable (text : String) (path : Option Path) (fileKind : FileKind)

theorem nodeCount_document :
    (document text path fileKind).nodeCount = Chunk.countOf (chunks text.toList) + 1 :=
  congrArg Nat.succ (Chunk.countList_layOut 1 0 (chunks text.toList))

theorem nodeCount_document_le :
    (document text path fileKind).nodeCount ≤ 2 * text.utf8ByteSize + 1 := by
  have hchunks : ∀ k ∈ chunks text.toList, k.text ≠ [] := fun k hk => text_ne_nil_of_mem_chunks hk
  have hle := Chunk.countOf_le_byteLength hchunks
  rw [textOf_chunks, Text.byteLength_toList] at hle
  rw [nodeCount_document]
  exact Nat.succ_le_succ hle

/-- Each line feed is in a node of its own, and the root is one more. -/
theorem count_lineFeed_lt_nodeCount :
    text.toList.count '\n' < (document text path fileKind).nodeCount := by
  have hlength := congrArg List.length (map_newLines_document text path fileKind)
  rw [List.length_map, length_lineEndings] at hlength
  have hroot : (document text path fileKind).newLines =
      (Node.preorderList (document text path fileKind).topLevel).filter
        fun n => n.kind == .newLine := rfl
  rw [← hlength, hroot]
  calc
    _ ≤ (Node.preorderList (document text path fileKind).topLevel).length :=
      List.length_filter_le _ _
    _ = Node.countList (document text path fileKind).topLevel := Node.length_preorderList _
    _ < (document text path fileKind).nodeCount := Nat.lt_succ_self _

theorem isNumbered_document : (document text path fileKind).IsNumbered := by
  obtain ⟨-, -, -, hnumbered, -⟩ :=
    Document.exists_build_arena (parse_eq_ok text path fileKind)
  exact hnumbered

/-- Parsing into an arena never fails. The arena has as many nodes as the tree, and up to 2 ^ 32
nodes it is that of the tree; beyond, its links lead back to the root. -/
theorem exists_parseArena :
    ∃ a, parseArena text path fileKind = .ok a ∧
      a.nodeCount = (document text path fileKind).nodeCount ∧ a.fileKind = fileKind ∧
      (a.nodeCount ≤ UInt32.size → a = (document text path fileKind).arena) ∧
      (UInt32.size < a.nodeCount → a.IsEndless) := by
  obtain ⟨a, ha, hattempts, -, hcount, hkind, harena⟩ :=
    Document.exists_build_arena (parse_eq_ok text path fileKind)
  exact ⟨a, ha, hcount, hkind, harena, Arena.isEndless_of_attempts hattempts⟩

variable {text path fileKind}

theorem exists_parseArena_isEndless
    (hcount : UInt32.size < (document text path fileKind).nodeCount) :
    ∃ a, parseArena text path fileKind = .ok a ∧ a.fileKind = fileKind ∧ a.IsEndless := by
  obtain ⟨a, ha, hnodes, hkind, -, hendless⟩ := exists_parseArena text path fileKind
  exact ⟨a, ha, hkind, hendless (hnodes ▸ hcount)⟩

theorem count_lineFeed_lt_size
    (hcount : (document text path fileKind).nodeCount ≤ UInt32.size) :
    text.toList.count '\n' < UInt32.size :=
  Nat.lt_of_lt_of_le (count_lineFeed_lt_nodeCount text path fileKind) hcount

end Count

/-- A text of lines of one letter each. -/
def shortLines (count : Nat) : String :=
  String.ofList (List.replicate count ['a', '\n']).flatten

theorem toList_shortLines (count : Nat) :
    (shortLines count).toList = (List.replicate count ['a', '\n']).flatten :=
  String.toList_ofList

theorem utf8ByteSize_shortLines (count : Nat) : (shortLines count).utf8ByteSize = 2 * count := by
  rw [← Text.byteLength_toList, toList_shortLines]
  induction count with
  | zero => rfl
  | succ count ih =>
      rw [List.replicate_succ, List.flatten_cons, Text.byteLength_append, ih, Nat.mul_succ,
        Nat.add_comm]
      rfl

theorem count_lineFeed_shortLines (count : Nat) : (shortLines count).toList.count '\n' = count := by
  rw [toList_shortLines]
  induction count with
  | zero => rfl
  | succ count ih =>
      rw [List.replicate_succ, List.flatten_cons, List.count_append, ih, Nat.add_comm]
      rfl

theorem return_not_mem_shortLines (count : Nat) :
    '\r' ∉ (shortLines count).toList ∧ (shortLines count).toList.head? ≠ some byteOrderMark := by
  rw [toList_shortLines]
  constructor
  · intro hmem
    obtain ⟨line, hline, hmem⟩ := List.mem_flatten.1 hmem
    rw [List.eq_of_mem_replicate hline] at hmem
    exact absurd hmem (by decide)
  · cases count with
    | zero => exact nofun
    | succ count =>
        rw [List.replicate_succ, List.flatten_cons]
        exact fun h => absurd (Option.some.inj h) (by decide)

theorem getLast?_shortLines (count : Nat) :
    (shortLines (count + 1)).toList.getLast? = some '\n' := by
  rw [toList_shortLines, List.replicate_succ', List.flatten_concat, List.getLast?_append]
  rfl

theorem physicalLines_replicate (count : Nat) :
    physicalLines (List.replicate count ['a', '\n']).flatten =
      List.replicate count ⟨['a'], ['\n']⟩ := by
  induction count with
  | zero => rfl
  | succ count ih =>
      rw [List.replicate_succ, List.flatten_cons, List.replicate_succ, ← ih]
      rfl

theorem countOf_flatMap_replicate (count : Nat) :
    Chunk.countOf ((List.replicate count (⟨['a'], ['\n']⟩ : PhysicalLine)).flatMap
      PhysicalLine.chunks) = 3 * count := by
  induction count with
  | zero => rfl
  | succ count ih =>
      have hline : Chunk.countOf (⟨['a'], ['\n']⟩ : PhysicalLine).chunks = 3 := by decide +kernel
      rw [List.replicate_succ, List.flatMap_cons, Chunk.countOf_append, ih, hline, Nat.mul_succ,
        Nat.add_comm]

theorem chunks_shortLines (count : Nat) :
    chunks (shortLines count).toList =
      (List.replicate count (⟨['a'], ['\n']⟩ : PhysicalLine)).flatMap PhysicalLine.chunks := by
  rw [← physicalLines_replicate, toList_shortLines]
  cases count with
  | zero => rfl
  | succ count =>
      rw [List.replicate_succ, List.flatten_cons, List.cons_append, chunks,
        if_neg (show ¬ 'a' = byteOrderMark by decide)]

/-- Each short line has three nodes. -/
theorem nodeCount_shortLines (count : Nat) (path : Option Path) (fileKind : FileKind) :
    (document (shortLines count) path fileKind).nodeCount = 3 * count + 1 := by
  rw [nodeCount_document, chunks_shortLines, countOf_flatMap_replicate]

/-- A text below 2 ^ 32 bytes can have more nodes than there are numbers. -/
theorem size_lt_nodeCount_shortLines (path : Option Path) (fileKind : FileKind) :
    (shortLines 1431655766).utf8ByteSize < UInt32.size ∧
      UInt32.size < (document (shortLines 1431655766) path fileKind).nodeCount := by
  rw [utf8ByteSize_shortLines, nodeCount_shortLines]
  decide

end Suite

end RunMarkers
