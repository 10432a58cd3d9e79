import RunMarkers.Cli.Command
import RunMarkers.Proofs.Cli.DirectoryReport
import RunMarkers.Proofs.Cli.Target
import RunMarkers.Proofs.Marker.Json
import RunMarkers.Proofs.Marker.Ownership

/-!
# Naming a line of a suite

`analyze` and `command` look up the owner of the line that their target names. They look it up as a
number of 32 bits, so beyond those they take the owner of another line.
-/

namespace RunMarkers

namespace Suite

/-- The owner of a line of a text: the last marker at or above the line, or none if there is no such
marker or a heading line comes after it. -/
def IsOwner (cs : List Char) (line : Nat) : Option Marker → Prop
  | some m => IsLastMarker (scan cs) line m ∧
      ∀ g ∈ headings cs, g.number ≤ line → g.number ≤ m.line
  | none => ∀ m, IsLastMarker (scan cs) line m → ∃ g ∈ headings cs, m.line < g.number ∧ g.number ≤ line

variable {cs : List Char} {line last : Nat} {owner : Option Marker}

theorem line_le_of_mem_scan (hlast : ∀ l ∈ scanned cs, l.number ≤ last) {m : Marker}
    (hm : m ∈ scan cs) : m.line ≤ last := by
  obtain ⟨l, hl, hmarker⟩ := List.mem_filterMap.1 hm
  rw [ScanLine.line_eq_of_marker? hmarker]
  exact hlast l hl

/-- Every line from the last one on has the owner of the last one. -/
theorem isOwner_iff_of_le (hlast : ∀ l ∈ scanned cs, l.number ≤ last) (hle : last ≤ line) :
    IsOwner cs line owner ↔ IsOwner cs last owner := by
  have hmarkers : ∀ m, IsLastMarker (scan cs) line m ↔ IsLastMarker (scan cs) last m := by
    intro m
    have hbounds : ∀ n ∈ scan cs, (n.line ≤ line ↔ n.line ≤ last) := by
      intro n hn
      have hn := line_le_of_mem_scan hlast hn
      exact iff_of_true (Nat.le_trans hn hle) hn
    refine and_congr (and_congr_right fun hm => hbounds m hm) (forall₂_congr fun n hn => ?_)
    rw [hbounds n hn]
  have hheadings : ∀ g ∈ headings cs, (g.number ≤ line ↔ g.number ≤ last) := by
    intro g hg
    have hg := hlast g (List.mem_filter.1 hg).1
    exact iff_of_true (Nat.le_trans hg hle) hg
  cases owner with
  | some m =>
      refine and_congr (hmarkers m) (forall₂_congr fun g hg => ?_)
      rw [hheadings g hg]
  | none =>
      refine forall_congr' fun m => imp_congr (hmarkers m) (exists_congr fun g => ?_)
      refine and_congr_right fun hg => and_congr_right fun _ => hheadings g hg

end Suite

namespace Document.IsScanOf

variable {d : Document} {cs : List Char}

theorem markerAt_eq_iff_isOwner (hd : d.IsScanOf cs) (line : Nat) (owner : Option Marker) :
    d.markerAt line = owner ↔ Suite.IsOwner cs line owner := by
  have hsome : ∀ m, d.markerAt line = some m ↔ Suite.IsOwner cs line (some m) := by
    intro m
    rw [hd.markerAt_eq_some_iff, hd.markers_eq]
    simp only [Suite.IsOwner, Suite.headings, List.mem_filter, and_imp]
  cases owner with
  | some m => exact hsome m
  | none =>
      rw [Option.eq_none_iff_forall_ne_some]
      refine forall_congr' fun m => ?_
      rw [ne_eq, hsome, Suite.IsOwner, not_and]
      refine imp_congr_right fun _ => ?_
      push Not
      exact exists_congr fun g => and_congr_right fun _ => and_comm

end Document.IsScanOf

theorem Suite.eq_of_isLastMarker {cs : List Char} {line : Nat} {m n : Marker}
    (hm : IsLastMarker (scan cs) line m) (hn : IsLastMarker (scan cs) line n) : m = n := by
  have hfind := find?_eq_some_iff_isLastMarker (List.pairwise_reverse.2 (pairwise_line_scan cs)) line
  have hfound := (hfind m).2 (isLastMarker_reverse.2 hm)
  rw [(hfind n).2 (isLastMarker_reverse.2 hn)] at hfound
  exact (Option.some.inj hfound).symm

theorem Suite.IsOwner.unique {cs : List Char} {line : Nat} {a b : Option Marker}
    (ha : IsOwner cs line a) (hb : IsOwner cs line b) : a = b := by
  have hnone : ∀ m, IsOwner cs line (some m) → ¬ IsOwner cs line none := by
    intro m hm hnone
    obtain ⟨g, hg, hlt, hle⟩ := hnone m hm.1
    exact absurd (hm.2 g hg hle) (Nat.not_le_of_lt hlt)
  cases a with
  | none =>
      cases b with
      | none => rfl
      | some n => exact absurd ha (hnone n hb)
  | some m =>
      cases b with
      | none => exact absurd hb (hnone m ha)
      | some n => rw [eq_of_isLastMarker ha.1 hb.1]

theorem Project.markerAt_of_isSuite {p : Project} {path : Path} {text : String}
    (hsuite : p.isSuite path = true) (hread : p.files.readText path = .ok text)
    (hcount : (Suite.document text (some path) .suite).nodeCount ≤ UInt32.size) (line : Nat) :
    ∃ owner, p.markerAt path line = .ok owner ∧ Suite.IsOwner text.toList line owner := by
  have hdocument : p.document path = .ok (Suite.document text (some path) .suite) := by
    refine document_eq_ok_iff.2 ⟨text, hread, ?_⟩
    rw [isSuite_iff.1 hsuite]
  have howner := (Document.isScanOf_document hcount).markerAt_eq_iff_isOwner line
  refine ⟨_, ?_, (howner _).1 rfl⟩
  rw [markerAt, hdocument]
  rfl

namespace Cli

/-- An owner as JSON. -/
def ownerToJson : Option Marker → Json
  | some m => m.toJson
  | none => .null

theorem pretty_ownerToJson_injective :
    Function.Injective fun owner => (ownerToJson owner).pretty := by
  have hplain : ∀ owner, (ownerToJson owner).IsPlain := by
    rintro (_ | m)
    · exact .null
    · exact m.isPlain_toJson
  intro a b h
  have hread := congrArg Json.read? h
  rw [Json.read?_pretty (hplain a), Json.read?_pretty (hplain b), Option.some.injEq] at hread
  cases a with
  | none =>
      cases b with
      | none => rfl
      | some n => simp [ownerToJson, Marker.toJson, Json.ofMembers] at hread
  | some m =>
      cases b with
      | none => simp [ownerToJson, Marker.toJson, Json.ofMembers] at hread
      | some n => rw [Marker.toJson_injective hread]

/-- What the command for an owner of a line prints; without an owner, the error that names the
line looked up, counted from one. -/
def IsCommandOf (p : Project) (path : Path) (line : Nat) (json : Bool) (printed : Printout) :
    Option Marker → Prop
  | some m => printed =
      .line (if json then (p.command m path).toJson.pretty else (p.command m path).shellLine)
  | none => printed = .failed (.project (.noRunnable (line + 1)))

/-- For a line of a file, counted from one, both subcommands act on an owner: `analyze` prints it as
JSON, `command` prints its command. -/
structure ActsOn (files : FileTree) (cwd : Path) (name : String) (number : Nat) (p : Project)
    (owner : Option Marker) : Prop where
  analyze : ∀ merged, Analyze.run files cwd (name ++ ":" ++ toString number) true merged false =
    .line (ownerToJson owner).pretty
  command : ∀ json, IsCommandOf p (cwd.join ⟨name⟩) (lineIndex (number - 1)) json
    (PrintCommand.run files cwd (name ++ ":" ++ toString number) json) owner

theorem ActsOn.unique {files : FileTree} {cwd : Path} {name : String} {number : Nat} {p : Project}
    {a b : Option Marker} (ha : ActsOn files cwd name number p a)
    (hb : ActsOn files cwd name number p b) : a = b :=
  pretty_ownerToJson_injective (Printout.line_inj.1 ((ha.analyze false).symm.trans (hb.analyze false)))

/-- One more than a line number in 32 bits has 32 bits as well, but for the last of them. -/
theorem lineIndex_add_one_mod {number : Nat} (hmultiple : ¬ Nat.pow 2 32 ∣ number) :
    (lineIndex (number - 1) + 1) % UInt32.size = lineIndex (number - 1) + 1 := by
  have hpow : Nat.pow 2 32 = 4294967296 := rfl
  have hsize : UInt32.size = 4294967296 := rfl
  rw [hpow] at hmultiple
  rw [lineIndex, hpow, hsize]
  omega

section Run

variable {files : FileTree} {cwd path : Path} {name text : String} {p : Project} {number : Nat}
  (hp : Project.governing files (cwd.join ⟨name⟩) = .ok p)
  (hsuite : p.isSuite (cwd.join ⟨name⟩) = true)
  (hread : files.readText (cwd.join ⟨name⟩) = .ok text)
  (hcount : (Suite.document text (some (cwd.join ⟨name⟩)) .suite).nodeCount ≤ UInt32.size)
  (hnumber : number < Nat.pow 2 64) (hmultiple : ¬ Nat.pow 2 32 ∣ number)
include hp hsuite hread hcount hnumber hmultiple

/-- The subcommands act on the owner of the line that is left of the number in 32 bits. -/
theorem exists_isOwner_lineIndex_actsOn :
    ∃ owner, Suite.IsOwner text.toList (lineIndex (number - 1)) owner ∧
      ActsOn files cwd name number p owner := by
  have htarget := Target.ofArg_line name hnumber
  obtain ⟨bytes, hfind, -⟩ := FileTree.readText_eq_ok_iff.1 hread
  have hresolve : resolve files cwd ⟨name⟩ = .ok (cwd.join ⟨name⟩) :=
    Analyze.resolve_eq_ok hfind
  have hopen := Analyze.openProject_eq_ok_iff.2 hp
  have hfiles := Project.files_of_governing hp
  have hdir : files.isDirAt (cwd.join ⟨name⟩) = false := FileTree.isDirAt_of_find_eq_ok hfind
  obtain ⟨owner, hmarker, howner⟩ :=
    Project.markerAt_of_isSuite hsuite (hfiles ▸ hread) hcount (lineIndex (number - 1))
  refine ⟨owner, howner, ?_, ?_⟩
  · intro merged
    unfold Analyze.run
    simp only [htarget, hresolve, hopen, if_neg (Bool.eq_false_iff.1 hdir)]
    rw [if_neg Bool.false_ne_true, if_pos trivial]
    simp only [Analyze.verboseFile, hmarker, Printout.ofResult]
    cases owner with
    | some m => rfl
    | none => rfl
  · intro json
    have hfind : PrintCommand.find files cwd (name ++ ":" ++ toString number) =
        PrintCommand.commandFor p (cwd.join ⟨name⟩) (some (number - 1)) := by
      unfold PrintCommand.find
      simp only [htarget, hresolve]
      exact congrArg
        (· >>= fun p => PrintCommand.commandFor p (cwd.join ⟨name⟩) (some (number - 1))) hopen
    unfold PrintCommand.run
    simp only [hfind, PrintCommand.commandFor, Project.commandAt, if_pos hsuite, hmarker]
    cases owner with
    | some m => rfl
    | none =>
        have hshown := lineIndex_add_one_mod hmultiple
        change Printout.failed (.project (.noRunnable
          ((lineIndex (number - 1) + 1) % UInt32.size))) = _
        rw [hshown]

/-- Every line has an owner, which may be none, and from the last line on it is that of the last
line. The subcommands act on it if the line fits in 32 bits, and in general exactly if it also owns
what is left of the line in 32 bits. The file has up to 2 ^ 32 nodes, and the line is not one for
which the error would be about line 2 ^ 32, for which 32 bits are not enough. -/
theorem exists_isOwner_actsOn_iff :
    ∃ owner, Suite.IsOwner text.toList (number - 1) owner ∧
      (∀ last, (∀ l ∈ Suite.scanned text.toList, l.number ≤ last) → last ≤ number - 1 →
        Suite.IsOwner text.toList last owner) ∧
      (number ≤ Nat.pow 2 32 → ActsOn files cwd name number p owner) ∧
      (ActsOn files cwd name number p owner ↔
        Suite.IsOwner text.toList ((number - 1) % Nat.pow 2 32) owner) := by
  have hfiles := Project.files_of_governing hp
  obtain ⟨owner, -, howner⟩ := Project.markerAt_of_isSuite hsuite (hfiles ▸ hread) hcount
    (number - 1)
  obtain ⟨found, hfound, hacts⟩ :=
    exists_isOwner_lineIndex_actsOn hp hsuite hread hcount hnumber hmultiple
  rw [lineIndex] at hfound
  refine ⟨owner, howner, ?_, ?_, ?_⟩
  · intro last hlast hle
    exact (Suite.isOwner_iff_of_le hlast hle).1 howner
  · intro hsmall
    have hpos : 0 < Nat.pow 2 32 := by decide
    rw [Nat.mod_eq_of_lt (by omega)] at hfound
    rwa [howner.unique hfound]
  · constructor
    · intro h
      rwa [h.unique hacts]
    · intro h
      rwa [h.unique hfound]

end Run

/-- A tree with one suite, which has one task. -/
def taskTree : FileTree := .dir [("a.robot", .file (.ok "*** Tasks ***\nCase\n".toUTF8))]

/-- The marker of the task. -/
def taskMarker : Marker := .runCase ⟨14, 18⟩ ⟨1, 0⟩ .tasks "Case"

theorem governing_taskTree :
    Project.governing taskTree (Path.join ⟨"/"⟩ ⟨"a.robot"⟩) = .ok ⟨taskTree, .default⟩ := by
  have hjoin : Path.join ⟨"/"⟩ ⟨"a.robot"⟩ = ⟨"/a.robot"⟩ := by decide
  have hfile : Config.findFile? taskTree ⟨"/a.robot"⟩ = none := by
    rw [Config.findFile?, Config.searchPath, if_pos (by decide),
      Path.ancestors_of_parent?_eq_some (q := ⟨"/"⟩) (by decide),
      Path.ancestors_of_parent?_eq_none (by decide)]
    decide
  rw [hjoin]
  exact Project.governing_of_findFile?_eq_none hfile

theorem isSuite_taskTree :
    Project.isSuite ⟨taskTree, .default⟩ (Path.join ⟨"/"⟩ ⟨"a.robot"⟩) = true := by
  decide

theorem readText_taskTree :
    taskTree.readText (Path.join ⟨"/"⟩ ⟨"a.robot"⟩) = .ok "*** Tasks ***\nCase\n" := by
  rfl

theorem scan_taskTree :
    Suite.scan "*** Tasks ***\nCase\n".toList = [.runAll ⟨0, 13⟩ ⟨0, 0⟩ .tasks, taskMarker] ∧
      (Suite.headings "*** Tasks ***\nCase\n".toList).map Suite.ScanLine.number = [0] := by
  decide

theorem nodeCount_taskTree :
    (Suite.document "*** Tasks ***\nCase\n" (some (Path.join ⟨"/"⟩ ⟨"a.robot"⟩)) .suite).nodeCount ≤
      UInt32.size :=
  Nat.le_trans (Suite.nodeCount_document_le _ _ _) (by decide)

theorem exists_isOwner_actsOn_iff_taskTree :
    ¬ Nat.pow 2 32 ∣ Nat.pow 2 64 - 1 ∧
      ∃ owner, Suite.IsOwner "*** Tasks ***\nCase\n".toList (Nat.pow 2 64 - 1 - 1) owner ∧
        (ActsOn taskTree ⟨"/"⟩ "a.robot" (Nat.pow 2 64 - 1) ⟨taskTree, .default⟩ owner ↔
          Suite.IsOwner "*** Tasks ***\nCase\n".toList ((Nat.pow 2 64 - 1 - 1) % Nat.pow 2 32)
            owner) := by
  have hnumber : Nat.pow 2 64 - 1 < Nat.pow 2 64 := by decide
  have hmultiple : ¬ Nat.pow 2 32 ∣ Nat.pow 2 64 - 1 := by decide
  obtain ⟨owner, howner, -, -, hacts⟩ := exists_isOwner_actsOn_iff governing_taskTree
    isSuite_taskTree readText_taskTree nodeCount_taskTree hnumber hmultiple
  exact ⟨hmultiple, owner, howner, hacts⟩

/-- Line 2 ^ 32 + 1 belongs to the task, which is the last thing in the file, but it is the first
line that is looked up. -/
theorem not_actsOn_taskTree :
    Suite.IsOwner "*** Tasks ***\nCase\n".toList (Nat.pow 2 32 + 1 - 1) (some taskMarker) ∧
      ¬ ActsOn taskTree ⟨"/"⟩ "a.robot" (Nat.pow 2 32 + 1) ⟨taskTree, .default⟩
        (some taskMarker) := by
  obtain ⟨hscan, hheadings⟩ := scan_taskTree
  constructor
  · rw [Suite.IsOwner, hscan]
    refine ⟨⟨⟨List.mem_cons_of_mem _ List.mem_cons_self, by decide⟩, ?_⟩, ?_⟩
    · intro n hn _
      rcases List.mem_pair.1 hn with rfl | rfl <;> decide
    · intro g hg _
      have hzero := List.mem_map_of_mem (f := Suite.ScanLine.number) hg
      rw [hheadings, List.mem_singleton] at hzero
      rw [hzero]
      exact Nat.zero_le _
  · intro h
    have hmultiple : ¬ Nat.pow 2 32 ∣ Nat.pow 2 32 + 1 := by decide
    obtain ⟨found, hfound, hacts⟩ := exists_isOwner_lineIndex_actsOn governing_taskTree
      isSuite_taskTree readText_taskTree nodeCount_taskTree
      (show Nat.pow 2 32 + 1 < Nat.pow 2 64 by decide) hmultiple
    obtain rfl := h.unique hacts
    exact absurd hfound.1.1.2 (by decide)

end Cli

end RunMarkers
