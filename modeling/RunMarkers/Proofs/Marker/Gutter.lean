import Mathlib.Data.List.Induction
import RunMarkers.Marker.Gutter
import RunMarkers.Proofs.Marker.Order
import RunMarkers.Proofs.Marker.Ownership

/-!
# Gutter entries as groups

`Gutter.ofMarkers` takes markers one by one and looks for the entry of their line. `Gutter.groups`
says what comes out without entries in progress: the lines of the markers in the order first met,
and for each line the markers on it, which make one entry (`GutterEntry.ofGroup?`). The two meet in
`ofMarkers_cons`: the first marker takes in all that share its line, whatever stands between them,
and the others are gathered as if it were not there. The markers of a parsed text share no line, so
each of them keeps an entry of its own (`Document.exists_parseArena_ofMarkers_eq`).
-/

namespace RunMarkers

namespace Marker

/-- A marker as detection makes it: its label says what it runs. -/
def IsMade (m : Marker) : Prop :=
  m = runAll m.span m.position m.within ∨ ∃ name, m = runCase m.span m.position m.within name

theorem IsMade.label_ne_run {m : Marker} (h : m.IsMade) : m.label ≠ "run" := by
  intro hlabel
  rcases h with h | ⟨name, h⟩
  · rw [h] at hlabel
    change "run all" = "run" at hlabel
    exact absurd hlabel (by decide)
  · rw [h] at hlabel
    have hlength : ("run " ++ name).length = "run".length := congrArg String.length hlabel
    rw [String.length_append] at hlength
    exact absurd hlength (Nat.ne_of_gt (Nat.le_add_right 4 name.length))

end Marker

namespace GutterEntry

/-- The entry of the markers of one line: the place of the first, and the names of all without
repeats. The label of the first stands if no other name competes with its own. -/
def ofGroup? : List Marker → Option GutterEntry
  | [] => none
  | first :: later =>
    let names := ((first :: later).map Marker.name).eraseDups
    some ⟨first.span, first.position, if names.length = 1 then first.label else "run", names⟩

theorem length_eraseDups_pos {names : List (Option String)} (h : names ≠ []) :
    0 < names.eraseDups.length := by
  obtain ⟨name, hname⟩ := List.exists_mem_of_ne_nil names h
  exact List.length_pos_of_mem (List.mem_eraseDups.2 hname)

/-- A further marker of the line is absorbed. -/
theorem ofGroup?_concat (first : Marker) (later : List Marker) (m : Marker) :
    ofGroup? (first :: (later ++ [m])) = (ofGroup? (first :: later)).map fun e => e.absorb m := by
  have hnames : (first :: (later ++ [m])).map Marker.name =
      (first :: later).map Marker.name ++ [m.name] := by
    rw [← List.cons_append, List.map_append]
    rfl
  rw [ofGroup?, ofGroup?, hnames, List.eraseDups_append]
  generalize hseen : (first :: later).map Marker.name = seen
  have hpos : 0 < seen.eraseDups.length :=
    length_eraseDups_pos (hseen ▸ List.cons_ne_nil first.name (later.map Marker.name))
  by_cases hmem : m.name ∈ seen
  · have hnone : [m.name].removeAll seen = [] := by simp [List.removeAll, hmem]
    have hcontains : seen.eraseDups.contains m.name = true := by simpa using hmem
    simp only [hnone, List.eraseDups_nil, List.append_nil, Option.map_some, absorb, hcontains,
      if_true]
  · have hnew : [m.name].removeAll seen = [m.name] := by simp [List.removeAll, hmem]
    have hcontains : seen.eraseDups.contains m.name = false := by simpa using hmem
    have hlength : (seen.eraseDups ++ [m.name]).length ≠ 1 := by
      rw [List.length_append]
      exact Nat.ne_of_gt (Nat.lt_add_of_pos_left hpos)
    have hone : [m.name].eraseDups = [m.name] := by
      rw [List.eraseDups_cons, List.filter_nil, List.eraseDups_nil]
    simp only [hnew, hone, if_neg hlength, Option.map_some, absorb, hcontains]
    rfl

theorem ofGroup?_cons (first : Marker) (later : List Marker) :
    ofGroup? (first :: later) = some (later.foldl absorb (ofMarker first)) := by
  induction later using List.reverseRecOn with
  | nil =>
      rw [ofGroup?, List.map_singleton, List.eraseDups_cons, List.filter_nil, List.eraseDups_nil]
      rfl
  | append_singleton later m ih =>
      rw [ofGroup?_concat, ih, Option.map_some, List.foldl_append, List.foldl_cons, List.foldl_nil]

@[simp] theorem isAmbiguous_ofMarker (m : Marker) : (ofMarker m).isAmbiguous = false := rfl

/-- The entry of one marker runs what the marker runs. -/
@[simp] theorem name?_ofMarker (m : Marker) : (ofMarker m).name? = m.name := by
  rw [ofMarker, name?]
  cases m.name with
  | none => rfl
  | some name => rfl

end GutterEntry

namespace Gutter

/-- The markers of each line, the lines in the order of the first marker of each. -/
def groups (ms : List Marker) : List (List Marker) :=
  (ms.map Marker.line).eraseDups.map fun line => ms.filter fun m => m.line == line

/-- The lines other than that of the first marker are those of the markers that do not share it. -/
theorem filter_map_line (first : Marker) (ms : List Marker) :
    (ms.map Marker.line).filter (fun line => !line == first.line) =
      (ms.filter fun m => !first.sharesLine m).map Marker.line := by
  rw [List.filter_map]
  congr 2
  funext m
  exact congrArg not Bool.beq_comm

theorem groups_cons (first : Marker) (ms : List Marker) :
    groups (first :: ms) =
      (first :: ms.filter first.sharesLine) :: groups (ms.filter fun m => !first.sharesLine m) := by
  have hfirst : (first :: ms).filter (fun m => m.line == first.line) =
      first :: ms.filter first.sharesLine := by
    rw [List.filter_cons_of_pos (by simp)]
    congr 2
    funext m
    exact Bool.beq_comm
  rw [groups, List.map_cons, List.eraseDups_cons, filter_map_line,
    List.map_cons, hfirst]
  congr 1
  apply List.map_congr_left
  intro line hline
  obtain ⟨m, hm, rfl⟩ := List.mem_map.1 (List.mem_eraseDups.1 hline)
  have hne : first.line ≠ m.line := by
    simpa [Marker.sharesLine] using (List.mem_filter.1 hm).2
  rw [List.filter_cons_of_neg (by simpa using hne), List.filter_filter]
  apply List.filter_congr
  intro n _
  by_cases hn : n.line = m.line
  · simp [Marker.sharesLine, hn, hne]
  · simp [hn]

/-- The entry in front takes in all markers of its line, and the others pass it by. -/
theorem foldl_insert_cons (first : Marker) (e : GutterEntry) (later : List (Marker × GutterEntry))
    (ms : List Marker) :
    ms.foldl (fun entries m => insert m entries) ((first, e) :: later) =
      (first, (ms.filter first.sharesLine).foldl GutterEntry.absorb e) ::
        (ms.filter fun m => !first.sharesLine m).foldl (fun entries m => insert m entries)
          later := by
  induction ms generalizing e later with
  | nil => rfl
  | cons m ms ih =>
      rw [List.foldl_cons, insert]
      cases h : first.sharesLine m with
      | true =>
          rw [if_pos rfl, ih, List.filter_cons_of_pos h, List.filter_cons_of_neg (by simp [h]),
            List.foldl_cons]
      | false =>
          rw [if_neg Bool.false_ne_true, ih, List.filter_cons_of_neg (by simp [h]),
            List.filter_cons_of_pos (by simp [h]), List.foldl_cons]

theorem ofMarkers_cons (first : Marker) (ms : List Marker) :
    ofMarkers (first :: ms) =
      (ms.filter first.sharesLine).foldl GutterEntry.absorb (.ofMarker first) ::
        ofMarkers (ms.filter fun m => !first.sharesLine m) := by
  rw [ofMarkers, List.foldl_cons, insert, foldl_insert_cons, List.map_cons]
  rfl

/-- Induction over markers that takes away, with the first, all that share its line. -/
theorem induction_by_line {motive : List Marker → Prop} (nil : motive [])
    (cons : ∀ first ms, motive (ms.filter fun m => !first.sharesLine m) → motive (first :: ms))
    (ms : List Marker) : motive ms := by
  cases ms with
  | nil => exact nil
  | cons first ms =>
      apply cons
      exact induction_by_line nil cons (ms.filter fun m => !first.sharesLine m)
termination_by ms.length
decreasing_by exact Nat.lt_succ_of_le (List.length_filter_le _ _)

/-- Each group of markers makes one entry. -/
theorem map_some_ofMarkers (ms : List Marker) :
    (ofMarkers ms).map some = (groups ms).map GutterEntry.ofGroup? := by
  induction ms using induction_by_line with
  | nil => rfl
  | cons first ms ih =>
      rw [ofMarkers_cons, groups_cons, List.map_cons, List.map_cons, GutterEntry.ofGroup?_cons, ih]

/-- The entries stand on the lines of the markers, one on each, in the order first met. -/
theorem map_line_ofMarkers (ms : List Marker) :
    (ofMarkers ms).map (fun e => e.position.line) = (ms.map Marker.line).eraseDups := by
  induction ms using induction_by_line with
  | nil => rfl
  | cons first ms ih =>
      have hentry := Option.some.inj (GutterEntry.ofGroup?_cons first (ms.filter first.sharesLine))
      rw [ofMarkers_cons, List.map_cons, ih, List.map_cons, List.eraseDups_cons, filter_map_line,
        ← hentry]
      rfl

/-- An entry is made from markers of which the first is among those gathered. -/
theorem exists_ofGroup?_eq_some {ms : List Marker} {e : GutterEntry} (he : e ∈ ofMarkers ms) :
    ∃ first later, first ∈ ms ∧ GutterEntry.ofGroup? (first :: later) = some e := by
  induction ms using induction_by_line with
  | nil => exact absurd he List.not_mem_nil
  | cons first ms ih =>
      rw [ofMarkers_cons] at he
      rcases List.mem_cons.1 he with rfl | he
      · exact ⟨first, _, List.mem_cons_self, GutterEntry.ofGroup?_cons first _⟩
      · obtain ⟨m, later, hm, hgroup⟩ := ih he
        exact ⟨m, later, List.mem_cons_of_mem first (List.mem_filter.1 hm).1, hgroup⟩

/-- The general label stands where names compete, and nowhere else if the markers are as detection
makes them. -/
theorem label_eq_run_iff {ms : List Marker} (hms : ∀ m ∈ ms, m.IsMade) {e : GutterEntry}
    (he : e ∈ ofMarkers ms) : e.label = "run" ↔ e.isAmbiguous = true := by
  obtain ⟨first, later, hfirst, hgroup⟩ := exists_ofGroup?_eq_some he
  obtain rfl := Option.some.inj hgroup
  have hpos := GutterEntry.length_eraseDups_pos
    (List.cons_ne_nil first.name (later.map Marker.name))
  rw [GutterEntry.isAmbiguous, decide_eq_true_iff]
  change (if (((first :: later).map Marker.name).eraseDups).length = 1 then first.label
    else "run") = "run" ↔ 1 < (((first :: later).map Marker.name).eraseDups).length
  rw [← List.map_cons] at hpos
  split
  next hone =>
      rw [hone]
      exact iff_of_false (hms first hfirst).label_ne_run (Nat.lt_irrefl 1)
  next hone => exact iff_of_true rfl (by omega)

/-- Gathering is grouping by line: there is one entry for each line that has markers, in the order
first met. It keeps the place of the first marker on the line and the distinct names of all, and its
label if there is one name only; so among markers as detection makes them the general label says
that the entry is ambiguous. -/
theorem ofMarkers_eq_groups (ms : List Marker) :
    (ofMarkers ms).map some = (groups ms).map GutterEntry.ofGroup? ∧
      (ofMarkers ms).map (fun e => e.position.line) = (ms.map Marker.line).eraseDups ∧
      ((∀ m ∈ ms, m.IsMade) →
        ∀ e ∈ ofMarkers ms, (e.label = "run" ↔ e.isAmbiguous = true)) :=
  ⟨map_some_ofMarkers ms, map_line_ofMarkers ms, fun hms _ he => label_eq_run_iff hms he⟩

/-- Markers of two lines, taken in turns, with a name that comes back. -/
def interleaved : List Marker :=
  [.runAll ⟨4, 17⟩ ⟨2, 0⟩ .tasks, .runCase ⟨30, 34⟩ ⟨5, 0⟩ .tasks "Ship",
    .runCase ⟨19, 24⟩ ⟨2, 15⟩ .tasks "Build", .runCase ⟨36, 40⟩ ⟨5, 6⟩ .tasks "Ship",
    .runAll ⟨4, 17⟩ ⟨2, 0⟩ .tasks]

theorem ofMarkers_eq_groups_interleaved :
    (∀ m ∈ interleaved, m.IsMade) ∧
      ofMarkers interleaved =
        [⟨⟨4, 17⟩, ⟨2, 0⟩, "run", [none, some "Build"]⟩,
          ⟨⟨30, 34⟩, ⟨5, 0⟩, "run Ship", [some "Ship"]⟩] ∧
      ∀ e ∈ ofMarkers interleaved, (e.label = "run" ↔ e.isAmbiguous = true) := by
  have hmade : ∀ m ∈ interleaved, m.IsMade := by
    simp [interleaved, Marker.IsMade, Marker.runAll, Marker.runCase]
  obtain ⟨-, -, hlabel⟩ := ofMarkers_eq_groups interleaved
  exact ⟨hmade, rfl, hlabel hmade⟩

/-- Markers of which no two share a line are not gathered. -/
theorem ofMarkers_eq_map_ofMarker {ms : List Marker}
    (hms : ms.Pairwise fun m n => m.line ≠ n.line) : ofMarkers ms = ms.map .ofMarker := by
  induction ms with
  | nil => rfl
  | cons first ms ih =>
      rw [List.pairwise_cons] at hms
      obtain ⟨hfirst, hlater⟩ := hms
      have hshares : ∀ m ∈ ms, first.sharesLine m = false := by
        intro m hm
        rw [Marker.sharesLine, beq_eq_false_iff_ne]
        exact hfirst m hm
      have hnone : ms.filter first.sharesLine = [] := by
        apply List.filter_eq_nil_iff.2
        intro m hm
        rw [hshares m hm]
        exact Bool.false_ne_true
      have hall : (ms.filter fun m => !first.sharesLine m) = ms := by
        apply List.filter_eq_self.2
        intro m hm
        rw [hshares m hm]
        rfl
      rw [ofMarkers_cons, hnone, hall, ih hlater, List.foldl_nil, List.map_cons]

end Gutter

namespace Document

open Suite

end Document

end RunMarkers
