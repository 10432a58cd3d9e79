import RunMarkers.Proofs.Command.Json
import RunMarkers.Proofs.FileTree.Write
import RunMarkers.Proofs.Marker.Json
import RunMarkers.Proofs.Project

/-!
# Saving and loading

A configuration that was saved is loaded again as it was, wherever a file can be written. Commands,
markers and gutter entries come back from their JSON.
-/

namespace RunMarkers

namespace Config

variable {c : Config} {files after : FileTree} {path : Path}

theorem load_of_save (h : c.save files path = .ok after) : load after path = .ok c :=
  load_of_readText (FileTree.readText_of_writeText h) c.read?_write

/-- A configuration can be saved where any text can be written, and is loaded again as it was.
Commands, and markers and gutter entries with places in range, come back from their JSON. -/
theorem exists_save_load_eq_ok :
    (∀ (c : Config) (files : FileTree) (path : Path) (text : String) (other : FileTree),
      files.writeText path text = .ok other →
        ∃ after, c.save files path = .ok after ∧ load after path = .ok c) ∧
    (∀ c : Config, read? c.write = some c) ∧
    (∀ c : Command, (Json.read? c.toJson.pretty).map Command.ofJson = some (.ok c)) ∧
    (∀ m : Marker, m.InRange → (Json.read? m.toJson.pretty).map Marker.ofJson = some (.ok m)) ∧
    ∀ e : GutterEntry, e.InRange →
      (Json.read? e.toJson.pretty).map GutterEntry.ofJson = some (.ok e) := by
  refine ⟨?_, read?_write, ?_, ?_, ?_⟩
  · intro c files path text other hother
    obtain ⟨after, hsave⟩ := FileTree.exists_writeText_eq_ok hother c.write
    exact ⟨after, hsave, load_of_save hsave⟩
  · intro c
    exact (Command.roundTrips c).map_read?_pretty
  · intro m hm
    exact (Marker.roundTrips hm).map_read?_pretty
  · intro e he
    exact (GutterEntry.roundTrips he).map_read?_pretty

/-- A configuration with quotes, control characters and other alphabets in it. -/
def unusual : Config where
  runner := {
    command := some "\"robot\" \\ \u0007"
    extraArgs := ["", "größe 🤖"]
    env := .ofList [("Z", "\n"), ("A", "\u007f/")]
    workingDir := none }
  suiteExtensions := []

theorem exists_save_load_eq_ok_unusual :
    (FileTree.dir [("d", .dir [])]).writeText ⟨"/d/c.json"⟩ "" =
        .ok (.dir [("d", .dir [("c.json", .file (.ok "".toUTF8))])]) ∧
      (∃ after, unusual.save (.dir [("d", .dir [])]) ⟨"/d/c.json"⟩ = .ok after ∧
        load after ⟨"/d/c.json"⟩ = .ok unusual) ∧
      (∃ m : Marker, m.InRange ∧ m.span.stop = Nat.pow 2 64 - 1 ∧
        (Json.read? m.toJson.pretty).map Marker.ofJson = some (.ok m)) ∧
      ∃ e : GutterEntry, e.InRange ∧ e.names = [none, some "\u0000"] ∧
        (Json.read? e.toJson.pretty).map GutterEntry.ofJson = some (.ok e) := by
  have hwrite : (FileTree.dir [("d", .dir [])]).writeText ⟨"/d/c.json"⟩ "" =
      .ok (.dir [("d", .dir [("c.json", .file (.ok "".toUTF8))])]) := by rfl
  refine ⟨hwrite, exists_save_load_eq_ok.1 unusual _ _ "" _ hwrite, ?_, ?_⟩
  · have hm : (⟨⟨0, Nat.pow 2 64 - 1⟩, ⟨0, 0⟩, .tasks, "run \"", none⟩ : Marker).InRange := by
      decide
    exact ⟨_, hm, rfl, exists_save_load_eq_ok.2.2.2.1 _ hm⟩
  · have he : (⟨⟨4, 2⟩, ⟨Nat.pow 2 32 - 1, 0⟩, "", [none, some "\u0000"]⟩ : GutterEntry).InRange := by
      decide
    exact ⟨_, he, rfl, exists_save_load_eq_ok.2.2.2.2 _ he⟩

end Config

end RunMarkers
