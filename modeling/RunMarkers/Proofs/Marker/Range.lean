import RunMarkers.Proofs.Document.Neighbours
import RunMarkers.Proofs.Marker.Gutter
import RunMarkers.Proofs.Marker.Json
import RunMarkers.Proofs.Project

/-!
# The range of markers

The position of a marker is made of numbers of 32 bits, and its span lies in its source
(`Document.fits_of_mem_markers`). A gutter entry keeps the place of a marker. So all that is found in
files whose texts a memory with addresses of 64 bits can hold can be read back from JSON.
-/

namespace RunMarkers

namespace Document

variable {d : Document} {m : Marker}

theorem fits_of_mem_markers (hd : d.IsPlaced) (hm : m ∈ d.markers) : m.span.Fits d.source := by
  rw [markers_eq_filterMap_cursors] at hm
  obtain ⟨c, hc, hm⟩ := List.mem_filterMap.1 hm
  obtain ⟨anchor, later, hchildren, hspan, -⟩ := exists_anchor_of_markerIn? hm
  have hanchor : anchor ∈ c.children.map Cursor.node := by
    rw [Cursor.map_node_children, show c.node.children = anchor :: later from hchildren]
    exact List.mem_cons_self
  obtain ⟨e, he, rfl⟩ := List.mem_map.1 hanchor
  rw [hspan]
  exact hd.fits (node_mem_preorder (mem_cursors_of_mem_children hc he))

theorem inRange_of_mem_markers (hd : d.IsPlaced) (hsize : d.source.size < Nat.pow 2 64)
    (hm : m ∈ d.markers) : m.InRange := by
  have hfits := fits_of_mem_markers hd hm
  have hstop := Nat.lt_of_le_of_lt hfits.stop_le_size hsize
  refine ⟨⟨Nat.lt_of_le_of_lt hfits.start_le_stop hstop, hstop⟩, ?_⟩
  rw [position_of_mem_markers hm]
  exact Position.inRange_narrowed _

theorem mem_markers_of_markerAt {line : Nat} (hm : d.markerAt line = some m) : m ∈ d.markers := by
  rw [markerAt, owner?, Option.filter_eq_some_iff] at hm
  exact List.mem_reverse.1 (List.mem_of_find?_eq_some hm.1)

end Document

theorem Suite.isPlaced_document (text : String) (path : Option Path) (fileKind : FileKind) :
    (document text path fileKind).IsPlaced :=
  Document.isPlaced_of_build (parse_eq_ok text path fileKind)

theorem Gutter.inRange_of_mem_ofMarkers {ms : List Marker} (hms : ∀ m ∈ ms, m.InRange)
    {e : GutterEntry} (he : e ∈ ofMarkers ms) : e.InRange := by
  obtain ⟨first, later, hfirst, hgroup⟩ := exists_ofGroup?_eq_some he
  obtain rfl := Option.some.inj hgroup
  exact hms first hfirst

/-- Addresses of 64 bits reach every byte of each text in the files. -/
def FileTree.FitsInMemory (files : FileTree) : Prop :=
  ∀ path text, files.readText path = .ok text → text.utf8ByteSize < Nat.pow 2 64

namespace Project

variable {p : Project} {path : Path} {d : Document} {m : Marker}

theorem inRange_of_document (hmemory : p.files.FitsInMemory) (hd : p.document path = .ok d)
    (hm : m ∈ d.markers) : m.InRange := by
  obtain ⟨text, hread, rfl⟩ := document_eq_ok_iff.1 hd
  have hsize := hmemory path text hread
  rw [← Text.byteLength_toList] at hsize
  exact Document.inRange_of_mem_markers (Suite.isPlaced_document text (some path) _) hsize hm

theorem inRange_of_markers (hmemory : p.files.FitsInMemory) {ms : List Marker}
    (hms : p.markers path = .ok ms) (hm : m ∈ ms) : m.InRange := by
  obtain ⟨d, hd, hmarkers⟩ := bind_eq_ok_iff.1 hms
  exact inRange_of_document hmemory hd (pure_eq_ok_iff.1 hmarkers ▸ hm)

end Project

end RunMarkers
