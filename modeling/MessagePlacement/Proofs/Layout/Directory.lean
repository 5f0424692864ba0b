import MessagePlacement.Proofs.Layout.Contents
import MessagePlacement.Proofs.Plan.Message

/-!
# The directory of a message

In a folded layout the file of a message has the segments of its name from the fold level on:
`fileSegments ds d` are these, the last of them is the simple name when none is given, and the
others are the directory.  Of any other id the directory is the empty one.
-/

namespace MessagePlacement

open Text

/-- The segments of the name of a message from its fold level on. -/
def fileSegments (ds : List Declaration) (d : Declaration) : List String :=
  d.segments.drop (foldDepth ds d.segments - 1)

variable {ds : List Declaration} {d : Declaration}

theorem fileSegments_ne_nil (hd : d ∈ ds) :
  fileSegments ds d ≠ []
  := by
  rw [fileSegments, Ne, List.drop_eq_nil_iff]
  apply Nat.not_le_of_lt (foldDepth_lt hd)

theorem mem_segments_of_mem_fileSegments {s : String} (hs : s ∈ fileSegments ds d) :
  s ∈ d.segments
  := List.mem_of_mem_drop hs

theorem isSegment_of_mem_fileSegments {s : String} (hs : s ∈ fileSegments ds d) :
  IsSegment '.' s
  := Declaration.isSegment_of_mem_segments (mem_segments_of_mem_fileSegments hs)

/-- The last of the file segments is the last segment of the name. -/
theorem getLast?_fileSegments (hd : d ∈ ds) :
  (fileSegments ds d).getLast? = d.segments.getLast?
  := by
  rw [fileSegments, List.getLast?_drop, if_neg (Nat.not_le_of_lt (foldDepth_lt hd))]

/-- A message that is passed over has no directory above its file. -/
theorem IsPassedOver.dropLast_fileSegments (h : IsPassedOver ds d) :
  (fileSegments ds d).dropLast = []
  := by
  obtain ⟨s, hs⟩ := List.length_eq_one_iff.mp h.1
  rw [fileSegments, hs]
  rfl

namespace Layout.Holds

variable {l : Layout}

/-- The dotted path of a message is the join of its file segments without the last. -/
theorem valueOf_paths (h : l.Holds ds true) (hd : d ∈ ds) :
  Plan.valueOf d.id l.plan.paths = join "." (fileSegments ds d).dropLast
  := by
  rw [Plan.valueOf, h.tabulates_paths.lookup_of_mem h.registry.nodup_ids hd]
  split
  · rename_i hover
    rw [hover.dropLast_fileSegments]
    rfl
  · rfl

/-- An id without a declaration has the empty path. -/
theorem valueOf_paths_of_not_mem (h : l.Holds ds true) {i : Int} (hi : ∀ d ∈ ds, d.id ≠ i) :
  Plan.valueOf i l.plan.paths = ""
  := by
  rw [Plan.valueOf, h.tabulates_paths.lookup_of_not_mem hi]
  rfl

/-- The segments of any path are segments of a name. -/
theorem exists_valueOf_paths (h : l.Holds ds true) (i : Int) :
  ∃ xs, Plan.valueOf i l.plan.paths = join "." xs ∧ ∀ s ∈ xs, ∃ d ∈ ds, s ∈ d.segments
  := by
  by_cases hi : ∃ d ∈ ds, d.id = i
  · obtain ⟨d, hd, rfl⟩ := hi
    use (fileSegments ds d).dropLast, h.valueOf_paths hd
    intro s hs
    use d, hd
    apply mem_segments_of_mem_fileSegments (List.dropLast_subset _ hs)
  · push Not at hi
    use [], h.valueOf_paths_of_not_mem hi
    intro s hs
    cases hs

/-- The segments of the path of a message are its file segments without the last. -/
theorem segments_valueOf_paths (h : l.Holds ds true) (hd : d ∈ ds) :
  segments (Plan.valueOf d.id l.plan.paths) = (fileSegments ds d).dropLast
  := by
  rw [h.valueOf_paths hd, segments_join]
  intro s hs
  apply isSegment_of_mem_fileSegments (List.dropLast_subset _ hs)

/-- The directory of a message is the join of its file segments without the last. -/
theorem protocolPath_eq (h : l.Holds ds true) (hd : d ∈ ds) :
  l.protocolPath d.id = join "/" (fileSegments ds d).dropLast
  := by
  rw [protocolPath, directoryPath, h.segments_valueOf_paths hd]

end Layout.Holds

end MessagePlacement
