import MessagePlacement.Proofs.Files.Making

/-!
# Writing below directories

A file can be written, with the directories above it made as needed, exactly at the paths that
`IsWritable` describes: the way to the file is open, and where it ends there is neither a directory nor
one that is made on the way.  What has been written is read afterwards.  Everything else stays as it
was, except that there are directories on the way where nothing was.
-/

namespace MessagePlacement

namespace FileSystem

variable {fs fs' : FileSystem} {here ss : List String} {p : Path}

/-- The location that a path leads to, whatever is there. -/
def locationOf (fs : FileSystem) (p : Path) : List String :=
  destination (fs.startOf p) p.segments

theorem AddsDirectories.locationOf_eq (h : fs.AddsDirectories fs' here ss) (p : Path) :
  fs'.locationOf p = fs.locationOf p
  := by
  rw [locationOf, locationOf, h.startOf_eq]

/-- That a file can be written, with the directories above it. -/
structure IsWritable (fs : FileSystem) (p : Path) : Prop where
  valid : p.IsValid
  short : p.name.utf8ByteSize ≤ 255
  canPass : fs.CanPass (fs.startOf p) p.parent.segments
  not_directory : ¬ fs.isDirectoryAt (fs.locationOf p)
  not_above (front : List String) : front <+: p.parent.segments →
    destination (fs.startOf p) front ≠ fs.locationOf p

theorem of_resolve {spot : Spot} (h : fs.resolve p = .ok spot) :
  spot = .present (fs.locationOf p)
    ∨ spot = .absent (fs.locationOf p) ∧ fs.entry? (fs.locationOf p) = none
  := by
  obtain ⟨-, hwalk⟩ := resolve_eq_ok_iff.mp h
  rw [locationOf]
  rcases List.eq_nil_or_concat' p.segments with hnil | ⟨ss, s, hsegments⟩
  · rw [hnil] at hwalk ⊢
    exact .inl (Except.ok.inj hwalk).symm
  · rw [hsegments] at hwalk ⊢
    rw [destination_concat]
    obtain ⟨-, -, ⟨hspot, -⟩ | ⟨hspot, -, hnone⟩⟩ :=
      walk_singleton_eq_ok_iff.mp (passes_of_walk hwalk).2
    · exact .inl hspot
    · exact .inr ⟨hspot, hnone⟩

/-- A path leads somewhere when the way to its last segment is passed. -/
theorem exists_resolve_iff :
  (∃ spot, fs.resolve p = .ok spot)
    ↔ p.IsValid ∧ p.name.utf8ByteSize ≤ 255
      ∧ (p.segments ≠ [] → fs.Passes (fs.startOf p) p.parent.segments)
  := by
  simp only [resolve_eq_ok_iff, exists_and_left]
  apply and_congr_right
  intro hvalid
  rcases List.eq_nil_or_concat' p.segments with hnil | ⟨ss, s, hsegments⟩
  · simp [hnil, walk, Path.name]
  · have hname : p.name = s := by rw [Path.name, hsegments, List.getLastD_concat]
    have hparent : p.parent.segments = ss := by rw [Path.parent, hsegments, List.dropLast_concat]
    have hne : ss ++ [s] ≠ [] := List.append_ne_nil_of_right_ne_nil _ (List.cons_ne_nil _ _)
    rw [hname, hparent, hsegments, exists_walk_concat_iff, and_comm]
    simp only [ne_eq, hne, not_false_eq_true, true_implies]

theorem write_eq_ok_iff {content : ByteArray} :
  fs.write p content = .ok fs'
    ↔ (∃ spot, fs.resolve p = .ok spot) ∧ ¬ fs.isDirectoryAt (fs.locationOf p)
      ∧ fs.set (fs.locationOf p) (.file content) = fs'
  := by
  rw [write, bind_eq_ok_iff, exists_and_right.symm]
  apply exists_congr
  intro spot
  apply and_congr_right
  intro hspot
  rcases of_resolve hspot with rfl | ⟨rfl, hnone⟩
  · dsimp only
    split_ifs with hdirectory
    · simp [hdirectory]
    · simp [hdirectory]
  · simp [isDirectoryAt_iff, hnone]

/-- What is written is read. -/
theorem read_of_write {content : ByteArray} (h : fs.write p content = .ok fs') :
  fs'.read p = .ok content
  := by
  obtain ⟨hspot, hnew, rfl⟩ := write_eq_ok_iff.mp h
  have hne := ne_nil_of_not_isDirectoryAt hnew
  have hspot' : ∃ spot, (fs.set (fs.locationOf p) (.file content)).resolve p = .ok spot := by
    rw [exists_resolve_iff] at hspot ⊢
    obtain ⟨hvalid, hshort, hpasses⟩ := hspot
    refine ⟨hvalid, hshort, ?_⟩
    intro hsegments
    refine ⟨(hpasses hsegments).short, ?_⟩
    intro front hfront
    have hdirectory := (hpasses hsegments).isDirectoryAt front hfront
    -- The directories on the way are not where the file is.
    rw [isDirectoryAt_iff] at hdirectory ⊢
    rw [entry?_set hne, if_neg]
    · exact hdirectory
    · intro hlocation
      exact hnew (hlocation ▸ isDirectoryAt_iff.mpr hdirectory)
  obtain ⟨spot, hspot'⟩ := hspot'
  have hentry : FileSystem.entry? (fs.set (fs.locationOf p) (.file content)) (fs.locationOf p)
      = some (.file content) := by
    rw [entry?_set hne, if_pos rfl]
  have hlocation : (fs.set (fs.locationOf p) (.file content)).locationOf p = fs.locationOf p := rfl
  rw [read, hspot']
  rcases of_resolve hspot' with rfl | ⟨-, hnone⟩
  · rw [hlocation]
    simp only [bind, Except.bind, hentry]
  · rw [hlocation, hentry] at hnone
    cases hnone

theorem writeBelow_eq_ok_iff {content : ByteArray} :
  fs.writeBelow p content = (fs', .ok ())
    ↔ ∃ made, fs.makeDirectories p.parent = (made, .ok ()) ∧ made.write p content = .ok fs'
  := by
  rw [writeBelow]
  split
  · rename_i made e hmake
    simp [hmake]
  · rename_i made hmake
    rw [hmake]
    split
    · rename_i written hwrite
      simp [hwrite]
    · rename_i e hwrite
      simp [hwrite]

/-- When the directories above a path are made, a file can be written at it exactly if it could be
before, and is then at the location of the path. -/
theorem write_of_makeDirectories {made : FileSystem} {content : ByteArray}
    (h : fs.makeDirectories p.parent = (made, .ok ())) :
  made.write p content = .ok fs'
    ↔ fs.IsWritable p ∧ made.set (fs.locationOf p) (.file content) = fs'
  := by
  obtain ⟨hadds, hdirectories⟩ := of_makeDirectories h
  have hpasses := (hdirectories rfl).2
  have hpass := hadds.canPass_iff.mp hpasses.canPass
  rw [startOf_parent] at hadds hpasses hpass
  have hnew : ¬ made.isDirectoryAt (fs.locationOf p)
      ↔ ¬ fs.isDirectoryAt (fs.locationOf p)
        ∧ ∀ front, front <+: p.parent.segments
          → destination (fs.startOf p) front ≠ fs.locationOf p := by
    rw [hadds.isDirectoryAt_iff hpasses]
    push Not
    rfl
  rw [write_eq_ok_iff, exists_resolve_iff, hadds.startOf_eq, hadds.locationOf_eq, hnew]
  constructor
  · rintro ⟨⟨hvalid, hshort, -⟩, ⟨hdirectory, habove⟩, hset⟩
    exact ⟨⟨hvalid, hshort, hpass, hdirectory, habove⟩, hset⟩
  · rintro ⟨⟨hvalid, hshort, -, hdirectory, habove⟩, hset⟩
    exact ⟨⟨hvalid, hshort, fun _ => hpasses⟩, ⟨hdirectory, habove⟩, hset⟩

/-- A file can be written exactly at the writable paths. -/
theorem exists_writeBelow_iff {content : ByteArray} :
  (∃ fs', fs.writeBelow p content = (fs', .ok ())) ↔ fs.IsWritable p
  := by
  simp only [writeBelow_eq_ok_iff]
  constructor
  · rintro ⟨fs', made, hmake, hwrite⟩
    exact ((write_of_makeDirectories hmake).mp hwrite).1
  · intro h
    obtain ⟨made, hmake⟩ := exists_makeDirectories_iff.mpr ⟨h.valid.parent, h.canPass⟩
    exact ⟨_, made, hmake, (write_of_makeDirectories hmake).mpr ⟨h, rfl⟩⟩

/-- What has been written is read, and elsewhere there are at most new directories. -/
theorem of_writeBelow {content : ByteArray} (h : fs.writeBelow p content = (fs', .ok ())) :
  fs'.read p = .ok content
    ∧ ∀ location, location ≠ fs.locationOf p → fs'.entry? location = fs.entry? location
      ∨ fs.entry? location = none ∧ fs'.entry? location = some .directory
  := by
  obtain ⟨made, hmake, hwrite⟩ := writeBelow_eq_ok_iff.mp h
  refine ⟨read_of_write hwrite, ?_⟩
  intro location hlocation
  obtain ⟨hadds, -⟩ := of_makeDirectories hmake
  obtain ⟨-, hnew, rfl⟩ := write_eq_ok_iff.mp hwrite
  rw [hadds.locationOf_eq] at hnew ⊢
  rw [entry?_set (ne_nil_of_not_isDirectoryAt hnew), if_neg hlocation]
  rcases hadds.entry?_cases location with heq | ⟨hnone, hsome, -⟩
  · exact .inl heq
  · exact .inr ⟨hnone, hsome⟩

end FileSystem

end MessagePlacement
