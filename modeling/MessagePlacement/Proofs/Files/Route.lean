import MessagePlacement.Proofs.Outcome
import MessagePlacement.Files.FileSystem
import MessagePlacement.Text.Utf8

/-!
# The route of a path

What a path leads to, and what is read there, depends on the files only at the locations that its
segments lead through.  Without two dots among them these are beginnings of the location that the
path spells out, so that a path to one file of a directory does not depend on another file in it,
or on what is below that.
-/

namespace MessagePlacement

namespace FileSystem

/-- The locations that segments lead through from a location. -/
def route : List String → List String → List (List String)
  | here, [] => [here]
  | here, s :: ss =>
    here :: if s = ".." then route here.dropLast ss else route (here ++ [s]) ss

/-- The locations that a path leads through. -/
def routeOf (fs : FileSystem) (p : Path) : List (List String) :=
  route (if p.isAbsolute then [] else fs.workingDirectory) p.segments

/-- `HasText fs p text`: the file at a path can be read, and its bytes encode a text. -/
def HasText (fs : FileSystem) (p : Path) (text : String) : Prop :=
  ∃ content, fs.read p = .ok content ∧ Text.readLines? content = some text

/-- That two file systems have the same at a path, as far as searching and reading can tell. -/
structure AgreeAt (fs fs' : FileSystem) (p : Path) : Prop where
  isPresent_eq : fs'.isPresent p = fs.isPresent p
  read_eq : fs'.read p = fs.read p

theorem mem_route_self (here segments : List String) :
  here ∈ route here segments
  := by
  cases segments with
  | nil => apply List.mem_singleton_self
  | cons s ss => apply List.mem_cons_self

theorem prefix_of_mem_route
    {here segments location : List String} (hup : ".." ∉ segments)
    (h : location ∈ route here segments) :
  location <+: here ++ segments
  := by
  induction segments generalizing here with
  | nil =>
      rw [List.mem_singleton.mp h]
      apply List.prefix_append
  | cons s ss ih =>
      obtain ⟨hs, hss⟩ := List.ne_and_not_mem_of_not_mem_cons hup
      rw [route, if_neg hs.symm, List.mem_cons] at h
      rcases h with rfl | h
      · apply List.prefix_append
      · rw [List.append_cons]
        exact ih hss h

section Agreement

variable {fs fs' : FileSystem}

theorem isDirectoryAt_congr {location : List String}
    (h : fs'.entry? location = fs.entry? location) :
  fs'.isDirectoryAt location = fs.isDirectoryAt location
  := by
  rw [isDirectoryAt, isDirectoryAt, h]

/-- What segments lead to depends on the files only at the locations on the way. -/
theorem walk_congr
    {here segments : List String}
    (h : ∀ location ∈ route here segments, fs'.entry? location = fs.entry? location) :
  fs'.walk here segments = fs.walk here segments
  := by
  induction segments generalizing here with
  | nil => rfl
  | cons s ss ih =>
      have hhere := isDirectoryAt_congr (h here (mem_route_self ..))
      unfold walk
      rw [hhere]
      by_cases hup : s = ".."
      · rw [route, if_pos hup] at h
        rw [if_pos hup, if_pos hup, ih fun l hl => h l (List.mem_cons_of_mem _ hl)]
      · rw [route, if_neg hup] at h
        have hrest := ih fun l hl => h l (List.mem_cons_of_mem _ hl)
        have hnext := h (here ++ [s]) (List.mem_cons_of_mem _ (mem_route_self ..))
        rw [if_neg hup, if_neg hup, hnext]
        cases fs.entry? (here ++ [s]) with
        | none => cases ss <;> rfl
        | some e => simp only [hrest]

theorem mem_route_of_walk
    {here segments location : List String} (h : fs.walk here segments = .ok (.present location)) :
  location ∈ route here segments
  := by
  induction segments generalizing here with
  | nil =>
      cases h
      apply List.mem_singleton_self
  | cons s ss ih =>
      unfold walk at h
      rw [route]
      apply List.mem_cons_of_mem
      split at h
      · cases h
      · split at h
        · rename_i hup
          rw [if_pos hup]
          exact ih h
        · rename_i hup
          rw [if_neg hup]
          split at h
          · cases h
          · split at h
            · exact ih h
            · cases h
            · cases h

variable {p : Path}

theorem resolve_congr
    (hbase : fs'.workingDirectory = fs.workingDirectory)
    (h : ∀ location ∈ fs.routeOf p, fs'.entry? location = fs.entry? location) :
  fs'.resolve p = fs.resolve p
  := by
  rw [resolve, resolve, hbase, walk_congr h]

theorem mem_routeOf_of_resolve
    {location : List String} (h : fs.resolve p = .ok (.present location)) :
  location ∈ fs.routeOf p
  := by
  rw [resolve] at h
  split at h
  · cases h
  · split at h
    · cases h
    · exact mem_route_of_walk h

/-- Files that agree at the locations that a path leads through agree at the path. -/
theorem agreeAt_of_routeOf
    (hbase : fs'.workingDirectory = fs.workingDirectory)
    (h : ∀ location ∈ fs.routeOf p, fs'.entry? location = fs.entry? location) :
  AgreeAt fs fs' p
  := by
  have hspot := resolve_congr hbase h
  constructor
  · rw [isPresent, isPresent, hspot]
  · rw [read, read, hspot]
    cases hspot' : fs.resolve p with
    | error e => rfl
    | ok spot =>
        cases spot with
        | absent location => rfl
        | present location =>
            have hentry := h location (mem_routeOf_of_resolve hspot')
            simp only [bind, Except.bind, hentry]

end Agreement

section Presence

variable {fs : FileSystem} {p : Path}

theorem isPresent_eq_true_iff :
  fs.isPresent p = .ok true ↔ ∃ location, fs.resolve p = .ok (.present location)
  := by
  rw [isPresent]
  constructor
  · intro h
    split at h
    · exact ⟨_, ‹_›⟩
    · cases h
    · cases h
    · cases h
  · rintro ⟨location, h⟩
    rw [h]

/-- Whether something is at a path can only not be told because of a name that is too long. -/
theorem eq_nameTooLong_of_isPresent {e : FileError} (h : fs.isPresent p = .error e) :
  e = .nameTooLong
  := by
  rw [isPresent] at h
  split at h
  · cases h
  · cases h
  · cases h
    rfl
  · cases h

/-- What a path leads to is a file, which can be read, or else a directory. -/
theorem read_of_isPresent (h : fs.isPresent p = .ok true) :
  (∃ content, fs.read p = .ok content) ∨ fs.read p = .error .isADirectory
  := by
  obtain ⟨location, hspot⟩ := isPresent_eq_true_iff.mp h
  simp only [read, hspot, bind, Except.bind]
  cases fs.entry? location with
  | none => exact .inr rfl
  | some e =>
      cases e with
      | directory => exact .inr rfl
      | file content => exact .inl ⟨content, rfl⟩

theorem isPresent_of_read {content : ByteArray} (h : fs.read p = .ok content) :
  fs.isPresent p = .ok true
  := by
  obtain ⟨spot, hspot, hcontent⟩ := bind_eq_ok_iff.mp h
  cases spot with
  | absent location => cases hcontent
  | present location => exact isPresent_eq_true_iff.mpr ⟨location, hspot⟩

/-- The text of a file is the only one that it has. -/
theorem HasText.unique {text text' : String} (h : fs.HasText p text) (h' : fs.HasText p text') :
  text' = text
  := by
  obtain ⟨content, hread, htext⟩ := h
  obtain ⟨content', hread', htext'⟩ := h'
  obtain rfl := Except.ok.inj (hread.symm.trans hread')
  exact Option.some.inj (htext'.symm.trans htext)

theorem HasText.isPresent {text : String} (h : fs.HasText p text) :
  fs.isPresent p = .ok true
  := by
  obtain ⟨content, hread, -⟩ := h
  exact isPresent_of_read hread

end Presence

theorem AgreeAt.hasText_iff {fs fs' : FileSystem} {p : Path} {text : String}
    (h : fs.AgreeAt fs' p) :
  fs'.HasText p text ↔ fs.HasText p text
  := by
  rw [HasText, HasText, h.read_eq]

end FileSystem

end MessagePlacement
