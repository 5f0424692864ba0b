import Mathlib.Data.List.Induction
import Mathlib.Data.List.Infix
import MessagePlacement.Files.FileSystem

/-!
# Passing directories

The segments of a path lead from one location to another, whatever is there.  They can be walked when
every location on the way is a directory; a place where nothing is does as well, where a directory can
be made.  No directory is made at the location that the way starts from, or above it.
-/

namespace MessagePlacement

/-- The location that a segment leads to from a location. -/
def advance (here : List String) (s : String) : List String :=
  if s = ".." then here.dropLast else here ++ [s]

/-- The location that segments lead to from a location. -/
def destination (here segments : List String) : List String :=
  segments.foldl advance here

theorem destination_concat (here ss : List String) (s : String) :
  destination here (ss ++ [s]) = advance (destination here ss) s
  := List.foldl_concat ..

namespace FileSystem

/-- The location that a path starts from. -/
def startOf (fs : FileSystem) (p : Path) : List String :=
  if p.isAbsolute then [] else fs.workingDirectory

/-- `fs.Passes here segments`: the segments are no longer than allowed, and every location that they
lead through from `here` is a directory. -/
structure Passes (fs : FileSystem) (here segments : List String) : Prop where
  short (s : String) : s ∈ segments → s.utf8ByteSize ≤ 255
  isDirectoryAt (front : List String) : front <+: segments →
    fs.isDirectoryAt (destination here front)

/-- That a way from `here` can lead through a location: it is a directory, or nothing is there and a
directory can be made. -/
def IsOpen (fs : FileSystem) (here location : List String) : Prop :=
  fs.isDirectoryAt location ∨ fs.entry? location = none ∧ ¬ location <+: here

/-- `fs.CanPass here segments`: the segments are no longer than allowed, and every location that they
lead through from `here` is open. -/
structure CanPass (fs : FileSystem) (here segments : List String) : Prop where
  short (s : String) : s ∈ segments → s.utf8ByteSize ≤ 255
  isOpen (front : List String) : front <+: segments → fs.IsOpen here (destination here front)

variable {fs : FileSystem} {here ss : List String} {s : String}

theorem isDirectoryAt_iff {location : List String} :
  fs.isDirectoryAt location ↔ fs.entry? location = some .directory
  := by
  rw [isDirectoryAt, beq_iff_eq]

/-! ### One segment after the other -/

theorem passes_nil_iff :
  fs.Passes here [] ↔ fs.isDirectoryAt here
  := by
  constructor
  · intro h
    exact h.isDirectoryAt [] (List.prefix_refl _)
  · intro h
    constructor
    · intro s hs
      cases hs
    · intro front hfront
      rw [List.prefix_nil.mp hfront]
      exact h

theorem passes_concat_iff :
  fs.Passes here (ss ++ [s])
    ↔ fs.Passes here ss ∧ s.utf8ByteSize ≤ 255 ∧ fs.isDirectoryAt (destination here (ss ++ [s]))
  := by
  constructor
  · intro h
    refine ⟨⟨?_, ?_⟩, ?_, ?_⟩
    · intro t ht
      exact h.short t (List.mem_append_left _ ht)
    · intro front hfront
      exact h.isDirectoryAt front (hfront.trans (List.prefix_append _ _))
    · exact h.short s (List.mem_append_right _ (List.mem_singleton_self s))
    · exact h.isDirectoryAt _ (List.prefix_refl _)
  · rintro ⟨h, hshort, hlast⟩
    constructor
    · intro t ht
      rcases List.mem_append.mp ht with ht | ht
      · exact h.short t ht
      · rw [List.mem_singleton.mp ht]
        exact hshort
    · intro front hfront
      rcases List.prefix_concat_iff.mp hfront with rfl | hfront
      · exact hlast
      · exact h.isDirectoryAt front hfront

/-- The front of a way that can be passed can be passed. -/
theorem CanPass.of_concat (h : fs.CanPass here (ss ++ [s])) :
  fs.CanPass here ss
  := by
  constructor
  · intro t ht
    exact h.short t (List.mem_append_left _ ht)
  · intro front hfront
    exact h.isOpen front (hfront.trans (List.prefix_append _ _))

/-- What is passed can be passed. -/
theorem Passes.canPass (h : fs.Passes here ss) :
  fs.CanPass here ss
  := ⟨h.short, fun front hfront => .inl (h.isDirectoryAt front hfront)⟩

/-! ### Walks -/

theorem walk_cons (here ss : List String) (s : String) :
  fs.walk here (s :: ss)
    = if !fs.isDirectoryAt here then .error .notADirectory
      else if s = ".." then fs.walk here.dropLast ss
      else if 255 < s.utf8ByteSize then .error .nameTooLong
      else if (fs.entry? (here ++ [s])).isSome then fs.walk (here ++ [s]) ss
      else if ss = [] then .ok (.absent (here ++ [s]))
      else .error .notFound
  := by
  conv_lhs => unfold walk
  cases fs.entry? (here ++ [s]) with
  | some e => rfl
  | none =>
      cases ss with
      | nil => rfl
      | cons t ss => rfl

/-- The outcome of a walk that goes on by one segment. -/
def walkOn (fs : FileSystem) (s : String) : Except FileError Spot → Except FileError Spot
  | .ok (.present location) => fs.walk location [s]
  | .ok (.absent _) => .error .notFound
  | .error e => .error e

theorem walk_concat (here ss : List String) (s : String) :
  fs.walk here (ss ++ [s]) = fs.walkOn s (fs.walk here ss)
  := by
  induction ss generalizing here with
  | nil => rfl
  | cons t ss ih =>
      rw [List.cons_append, walk_cons, walk_cons, ih, ih]
      split
      · rfl
      · split
        · rfl
        · split
          · rfl
          · split
            · rfl
            · rw [if_neg (List.append_ne_nil_of_right_ne_nil _ (List.cons_ne_nil s []))]
              split
              · rfl
              · rfl

/-- A segment leads on from a directory, to something or to a place where nothing is. -/
theorem walk_singleton_eq_ok_iff {spot : Spot} :
  fs.walk here [s] = .ok spot
    ↔ fs.isDirectoryAt here ∧ s.utf8ByteSize ≤ 255
      ∧ (spot = .present (advance here s) ∧ (s = ".." ∨ fs.entry? (advance here s) ≠ none)
        ∨ spot = .absent (advance here s) ∧ s ≠ ".." ∧ fs.entry? (advance here s) = none)
  := by
  have hdots : "..".utf8ByteSize ≤ 255 := by decide
  rw [walk_cons, advance]
  by_cases hhere : fs.isDirectoryAt here
  · by_cases hup : s = ".."
    · simp only [hhere, hup, hdots, walk, Bool.not_true, Bool.false_eq_true, if_false, if_true]
      simp [eq_comm]
    · by_cases hlong : 255 < s.utf8ByteSize
      · simp [hhere, hup, hlong, Nat.not_le_of_lt hlong]
      · cases hentry : fs.entry? (here ++ [s]) with
        | none =>
            simp only [hhere, hup, hlong, Nat.le_of_not_lt hlong, if_false, ne_eq, hentry]
            simp [eq_comm]
        | some e =>
            simp only [hhere, hup, hlong, Nat.le_of_not_lt hlong, walk, if_false, hentry]
            simp [eq_comm]
  · simp [hhere]

/-- What is passed is walked. -/
theorem Passes.walk_eq (h : fs.Passes here ss) :
  fs.walk here ss = .ok (.present (destination here ss))
  := by
  induction ss using List.reverseRecOn with
  | nil => rfl
  | append_singleton ss s ih =>
      obtain ⟨hfront, hshort, hlast⟩ := passes_concat_iff.mp h
      rw [walk_concat, ih hfront, walkOn, walk_singleton_eq_ok_iff, ← destination_concat]
      refine ⟨hfront.isDirectoryAt ss (List.prefix_refl _), hshort, .inl ⟨rfl, .inr ?_⟩⟩
      rw [isDirectoryAt_iff.mp hlast]
      simp

/-- A walk passes all but its last location, and ends at the last. -/
theorem passes_of_walk {spot : Spot} (h : fs.walk here (ss ++ [s]) = .ok spot) :
  fs.Passes here ss ∧ fs.walk (destination here ss) [s] = .ok spot
  := by
  induction ss using List.reverseRecOn generalizing s spot with
  | nil =>
      have hhere := (walk_singleton_eq_ok_iff.mp h).1
      exact ⟨passes_nil_iff.mpr hhere, h⟩
  | append_singleton ss t ih =>
      rw [walk_concat] at h
      cases hspot : fs.walk here (ss ++ [t]) with
      | error e =>
          rw [hspot] at h
          cases h
      | ok spot' =>
          obtain ⟨hfront, hlast⟩ := ih hspot
          rw [hspot] at h
          obtain ⟨-, hshort, ⟨rfl, -⟩ | ⟨rfl, -⟩⟩ := walk_singleton_eq_ok_iff.mp hlast
          · rw [← destination_concat] at h
            have hdirectory := (walk_singleton_eq_ok_iff.mp h).1
            exact ⟨passes_concat_iff.mpr ⟨hfront, hshort, hdirectory⟩, h⟩
          · cases h

/-- A way leads somewhere when all but its last location is passed. -/
theorem exists_walk_concat_iff :
  (∃ spot, fs.walk here (ss ++ [s]) = .ok spot) ↔ fs.Passes here ss ∧ s.utf8ByteSize ≤ 255
  := by
  constructor
  · rintro ⟨spot, hwalk⟩
    obtain ⟨hpasses, hlast⟩ := passes_of_walk hwalk
    exact ⟨hpasses, (walk_singleton_eq_ok_iff.mp hlast).2.1⟩
  · rintro ⟨hpasses, hshort⟩
    have hhere := hpasses.isDirectoryAt ss (List.prefix_refl _)
    simp only [walk_concat, hpasses.walk_eq, walkOn, walk_singleton_eq_ok_iff]
    by_cases hspot : s = ".." ∨ fs.entry? (advance (destination here ss) s) ≠ none
    · exact ⟨_, hhere, hshort, .inl ⟨rfl, hspot⟩⟩
    · obtain ⟨hup, hnone⟩ := not_or.mp hspot
      exact ⟨_, hhere, hshort, .inr ⟨rfl, hup, not_not.mp hnone⟩⟩

/-! ### Open ways -/

theorem advance_prefix_or (here : List String) (s : String) :
  advance here s <+: here ∨ advance here s = here ++ [s]
  := by
  rw [advance]
  split
  · exact .inl (List.dropLast_prefix here)
  · exact .inr rfl

/-- The only location that a single segment climbs out of is the one that it starts from. -/
theorem eq_of_not_prefix_advance {location : List String} (hhere : location <+: here)
    (hnot : ¬ location <+: advance here s) :
  location = here
  := by
  rcases List.eq_nil_or_concat' here with rfl | ⟨front, t, rfl⟩
  · exact List.prefix_nil.mp hhere
  · rcases List.prefix_concat_iff.mp hhere with heq | hfront
    · exact heq
    · have hkeeps : front <+: advance (front ++ [t]) s := by
        rw [advance]
        split
        · rw [List.dropLast_concat]
        · exact (List.prefix_append front [t]).trans (List.prefix_append _ _)
      exact absurd (hfront.trans hkeeps) hnot

/-- A way that passes directories passes all that its end is in, unless its start is in them too. -/
theorem Passes.isDirectoryAt_of_prefix (h : fs.Passes here ss) {location : List String}
    (hlocation : location <+: destination here ss) (hhere : ¬ location <+: here) :
  fs.isDirectoryAt location
  := by
  induction ss using List.reverseRecOn with
  | nil => exact absurd hlocation hhere
  | append_singleton ss s ih =>
      obtain ⟨hfront, -, hlast⟩ := passes_concat_iff.mp h
      rw [destination_concat] at hlocation hlast
      rcases advance_prefix_or (destination here ss) s with hup | hdown
      · exact ih hfront (hlocation.trans hup)
      · rw [hdown, List.prefix_concat_iff] at hlocation
        rcases hlocation with rfl | hlocation
        · rw [← hdown]
          exact hlast
        · exact ih hfront hlocation

/-- A way that passes directories passes all that its start is in, as far as it climbs out of them. -/
theorem Passes.isDirectoryAt_of_left (h : fs.Passes here ss) {location : List String}
    (hhere : location <+: here) (hlocation : ¬ location <+: destination here ss) :
  fs.isDirectoryAt location
  := by
  induction ss using List.reverseRecOn with
  | nil => exact absurd hhere hlocation
  | append_singleton ss s ih =>
      obtain ⟨hfront, -, -⟩ := passes_concat_iff.mp h
      by_cases hbefore : location <+: destination here ss
      · -- The last segment climbs out of the location itself.
        rw [destination_concat] at hlocation
        rw [eq_of_not_prefix_advance hbefore hlocation]
        exact hfront.isDirectoryAt ss (List.prefix_refl _)
      · exact ih hfront hbefore

/-- What is open on a way is a directory, as far as the way before it is passed and something is
there. -/
theorem Passes.isDirectoryAt_of_isOpen (h : fs.Passes here ss)
    (hopen : fs.IsOpen here (destination here (ss ++ [s])))
    (hspot : s = ".." ∨ fs.entry? (destination here (ss ++ [s])) ≠ none) :
  fs.isDirectoryAt (destination here (ss ++ [s]))
  := by
  rcases hopen with hdirectory | ⟨hnone, hhere⟩
  · exact hdirectory
  · rcases hspot with rfl | hentry
    · rw [destination_concat, advance, if_pos rfl] at hhere ⊢
      exact h.isDirectoryAt_of_prefix (List.dropLast_prefix _) hhere
    · exact absurd hnone hentry

/-- A way that can be passed is passed, or something is missing on it. -/
theorem CanPass.passes_or (h : fs.CanPass here ss) :
  fs.Passes here ss ∨ fs.walk here ss = .ok (.absent (destination here ss))
    ∨ fs.walk here ss = .error .notFound
  := by
  induction ss using List.reverseRecOn with
  | nil =>
      left
      rw [passes_nil_iff]
      rcases h.isOpen [] (List.prefix_refl _) with hdirectory | ⟨-, hhere⟩
      · exact hdirectory
      · exact absurd (List.prefix_refl here) hhere
  | append_singleton ss s ih =>
      have hopen := h.isOpen _ (List.prefix_refl _)
      have hshort := h.short s (List.mem_append_right _ (List.mem_singleton_self s))
      rcases ih h.of_concat with hpasses | habsent | hmissing
      · by_cases hspot : s = ".." ∨ fs.entry? (destination here (ss ++ [s])) ≠ none
        · left
          rw [passes_concat_iff]
          exact ⟨hpasses, hshort, hpasses.isDirectoryAt_of_isOpen hopen hspot⟩
        · right
          left
          obtain ⟨hup, hnone⟩ := not_or.mp hspot
          rw [destination_concat] at hnone ⊢
          rw [walk_concat, hpasses.walk_eq, walkOn, walk_singleton_eq_ok_iff]
          refine ⟨hpasses.isDirectoryAt ss (List.prefix_refl _), hshort, .inr ⟨rfl, hup, ?_⟩⟩
          exact not_not.mp hnone
      · right
        right
        rw [walk_concat, habsent, walkOn]
      · right
        right
        rw [walk_concat, hmissing, walkOn]

end FileSystem

end MessagePlacement
