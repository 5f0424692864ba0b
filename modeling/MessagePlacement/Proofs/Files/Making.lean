import MessagePlacement.Proofs.Files.Passage
import MessagePlacement.Proofs.Lookup
import MessagePlacement.Proofs.Outcome
import MessagePlacement.Proofs.Segments

/-!
# Making directories

A directory is made, with those above it, exactly where the way to it can be passed.  Everything stays
as it was, except that there are directories on the way where nothing was: what is there after some
directories are made is told by `AddsDirectories`, and whatever is said of the files before carries
over along it.
-/

namespace MessagePlacement

/-- That the operating system accepts the text of a path. -/
structure Path.IsValid (p : Path) : Prop where
  no_nul : '\x00' ∉ p.text.toList
  short : p.text.utf8ByteSize ≤ 4095

/-- Above an acceptable path all paths are acceptable. -/
theorem Path.IsValid.of_concat {root s : String} {ss : List String}
    (h : Path.IsValid ⟨root, ss ++ [s]⟩) :
  Path.IsValid ⟨root, ss⟩
  := by
  have htext : Path.text ⟨root, ss ++ [s]⟩ = root ++ Text.join "/" (ss ++ [s]) := by
    simp [Path.text]
  obtain ⟨hnul, hshort⟩ := h
  rw [htext] at hnul hshort
  rcases eq_or_ne ss [] with rfl | hne
  · by_cases hroot : root = ""
    · subst hroot
      exact ⟨by decide, by decide⟩
    · have hself : Path.text ⟨root, []⟩ = root := by simp [Path.text, hroot, Text.join]
      rw [String.toList_append, List.mem_append, not_or] at hnul
      rw [String.utf8ByteSize_append] at hshort
      constructor
      · rw [hself]
        exact hnul.1
      · rw [hself]
        omega
  · have hself : Path.text ⟨root, ss⟩ = root ++ Text.join "/" ss := by simp [Path.text, hne]
    rw [Text.join_concat hne, ← String.append_assoc, ← String.append_assoc] at hnul hshort
    simp only [String.toList_append, List.mem_append, not_or] at hnul
    simp only [String.utf8ByteSize_append] at hshort
    constructor
    · rw [hself, String.toList_append, List.mem_append, not_or]
      exact hnul.1.1
    · rw [hself, String.utf8ByteSize_append]
      omega

theorem Path.IsValid.parent {p : Path} (h : p.IsValid) :
  p.parent.IsValid
  := by
  obtain ⟨root, segments⟩ := p
  rcases List.eq_nil_or_concat' segments with rfl | ⟨ss, s, rfl⟩
  · exact h
  · rw [Path.parent, List.dropLast_concat]
    exact h.of_concat

namespace FileSystem

variable {fs fs' : FileSystem} {here ss : List String} {p : Path}

@[simp] theorem startOf_parent (p : Path) :
  fs.startOf p.parent = fs.startOf p
  := rfl

theorem resolve_of_isValid (h : p.IsValid) :
  fs.resolve p = fs.walk (fs.startOf p) p.segments
  := by
  have hnul : ¬ p.text.toList.contains '\x00' = true := by
    rw [List.contains_iff_mem]
    exact h.no_nul
  rw [resolve, if_neg hnul, if_neg (Nat.not_lt_of_le h.short), startOf]

theorem resolve_eq_ok_iff {spot : Spot} :
  fs.resolve p = .ok spot ↔ p.IsValid ∧ fs.walk (fs.startOf p) p.segments = .ok spot
  := by
  constructor
  · intro h
    have hvalid : p.IsValid := by
      rw [resolve] at h
      split at h
      · cases h
      · rename_i hnul
        split at h
        · cases h
        · rename_i hlong
          rw [List.contains_iff_mem] at hnul
          exact ⟨hnul, Nat.le_of_not_lt hlong⟩
    rw [resolve_of_isValid hvalid] at h
    exact ⟨hvalid, h⟩
  · rintro ⟨hvalid, h⟩
    rw [resolve_of_isValid hvalid, h]

/-- A path to a directory passes directories. -/
theorem isDirectory_iff :
  fs.isDirectory p ↔ p.IsValid ∧ fs.Passes (fs.startOf p) p.segments
  := by
  have hspot : fs.isDirectory p
      ↔ ∃ location, fs.resolve p = .ok (.present location) ∧ fs.isDirectoryAt location := by
    rw [isDirectory]
    split
    · rename_i location h
      simp [h]
    · rename_i h
      apply iff_of_false Bool.false_ne_true
      rintro ⟨location, hlocation, -⟩
      exact h location hlocation
  simp only [hspot, resolve_eq_ok_iff]
  constructor
  · rintro ⟨location, ⟨hvalid, hwalk⟩, hdirectory⟩
    refine ⟨hvalid, ?_⟩
    rcases List.eq_nil_or_concat' p.segments with hnil | ⟨ss, s, hsegments⟩
    · rw [hnil] at hwalk ⊢
      cases hwalk
      exact passes_nil_iff.mpr hdirectory
    · rw [hsegments] at hwalk ⊢
      obtain ⟨hpasses, hlast⟩ := passes_of_walk hwalk
      obtain ⟨-, hshort, ⟨heq, -⟩ | ⟨heq, -⟩⟩ := walk_singleton_eq_ok_iff.mp hlast
      · cases heq
        rw [← destination_concat] at hdirectory
        exact passes_concat_iff.mpr ⟨hpasses, hshort, hdirectory⟩
      · cases heq
  · rintro ⟨hvalid, hpasses⟩
    exact ⟨_, ⟨hvalid, hpasses.walk_eq⟩, hpasses.isDirectoryAt _ (List.prefix_refl _)⟩

/-! ### Setting what is at a location -/

theorem lookup_setEntry (location l : List String) (e : FileEntry)
    (entries : List (List String × FileEntry)) :
  (setEntry location e entries).lookup l = if l = location then some e else entries.lookup l
  := by
  induction entries with
  | nil => rw [setEntry, lookup_cons_eq_if]
  | cons entry entries ih =>
      obtain ⟨m, old⟩ := entry
      rw [setEntry]
      by_cases hm : m = location
      · rw [if_pos hm, lookup_cons_eq_if, lookup_cons_eq_if, hm]
        by_cases hl : l = location
        · rw [if_pos hl, if_pos hl]
        · rw [if_neg hl, if_neg hl, if_neg hl]
      · rw [if_neg hm, lookup_cons_eq_if, lookup_cons_eq_if, ih]
        by_cases hl : l = m
        · rw [if_pos hl, if_pos hl, if_neg]
          rw [hl]
          exact hm
        · rw [if_neg hl, if_neg hl]

theorem entry?_set {location : List String} (hne : location ≠ []) (e : FileEntry)
    (l : List String) :
  FileSystem.entry? (fs.set location e) l = if l = location then some e else fs.entry? l
  := by
  rw [FileSystem.entry?, FileSystem.entry?, set, lookup_setEntry]
  by_cases hl : l = []
  · rw [if_pos hl, if_pos hl, if_neg]
    rw [hl]
    exact hne.symm
  · rw [if_neg hl, if_neg hl]

theorem ne_nil_of_not_isDirectoryAt {location : List String} (h : ¬ fs.isDirectoryAt location) :
  location ≠ []
  := by
  rintro rfl
  exact h (isDirectoryAt_iff.mpr rfl)

/-! ### Making directories -/

/-- `fs.AddsDirectories fs' here segments`: there are new directories where nothing was, on the way of
the segments and not above its start, and all else is as before. -/
structure AddsDirectories (fs fs' : FileSystem) (here segments : List String) : Prop where
  workingDirectory_eq : fs'.workingDirectory = fs.workingDirectory
  entry?_cases (location : List String) : fs'.entry? location = fs.entry? location
    ∨ fs.entry? location = none ∧ fs'.entry? location = some .directory ∧ ¬ location <+: here
      ∧ ∃ front, front <+: segments ∧ destination here front = location

namespace AddsDirectories

theorem refl (fs : FileSystem) (here segments : List String) :
  fs.AddsDirectories fs here segments
  := ⟨rfl, fun _ => .inl rfl⟩

theorem trans {fs'' : FileSystem} (h : fs.AddsDirectories fs' here ss)
    (h' : fs'.AddsDirectories fs'' here ss) :
  fs.AddsDirectories fs'' here ss
  := by
  constructor
  · rw [h'.workingDirectory_eq, h.workingDirectory_eq]
  · intro location
    rcases h.entry?_cases location with heq | ⟨hnone, hsome, hmade⟩
    · have hcases := h'.entry?_cases location
      rw [heq] at hcases
      exact hcases
    · right
      rcases h'.entry?_cases location with heq' | ⟨hnone', -⟩
      · exact ⟨hnone, heq'.trans hsome, hmade⟩
      · rw [hsome] at hnone'
        cases hnone'

/-- What is made on a way is made on every way that goes further. -/
theorem mono (h : fs.AddsDirectories fs' here ss) {segments : List String} (hss : ss <+: segments) :
  fs.AddsDirectories fs' here segments
  := by
  constructor
  · exact h.workingDirectory_eq
  · intro location
    rcases h.entry?_cases location with heq | ⟨hnone, hsome, hnew, front, hfront, hlocation⟩
    · exact .inl heq
    · exact .inr ⟨hnone, hsome, hnew, front, hfront.trans hss, hlocation⟩

theorem startOf_eq (h : fs.AddsDirectories fs' here ss) (p : Path) :
  fs'.startOf p = fs.startOf p
  := by
  rw [startOf, startOf, h.workingDirectory_eq]

/-- Directories are still there. -/
theorem isDirectoryAt (h : fs.AddsDirectories fs' here ss) {location : List String}
    (hdirectory : fs.isDirectoryAt location) :
  fs'.isDirectoryAt location
  := by
  rw [FileSystem.isDirectoryAt_iff] at hdirectory ⊢
  rcases h.entry?_cases location with heq | ⟨hnone, -⟩
  · exact heq.trans hdirectory
  · rw [hdirectory] at hnone
    cases hnone

theorem passes (h : fs.AddsDirectories fs' here ss) {start segments : List String}
    (hpasses : fs.Passes start segments) :
  fs'.Passes start segments
  := ⟨hpasses.short, fun front hfront => h.isDirectoryAt (hpasses.isDirectoryAt front hfront)⟩

/-- When the whole way is passed, the directories are those from before and those on the way. -/
theorem isDirectoryAt_iff (h : fs.AddsDirectories fs' here ss) (hpasses : fs'.Passes here ss)
    {location : List String} :
  fs'.isDirectoryAt location
    ↔ fs.isDirectoryAt location ∨ ∃ front, front <+: ss ∧ destination here front = location
  := by
  constructor
  · intro hdirectory
    rw [FileSystem.isDirectoryAt_iff] at hdirectory ⊢
    rcases h.entry?_cases location with heq | ⟨-, -, -, hfront⟩
    · exact .inl (heq.symm.trans hdirectory)
    · exact .inr hfront
  · rintro (hdirectory | ⟨front, hfront, rfl⟩)
    · exact h.isDirectoryAt hdirectory
    · exact hpasses.isDirectoryAt front hfront

theorem isOpen_iff (h : fs.AddsDirectories fs' here ss) {location : List String} :
  fs'.IsOpen here location ↔ fs.IsOpen here location
  := by
  rw [IsOpen, IsOpen, FileSystem.isDirectoryAt_iff, FileSystem.isDirectoryAt_iff]
  rcases h.entry?_cases location with heq | ⟨hnone, hsome, hnew, -⟩
  · rw [heq]
  · simp [hnone, hsome, hnew]

/-- The same ways can be passed as before. -/
theorem canPass_iff (h : fs.AddsDirectories fs' here ss) {segments : List String} :
  fs'.CanPass here segments ↔ fs.CanPass here segments
  := by
  constructor
  · intro hpass
    exact ⟨hpass.short, fun front hfront => h.isOpen_iff.mp (hpass.isOpen front hfront)⟩
  · intro hpass
    exact ⟨hpass.short, fun front hfront => h.isOpen_iff.mpr (hpass.isOpen front hfront)⟩

end AddsDirectories

theorem makeDirectory_eq_ok_iff :
  fs.makeDirectory p = .ok fs'
    ↔ ∃ location, fs.resolve p = .ok (.absent location) ∧ fs.set location .directory = fs'
  := by
  rw [makeDirectory, bind_eq_ok_iff]
  constructor
  · rintro ⟨_ | location, hspot, h⟩
    · cases h
    · exact ⟨location, hspot, Except.ok.inj h⟩
  · rintro ⟨location, hspot, rfl⟩
    exact ⟨_, hspot, rfl⟩

/-- Nothing is missing above a directory that is made where directories lead to. -/
theorem makeDirectory_ne_notFound {root s : String}
    (h : fs.Passes (fs.startOf ⟨root, ss⟩) ss) :
  fs.makeDirectory ⟨root, ss ++ [s]⟩ ≠ .error .notFound
  := by
  have hlast : fs.walk (fs.startOf ⟨root, ss⟩) (ss ++ [s]) ≠ .error .notFound := by
    rw [walk_concat, h.walk_eq, walkOn, walk_cons]
    simp only [walk]
    split_ifs
    all_goals rintro ⟨⟩
  intro hmake
  rcases bind_eq_error_iff.mp hmake with hspot | ⟨_ | location, hspot, hmake⟩
  · rw [resolve] at hspot
    split at hspot
    · cases hspot
    · split at hspot
      · cases hspot
      · exact hlast hspot
  · cases hmake
  · cases hmake

/-- A new directory is at the end of a way that passes directories, not above its start. -/
theorem of_makeDirectory (h : fs.makeDirectory p = .ok fs') :
  fs.AddsDirectories fs' (fs.startOf p) p.segments ∧ fs'.isDirectory p
  := by
  obtain ⟨location, hspot, rfl⟩ := makeDirectory_eq_ok_iff.mp h
  obtain ⟨hvalid, hwalk⟩ := resolve_eq_ok_iff.mp hspot
  rcases List.eq_nil_or_concat' p.segments with hnil | ⟨ss, s, hsegments⟩
  · rw [hnil] at hwalk
    cases hwalk
  · rw [hsegments] at hwalk ⊢
    obtain ⟨hpasses, hlast⟩ := passes_of_walk hwalk
    obtain ⟨-, hshort, ⟨heq, -⟩ | ⟨heq, hup, hnone⟩⟩ := walk_singleton_eq_ok_iff.mp hlast
    · cases heq
    · obtain rfl := Spot.absent.inj heq
      have hnew : ¬ fs.isDirectoryAt (advance (destination (fs.startOf p) ss) s) := by
        rw [isDirectoryAt_iff, hnone]
        rintro ⟨⟩
      have hne := ne_nil_of_not_isDirectoryAt hnew
      have hadds : fs.AddsDirectories
          (fs.set (advance (destination (fs.startOf p) ss) s) .directory)
          (fs.startOf p) (ss ++ [s]) := by
        refine ⟨rfl, ?_⟩
        intro l
        rw [entry?_set hne]
        split
        · rename_i hl
          subst hl
          refine .inr ⟨hnone, rfl, ?_, ss ++ [s], List.prefix_refl _, destination_concat ..⟩
          -- A location that the way starts in would have been climbed out of, as a directory.
          intro hhere
          apply hnew
          apply hpasses.isDirectoryAt_of_left hhere
          rw [advance, if_neg hup]
          intro hprefix
          have hlength := hprefix.length_le
          rw [List.length_append, List.length_singleton] at hlength
          omega
        · exact .inl rfl
      refine ⟨hadds, ?_⟩
      rw [isDirectory_iff, hadds.startOf_eq, hsegments]
      refine ⟨hvalid, passes_concat_iff.mpr ⟨hadds.passes hpasses, hshort, ?_⟩⟩
      rw [destination_concat, isDirectoryAt_iff, entry?_set hne, if_pos rfl]

/-- The files with a directory that may exist already, below existing ones. -/
def makeBelow (fs : FileSystem) (p : Path) : FileSystem × Except FileError Unit :=
  match fs.makeDirectory p with
  | .ok fs' => (fs', .ok ())
  | .error .notFound => (fs, .error .notFound)
  | .error e => fs.acceptExisting p e

@[simp] theorem makeAbove_nil (fs : FileSystem) (root : String) :
  fs.makeAbove root [] = fs.makeBelow ⟨root, []⟩
  := rfl

/-- When nothing is missing above it, a directory is made below existing ones. -/
theorem makeAbove_of_found {root s : String} {above : List String}
    (h : fs.makeDirectory ⟨root, (s :: above).reverse⟩ ≠ .error .notFound) :
  fs.makeAbove root (s :: above) = fs.makeBelow ⟨root, (s :: above).reverse⟩
  := by
  rw [makeAbove, makeBelow]
  cases hmake : fs.makeDirectory ⟨root, (s :: above).reverse⟩ with
  | ok fs' => rfl
  | error e =>
      cases e with
      | notFound => exact absurd hmake h
      | _ => rfl

/-- When something is missing above it, the directories above it are made first. -/
theorem makeAbove_of_missing {root s : String} {above : List String}
    (h : fs.makeDirectory ⟨root, (s :: above).reverse⟩ = .error .notFound) :
  (∃ fs' e, fs.makeAbove root above = (fs', .error e)
      ∧ fs.makeAbove root (s :: above) = (fs', .error e))
    ∨ ∃ fs', fs.makeAbove root above = (fs', .ok ())
      ∧ fs.makeAbove root (s :: above) = fs'.makeBelow ⟨root, (s :: above).reverse⟩
  := by
  rw [makeAbove]
  simp only [h]
  split
  · rename_i fs' e habove
    exact .inl ⟨fs', e, habove, rfl⟩
  · rename_i fs' habove
    exact .inr ⟨fs', habove, rfl⟩

theorem of_makeBelow {result : Except FileError Unit} (h : fs.makeBelow p = (fs', result)) :
  fs.AddsDirectories fs' (fs.startOf p) p.segments ∧ (result = .ok () → fs'.isDirectory p)
  := by
  rw [makeBelow] at h
  split at h
  · rename_i made hmade
    obtain ⟨rfl, -⟩ := Prod.mk.inj h
    obtain ⟨hadds, hdirectory⟩ := of_makeDirectory hmade
    exact ⟨hadds, fun _ => hdirectory⟩
  · obtain ⟨rfl, rfl⟩ := Prod.mk.inj h
    exact ⟨.refl .., nofun⟩
  · rw [acceptExisting] at h
    split at h
    · rename_i hdirectory
      obtain ⟨rfl, -⟩ := Prod.mk.inj h
      exact ⟨.refl .., fun _ => hdirectory.2⟩
    · obtain ⟨rfl, rfl⟩ := Prod.mk.inj h
      exact ⟨.refl .., nofun⟩

/-- On a way that can be passed, a directory is made, or is there, unless something is missing above
it. -/
theorem exists_makeBelow (hvalid : p.IsValid) (hpass : fs.CanPass (fs.startOf p) p.segments)
    (hfound : fs.makeDirectory p ≠ .error .notFound) :
  ∃ fs', fs.makeBelow p = (fs', .ok ())
  := by
  have hspot : fs.resolve p = fs.walk (fs.startOf p) p.segments := resolve_of_isValid hvalid
  rcases hpass.passes_or with hpasses | habsent | hmissing
  · have hdirectory := isDirectory_iff.mpr ⟨hvalid, hpasses⟩
    have hmake : fs.makeDirectory p = .error .alreadyExists := by
      rw [makeDirectory, hspot, hpasses.walk_eq]
      rfl
    use fs
    simp only [makeBelow, hmake, acceptExisting]
    rw [if_pos ⟨nofun, hdirectory⟩]
  · rw [habsent] at hspot
    have hmake := makeDirectory_eq_ok_iff.mpr ⟨_, hspot, rfl⟩
    simp only [makeBelow, hmake]
    exact ⟨_, rfl⟩
  · apply absurd _ hfound
    rw [makeDirectory, hspot, hmissing]
    rfl

/-- Making directories adds directories, and there is one in the end if it does not fail. -/
theorem of_makeAbove {root : String} {reversed : List String} {result : Except FileError Unit}
    (h : fs.makeAbove root reversed = (fs', result)) :
  fs.AddsDirectories fs' (fs.startOf ⟨root, reversed.reverse⟩) reversed.reverse
    ∧ (result = .ok () → fs'.isDirectory ⟨root, reversed.reverse⟩)
  := by
  induction reversed generalizing fs' result with
  | nil => exact of_makeBelow (p := ⟨root, []⟩) h
  | cons s above ih =>
      have hfront : above.reverse <+: (s :: above).reverse := by
        rw [List.reverse_cons]
        exact List.prefix_append _ _
      by_cases hfound : fs.makeDirectory ⟨root, (s :: above).reverse⟩ = .error .notFound
      · rcases makeAbove_of_missing hfound with ⟨made, e, habove, hmake⟩ | ⟨made, habove, hmake⟩
        · obtain ⟨rfl, rfl⟩ := Prod.mk.inj (hmake.symm.trans h)
          exact ⟨(ih habove).1.mono hfront, nofun⟩
        · have hadds := (ih habove).1.mono hfront
          rw [hmake] at h
          obtain ⟨hadds', hdirectory⟩ := of_makeBelow h
          rw [hadds.startOf_eq] at hadds'
          exact ⟨hadds.trans hadds', hdirectory⟩
      · rw [makeAbove_of_found hfound] at h
        exact of_makeBelow h

/-- Directories are made on every way that can be passed. -/
theorem exists_makeAbove {root : String} {reversed : List String}
    (hvalid : Path.IsValid ⟨root, reversed.reverse⟩)
    (hpass : fs.CanPass (fs.startOf ⟨root, reversed.reverse⟩) reversed.reverse) :
  ∃ fs', fs.makeAbove root reversed = (fs', .ok ())
  := by
  induction reversed with
  | nil =>
      rw [makeAbove_nil]
      apply exists_makeBelow hvalid hpass
      rw [makeDirectory, resolve_of_isValid hvalid]
      rintro ⟨⟩
  | cons s above ih =>
      by_cases hfound : fs.makeDirectory ⟨root, (s :: above).reverse⟩ = .error .notFound
      · rw [List.reverse_cons] at hvalid hpass
        obtain ⟨made, hmade⟩ := ih hvalid.of_concat hpass.of_concat
        obtain ⟨hadds, hdirectory⟩ := of_makeAbove hmade
        rcases makeAbove_of_missing hfound with ⟨_, e, habove, -⟩ | ⟨_, habove, hmake⟩
        · cases hmade.symm.trans habove
        · obtain ⟨rfl, -⟩ := Prod.mk.inj (hmade.symm.trans habove)
          have hpasses := (isDirectory_iff.mp (hdirectory rfl)).2
          rw [hmake, List.reverse_cons]
          apply exists_makeBelow hvalid
          · rw [hadds.startOf_eq]
            exact hadds.canPass_iff.mpr hpass
          · exact makeDirectory_ne_notFound hpasses
      · rw [makeAbove_of_found hfound]
        exact exists_makeBelow hvalid hpass hfound

/-- Made directories are where nothing was, and lead to the end of the path. -/
theorem of_makeDirectories {result : Except FileError Unit}
    (h : fs.makeDirectories p = (fs', result)) :
  fs.AddsDirectories fs' (fs.startOf p) p.segments
    ∧ (result = .ok () → p.IsValid ∧ fs'.Passes (fs.startOf p) p.segments)
  := by
  obtain ⟨hadds, hdirectory⟩ := of_makeAbove h
  rw [List.reverse_reverse] at hadds hdirectory
  refine ⟨hadds, ?_⟩
  intro hresult
  have hpasses := isDirectory_iff.mp (hdirectory hresult)
  rw [hadds.startOf_eq] at hpasses
  exact hpasses

theorem exists_makeDirectories_iff :
  (∃ fs', fs.makeDirectories p = (fs', .ok ()))
    ↔ p.IsValid ∧ fs.CanPass (fs.startOf p) p.segments
  := by
  constructor
  · rintro ⟨fs', h⟩
    obtain ⟨hadds, hdirectories⟩ := of_makeDirectories h
    obtain ⟨hvalid, hpasses⟩ := hdirectories rfl
    exact ⟨hvalid, hadds.canPass_iff.mp hpasses.canPass⟩
  · rintro ⟨hvalid, hpass⟩
    apply exists_makeAbove
    · rw [List.reverse_reverse]
      exact hvalid
    · rw [List.reverse_reverse]
      exact hpass

end FileSystem

end MessagePlacement
