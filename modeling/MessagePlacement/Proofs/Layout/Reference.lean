import MessagePlacement.Proofs.Layout.Directory

/-!
# Following references

A reference is followed from a directory part by part: the empty part and `.` stay, `..`
leaves the directory, which must not be the root, and any other part enters a directory.  The
reference from one directory to another climbs to a common front of the two and goes down from
there, so following it from the first leads to the second.
-/

namespace MessagePlacement

open Text

/-- The directory that a part of a reference leads to. -/
def stepInto (directory : List String) (part : String) : Option (List String) :=
  if part = "" ∨ part = "." then some directory
  else if part = ".." then (if directory = [] then none else some directory.dropLast)
  else some (directory ++ [part])

/-- The directory that a reference leads to. -/
def follow (directory reference : String) : Option String :=
  ((parts "/" reference).foldlM stepInto (segmentsOn "/" directory)).map (join "/")

/-! ### Parts -/

/-- The names of directories that can be entered. -/
def IsDirectoryName (s : String) : Prop :=
  IsSegment '/' s ∧ s ≠ "." ∧ s ≠ ".."

theorem stepInto_name {s : String} (hs : IsDirectoryName s) (directory : List String) :
  stepInto directory s = some (directory ++ [s])
  := by
  obtain ⟨⟨hempty, -⟩, hdot, hdots⟩ := hs
  rw [stepInto, if_neg (by simp [hempty, hdot]), if_neg hdots]

/-- Names lead down. -/
theorem foldlM_names {names : List String} (h : ∀ s ∈ names, IsDirectoryName s)
    (directory : List String) :
  names.foldlM stepInto directory = some (directory ++ names)
  := by
  induction names generalizing directory with
  | nil =>
      rw [List.append_nil]
      rfl
  | cons s names ih =>
      rw [List.foldlM_cons, stepInto_name (h s (List.mem_cons_self ..))]
      change names.foldlM stepInto (directory ++ [s]) = _
      rw [ih (fun t ht => h t (List.mem_cons_of_mem _ ht)), List.append_assoc,
        List.singleton_append]

/-- The parts of joined names lead down. -/
theorem foldlM_parts_join {names : List String} (h : ∀ s ∈ names, IsDirectoryName s)
    (directory : List String) :
  (parts "/" (join "/" names)).foldlM stepInto directory = some (directory ++ names)
  := by
  rcases eq_or_ne names [] with rfl | hne
  · rw [List.append_nil]
    rfl
  · rw [parts_join toList_slash hne (fun s hs => (h s hs).1.2), foldlM_names h]

/-- Leaving a directory several times leads to a front of it. -/
theorem foldlM_replicate {n : Nat} {directory : List String} (h : n ≤ directory.length) :
  (List.replicate n "..").foldlM stepInto directory
    = some (directory.take (directory.length - n))
  := by
  induction n generalizing directory with
  | zero =>
      rw [Nat.sub_zero, List.take_length]
      rfl
  | succ n ih =>
      have hne : directory ≠ [] := List.ne_nil_of_length_pos (by omega)
      have hstep : stepInto directory ".." = some directory.dropLast := by
        rw [stepInto, if_neg (by decide), if_pos rfl, if_neg hne]
      rw [List.replicate_succ, List.foldlM_cons, hstep]
      change (List.replicate n "..").foldlM stepInto directory.dropLast = _
      rw [ih (by rw [List.length_dropLast]; omega), List.length_dropLast, List.dropLast_eq_take,
        List.take_take]
      congr 2
      omega

theorem join_empty_cons (x : String) (xs : List String) :
  join "" (x :: xs) = x ++ join "" xs
  := by
  rcases eq_or_ne xs [] with rfl | hne
  · simp [join]
  · rw [join, String.intercalate_cons_of_ne_nil hne, String.append_empty]
    rfl

/-- The parts of a climb are the steps upwards and the parts of what follows. -/
theorem parts_climb (n : Nat) (s : String) :
  parts "/" (join "" (List.replicate n "../") ++ s) = List.replicate n ".." ++ parts "/" s
  := by
  induction n with
  | zero =>
      change parts "/" ("" ++ s) = _
      rw [String.empty_append]
      rfl
  | succ n ih =>
      have hstep : "../" = ".." ++ "/" := by decide
      have hdots : parts "/" ".." = [".."] := by decide
      rw [List.replicate_succ, join_empty_cons, String.append_assoc, hstep,
        parts_append toList_slash, hdots, ← hstep, ih, List.replicate_succ, List.cons_append,
        List.nil_append]
      rfl

/-! ### References -/

namespace Layout

/-- A climb leads to a front of the source that is one of the target too. -/
theorem exists_climbFrom_eq
    (source target : List String) (depth climbs : Nat) (h : depth + climbs + 1 = source.length) :
  ∃ k ≤ source.length, source.take k = target.take k
    ∧ climbFrom source target depth climbs
        = join "" (List.replicate (source.length - k) "../") ++ join "/" (target.drop k)
  := by
  induction depth generalizing climbs with
  | zero =>
      use 0, Nat.zero_le _, rfl
      rfl
  | succ depth ih =>
      rw [climbFrom]
      split
      · rename_i htake
        have hclimbs : source.length - (depth + 1) = climbs + 1 := by omega
        use depth + 1, by omega, htake.symm
        rw [hclimbs]
      · apply ih
        omega

/-- Following the reference from one directory to another leads there. -/
theorem foldlM_reference (source : List String) {target : List String}
    (h : ∀ s ∈ target, IsDirectoryName s) :
  (parts "/" (reference source target)).foldlM stepInto source = some target
  := by
  have hdrop : ∀ k, ∀ s ∈ target.drop k, IsDirectoryName s :=
    fun k s hs => h s (List.mem_of_mem_drop hs)
  rw [reference]
  split
  · rename_i hfront
    have hsplit := List.take_append_drop source.length target
    rw [hfront] at hsplit
    have hdot : parts "/" "." = ["."] := by decide
    cases hrest : target.drop source.length with
    | nil =>
        rw [hrest, List.append_nil] at hsplit
        rw [hdot, ← hsplit]
        rfl
    | cons s rest =>
        have hstep : "./" = "." ++ "/" := by decide
        change (parts "/" ("./" ++ join "/" (s :: rest))).foldlM stepInto source = _
        rw [← hrest, hstep, parts_append toList_slash, hdot]
        change (parts "/" (join "/" (target.drop source.length))).foldlM stepInto source = _
        rw [foldlM_parts_join (hdrop _), hsplit]
  · rename_i hfront
    have hne : source ≠ [] := by
      rintro rfl
      apply hfront rfl
    have hlength := List.length_pos_of_ne_nil hne
    obtain ⟨k, hk, htake, hclimb⟩ :=
      exists_climbFrom_eq source target (source.length - 1) 0 (by omega)
    rw [hclimb, parts_climb, List.foldlM_append, foldlM_replicate (Nat.sub_le _ _),
      Nat.sub_sub_self hk, htake]
    change (parts "/" (join "/" (target.drop k))).foldlM stepInto (target.take k) = _
    rw [foldlM_parts_join (hdrop k), List.take_append_drop]

end Layout

/-! ### References between messages -/

/-- Segments of names without slashes can be entered. -/
theorem isDirectoryName_of_mem_segments {d : Declaration} {s : String} (hs : s ∈ d.segments)
    (hslash : '/' ∉ s.toList) :
  IsDirectoryName s
  := by
  obtain ⟨hne, hdot⟩ := Declaration.isSegment_of_mem_segments hs
  refine ⟨⟨hne, hslash⟩, ?_, ?_⟩
  · rintro rfl
    apply hdot (by decide)
  · rintro rfl
    apply hdot (by decide)

/-- Following the relative path from one message to another leads from the directory of the
one to the directory of the other, if any message has a path and no name contains a slash. -/
theorem Resolver.follow_relativePath
    (r r' : Resolver) (ds : List Declaration) (hstart : r.start ds true = .ok r')
    (hslash : ∀ d ∈ ds, ∀ s ∈ d.segments, '/' ∉ s.toList) (paths : List (Int × String))
    (hpaths : r'.assignedPaths = .ok paths) (hne : paths ≠ []) (a b : Int) :
  ∃ reference source target, r'.relativePath a b = .ok reference
    ∧ r'.protocolPath a = .ok source ∧ r'.protocolPath b = .ok target
    ∧ follow source reference = some target
  := by
  obtain ⟨l, rfl, h⟩ := Resolver.holds_of_start hstart
  obtain rfl : l.plan.paths = paths := Except.ok.inj hpaths
  use l.relativePath a b, l.protocolPath a, l.protocolPath b, rfl, rfl, rfl
  have hnames : ∀ i, ∃ xs, segments (Plan.valueOf i l.plan.paths) = xs
      ∧ ∀ s ∈ xs, IsDirectoryName s := by
    intro i
    obtain ⟨xs, hxs, hmem⟩ := h.exists_valueOf_paths i
    use xs
    constructor
    · rw [hxs, segments_join]
      intro s hs
      obtain ⟨d, hd, hsd⟩ := hmem s hs
      apply Declaration.isSegment_of_mem_segments hsd
    · intro s hs
      obtain ⟨d, hd, hsd⟩ := hmem s hs
      apply isDirectoryName_of_mem_segments hsd (hslash d hd s hsd)
  obtain ⟨source, hsource, hsourceNames⟩ := hnames a
  obtain ⟨target, htarget, htargetNames⟩ := hnames b
  have hempty : l.plan.paths.isEmpty = false := by simpa using hne
  rw [Layout.relativePath, hempty, Layout.protocolPath, Layout.protocolPath, directoryPath,
    directoryPath, hsource, htarget, follow, segmentsOn_join toList_slash]
  · change ((parts "/" (Layout.reference source target)).foldlM stepInto source).map _ = _
    rw [Layout.foldlM_reference source htargetNames]
    rfl
  · intro s hs
    exact (hsourceNames s hs).1

theorem Resolver.follow_relativePath_nestedMessages :
  (∀ d ∈ nestedMessages, ∀ s ∈ d.segments, '/' ∉ s.toList)
    ∧ ∃ r paths, Resolver.start {} nestedMessages true = .ok r
      ∧ r.assignedPaths = .ok paths ∧ paths ≠ []
      ∧ ∃ reference source target, r.relativePath 2 7 = .ok reference
        ∧ r.protocolPath 2 = .ok source ∧ r.protocolPath 7 = .ok target
        ∧ follow source reference = some target
  := by
  refine ⟨by decide, ?_⟩
  obtain ⟨l, hstart, h⟩ := Resolver.exists_start none nestedMessages true (by decide) (by decide)
  have hne : l.plan.paths ≠ [] := by
    intro hnil
    have hmem : nestedMessages[0] ∈ nestedMessages := by decide
    have hlookup := h.tabulates_paths.lookup_of_mem h.registry.nodup_ids hmem
    rw [hnil, if_neg (by decide)] at hlookup
    cases hlookup
  use ⟨none, some l⟩, l.plan.paths, hstart, rfl, hne
  apply Resolver.follow_relativePath {} _ nestedMessages hstart (by decide) l.plan.paths rfl hne 2 7

end MessagePlacement
