import Mathlib.Data.Nat.SuccPred
import MessagePlacement.Proofs.Layout.Locality
import MessagePlacement.Proofs.Layout.Reference
import MessagePlacement.Proofs.Outcome

/-!
# The nearest common directory

The reference from one directory to another climbs to the deepest directory that both are in, and no
way from the one to the other climbs less.  It climbs at all only if the other is not at or below the
one.  A reference is never empty, so that an empty relative path tells that messages are not folded,
or that there are none.
-/

namespace MessagePlacement

open Text

/-- The depths of the directories that two directories are in. -/
def commonDepths (source target : List String) : Set Nat :=
  { k | ∃ front : List String, front.length = k ∧ front <+: source ∧ front <+: target }

/-- The segments of the directory of a message; an id without a path has none. -/
def directoryOf (paths : List (Int × String)) (id : Int) : List String :=
  ((paths.lookup id).map segments).getD []

variable {source target : List String} {l : Nat}

theorem mem_commonDepths_iff {k : Nat} :
  k ∈ commonDepths source target ↔ k ≤ source.length ∧ target.take k = source.take k
  := by
  constructor
  · rintro ⟨front, rfl, hsource, htarget⟩
    constructor
    · apply hsource.length_le
    · rw [← List.prefix_iff_eq_take.mp hsource, ← List.prefix_iff_eq_take.mp htarget]
  · rintro ⟨hk, htake⟩
    use source.take k, List.length_take_of_le hk, List.take_prefix k source
    rw [← htake]
    apply List.take_prefix k target

theorem exists_isGreatest_commonDepths (source target : List String) :
  ∃ l, IsGreatest (commonDepths source target) l
  := by
  have hbound : BddAbove (commonDepths source target) :=
    ⟨source.length, fun k hk => (mem_commonDepths_iff.mp hk).1⟩
  have hroot : 0 ∈ commonDepths source target := ⟨[], rfl, List.nil_prefix, List.nil_prefix⟩
  apply hbound.exists_isGreatest_of_nonempty ⟨0, hroot⟩

/-- Two directories of which the second is at or below the first are both in the first. -/
theorem isGreatest_commonDepths_below (h : source <+: target) :
  IsGreatest (commonDepths source target) source.length
  := by
  constructor
  · exact ⟨source, rfl, List.prefix_refl _, h⟩
  · intro k hk
    apply (mem_commonDepths_iff.mp hk).1

theorem lt_length_of_elsewhere (hl : IsGreatest (commonDepths source target) l)
    (h : ¬ source <+: target) :
  l < source.length
  := by
  obtain ⟨hle, htake⟩ := mem_commonDepths_iff.mp hl.1
  apply Nat.lt_of_le_of_ne hle
  rintro rfl
  rw [List.take_length] at htake
  exact h (List.prefix_iff_eq_take.mpr htake.symm)

/-! ### Ways upwards -/

/-- A part keeps the front of a directory, without the last segment of it if it climbs. -/
theorem take_prefix_of_stepInto {directory next : List String} {part : String}
    (h : stepInto directory part = some next) (n : Nat) :
  directory.take (directory.length - (n + [part].count "..")) <+: next.take (next.length - n)
  := by
  rw [stepInto] at h
  split at h
  · rename_i hstay
    have hpart : part ≠ ".." := by
      rintro rfl
      revert hstay
      decide
    obtain rfl := Option.some.inj h
    rw [List.count_cons_of_ne hpart]
    apply List.prefix_refl
  · split at h
    · rename_i hup
      split at h
      · cases h
      · obtain rfl := Option.some.inj h
        rw [hup, List.count_singleton_self, List.length_dropLast, List.dropLast_eq_take,
          List.take_take]
        apply List.take_prefix_take_left
        omega
    · rename_i hpart
      obtain rfl := Option.some.inj h
      rw [List.count_cons_of_ne hpart, List.take_append]
      apply List.IsPrefix.trans _ (List.prefix_append _ _)
      apply List.take_prefix_take_left
      rw [List.length_append]
      exact Nat.sub_le_sub_right (Nat.le_add_right _ _) n

/-- A way keeps the front of a directory that is left when as many segments as it climbs are taken
off the end. -/
theorem take_prefix_of_foldlM {directory : List String} {way : List String}
    (h : way.foldlM stepInto directory = some target) :
  directory.take (directory.length - way.count "..") <+: target
  := by
  induction way generalizing directory with
  | nil =>
      obtain rfl : directory = target := Option.some.inj h
      apply List.take_prefix
  | cons part way ih =>
      rw [List.foldlM_cons] at h
      obtain ⟨next, hnext, hway⟩ := Option.bind_eq_some_iff.mp h
      have hcount : (part :: way).count ".." = way.count ".." + [part].count ".." := by
        rw [← List.singleton_append, List.count_append, Nat.add_comm]
      rw [hcount]
      exact (take_prefix_of_stepInto hnext _).trans (ih hway)

/-- A way between two directories climbs at least to the deepest directory that both are in. -/
theorem length_sub_le_count {way : List String} (hl : IsGreatest (commonDepths source target) l)
    (h : way.foldlM stepInto source = some target) :
  source.length - l ≤ way.count ".."
  := by
  have hmem : source.length - way.count ".." ∈ commonDepths source target :=
    ⟨_, List.length_take_of_le (Nat.sub_le _ _), List.take_prefix _ _, take_prefix_of_foldlM h⟩
  have hle := hl.2 hmem
  omega

namespace Layout

/-- A climb that starts at or below the deepest common directory ends there. -/
theorem climbFrom_eq (hl : IsGreatest (commonDepths source target) l) (depth climbs : Nat)
    (hlength : depth + climbs + 1 = source.length) (hle : l ≤ depth) :
  climbFrom source target depth climbs
    = join "" (List.replicate (source.length - l) "../") ++ join "/" (target.drop l)
  := by
  induction depth generalizing climbs with
  | zero =>
      obtain rfl := Nat.le_zero.mp hle
      rfl
  | succ depth ih =>
      have hdepth : depth + 1 ≤ source.length := by omega
      rw [climbFrom]
      split
      · rename_i htake
        have hcommon := hl.2 (mem_commonDepths_iff.mpr ⟨hdepth, htake⟩)
        obtain rfl : l = depth + 1 := Nat.le_antisymm hle hcommon
        have hclimbs : source.length - (depth + 1) = climbs + 1 := by omega
        rw [hclimbs]
      · rename_i htake
        apply ih
        · omega
        · have hne : l ≠ depth + 1 := by
            rintro rfl
            exact htake (mem_commonDepths_iff.mp hl.1).2
          omega

theorem reference_below (h : source <+: target) :
  reference source target
    = if source = target then "." else "./" ++ join "/" (target.drop source.length)
  := by
  obtain ⟨rest, rfl⟩ := h
  rw [reference, if_pos (List.take_left ..), List.drop_left]
  cases rest with
  | nil => simp
  | cons s rest => simp

theorem reference_elsewhere (hl : IsGreatest (commonDepths source target) l)
    (h : ¬ source <+: target) :
  reference source target
    = join "" (List.replicate (source.length - l) "../") ++ join "/" (target.drop l)
  := by
  have hlt := lt_length_of_elsewhere hl h
  have htake : target.take source.length ≠ source :=
    fun htake => h (List.prefix_iff_eq_take.mpr htake.symm)
  rw [reference, if_neg htake, climbFrom_eq hl]
  · omega
  · omega

/-- A reference in terms of the depth of the deepest common directory. -/
theorem reference_eq (hl : IsGreatest (commonDepths source target) l) :
  reference source target
    = if source = target then "."
      else if l = source.length ∧ l < target.length then "./" ++ join "/" (target.drop l)
      else join "" (List.replicate (source.length - l) "../") ++ join "/" (target.drop l)
  := by
  by_cases h : source <+: target
  · obtain rfl := hl.unique (isGreatest_commonDepths_below h)
    rw [reference_below h]
    by_cases heq : source = target
    · rw [if_pos heq, if_pos heq]
    · have hlt : source.length < target.length :=
        Nat.lt_of_le_of_ne h.length_le fun hlength => heq (h.eq_of_length hlength)
      rw [if_neg heq, if_neg heq, if_pos ⟨rfl, hlt⟩]
  · have hne : source ≠ target := by
      rintro rfl
      exact h (List.prefix_refl _)
    have hlt := lt_length_of_elsewhere hl h
    rw [reference_elsewhere hl h, if_neg hne, if_neg fun heq => Nat.ne_of_lt hlt heq.1]

/-- A reference is not empty. -/
theorem reference_ne_empty (source target : List String) :
  reference source target ≠ ""
  := by
  have hstart : ∀ s t : String, s ≠ "" → s ++ t ≠ "" := fun s t hs hst =>
    hs (String.append_eq_empty_iff.mp hst).1
  by_cases h : source <+: target
  · rw [reference_below h]
    split
    · decide
    · exact hstart "./" _ (by decide)
  · obtain ⟨l, hl⟩ := exists_isGreatest_commonDepths source target
    obtain ⟨n, hn⟩ := Nat.exists_eq_add_of_lt (lt_length_of_elsewhere hl h)
    have hclimbs : source.length - l = n + 1 := by omega
    rw [reference_elsewhere hl h, hclimbs, List.replicate_succ, join_empty_cons,
      String.append_assoc]
    exact hstart "../" _ (by decide)

end Layout

/-! ### Climbs in a reference -/

theorem dot_not_mem_join {names : List String} (h : ∀ s ∈ names, '.' ∉ s.toList) :
  '.' ∉ (join "/" names).toList
  := by
  rw [mem_toList_join_iff (by decide)]
  rintro ⟨s, hs, hdot⟩
  exact h s hs hdot

/-- Without dots in a text, no part of it climbs. -/
theorem count_parts_of_dot_not_mem {s : String} (h : '.' ∉ s.toList) :
  (parts "/" s).count ".." = 0
  := by
  rw [List.count_eq_zero]
  intro hpart
  apply h
  rw [← join_parts toList_slash s, mem_toList_join_iff (by decide)]
  exact ⟨"..", hpart, by decide⟩

namespace Layout

variable (hdots : ∀ s ∈ target, '.' ∉ s.toList)

include hdots

/-- A reference has exactly the parts upwards that lead to the deepest common directory. -/
theorem count_parts_reference (hl : IsGreatest (commonDepths source target) l) :
  (parts "/" (reference source target)).count ".." = source.length - l
  := by
  have hnames : ∀ k, (parts "/" (join "/" (target.drop k))).count ".." = 0 := fun k =>
    count_parts_of_dot_not_mem (dot_not_mem_join fun s hs => hdots s (List.mem_of_mem_drop hs))
  by_cases h : source <+: target
  · obtain rfl := hl.unique (isGreatest_commonDepths_below h)
    rw [reference_below h, Nat.sub_self]
    split
    · decide
    · have hstep : "./" = "." ++ "/" := by decide
      rw [hstep, parts_append toList_slash, List.count_append, hnames]
      decide
  · rw [reference_elsewhere hl h, parts_climb, List.count_append, hnames,
      List.count_replicate_self, Nat.add_zero]

/-- A reference climbs exactly when its target is not at or below its source. -/
theorem climb_infix_reference_iff :
  "../".toList <:+: (reference source target).toList ↔ ¬ source <+: target
  := by
  constructor
  · intro hclimb h
    have htwo := hclimb.sublist.count_le '.'
    rw [reference_below h] at htwo
    split at htwo
    · revert htwo
      decide
    · have hnames : '.' ∉ (join "/" (target.drop source.length)).toList :=
        dot_not_mem_join fun s hs => hdots s (List.mem_of_mem_drop hs)
      rw [String.toList_append, List.count_append, List.count_eq_zero.mpr hnames] at htwo
      revert htwo
      decide
  · intro h
    obtain ⟨l, hl⟩ := exists_isGreatest_commonDepths source target
    obtain ⟨n, hn⟩ := Nat.exists_eq_add_of_lt (lt_length_of_elsewhere hl h)
    have hclimbs : source.length - l = n + 1 := by omega
    rw [reference_elsewhere hl h, hclimbs, List.replicate_succ, join_empty_cons,
      String.append_assoc, String.toList_append]
    exact (List.prefix_append _ _).isInfix

end Layout

/-! ### Relative paths -/

theorem directoryOf_eq (paths : List (Int × String)) (id : Int) :
  directoryOf paths id = segments (Plan.valueOf id paths)
  := by
  rw [directoryOf, Plan.valueOf]
  cases paths.lookup id with
  | none => rfl
  | some path => rfl

theorem dot_not_mem_of_mem_directoryOf {paths : List (Int × String)} {id : Int} {s : String}
    (hs : s ∈ directoryOf paths id) :
  '.' ∉ s.toList
  := by
  rw [directoryOf_eq] at hs
  exact (isSegment_of_mem_segmentsOn toList_dot hs).2

theorem Resolver.exists_layout_of_assignedPaths {r : Resolver} {paths : List (Int × String)}
    (h : r.assignedPaths = .ok paths) :
  ∃ l, r.layout = some l ∧ l.plan.paths = paths
  := by
  obtain ⟨l, hl, hpaths⟩ := map_eq_ok_iff.mp h
  rw [require] at hl
  cases hlayout : r.layout with
  | none =>
      rw [hlayout] at hl
      cases hl
  | some l' =>
      rw [hlayout] at hl
      obtain rfl := Except.ok.inj hl
      exact ⟨l', rfl, hpaths⟩

namespace Layout

/-- With assigned paths, relative paths are references between directories. -/
theorem relativePath_of_paths {l : Layout} (h : l.plan.paths ≠ []) (a b : Int) :
  l.relativePath a b = reference (directoryOf l.plan.paths a) (directoryOf l.plan.paths b)
  := by
  have hempty : l.plan.paths.isEmpty = false := by simpa using h
  rw [relativePath, hempty, directoryOf_eq, directoryOf_eq]
  rfl

/-- A relative path is empty exactly when there are no assigned paths. -/
theorem relativePath_eq_empty_iff_paths {l : Layout} {a b : Int} :
  l.relativePath a b = "" ↔ l.plan.paths = []
  := by
  constructor
  · intro h
    by_contra hne
    rw [relativePath_of_paths hne] at h
    exact reference_ne_empty _ _ h
  · intro h
    rw [relativePath, h]
    rfl

/-- A layout has no assigned paths exactly when it is not folded or has no messages. -/
theorem Holds.paths_eq_nil_iff {l : Layout} {ds : List Declaration} {fold : Bool}
    (h : l.Holds ds fold) :
  l.plan.paths = [] ↔ fold = false ∨ ds = []
  := by
  cases fold with
  | false =>
      rw [h.plan_eq]
      simp [Plan.empty]
  | true =>
      cases ds with
      | nil =>
          simp only [or_true, iff_true]
          apply List.eq_nil_iff_forall_not_mem.mpr
          intro entry hentry
          obtain ⟨d, ⟨⟩, -⟩ := h.tabulates_paths.mem_ids_iff.mp (List.mem_map_of_mem hentry)
      | cons d ds =>
          have hne := h.paths_ne_nil (List.mem_cons_self ..)
          simp [hne]

end Layout

/-- With assigned paths, the relative path from one message to another climbs from the directory of
the one to the deepest directory that both are in and goes down to that of the other: it is a dot
within a directory, and begins with a dot if it only goes down.  It climbs exactly if the second
directory is not at or below the first, and no way between the two climbs less. -/
theorem Resolver.relativePath_through_ancestor
    (r : Resolver) (paths : List (Int × String)) (hpaths : r.assignedPaths = .ok paths)
    (hne : paths ≠ []) (a b : Int) :
  ∃ l reference,
    IsGreatest (commonDepths (directoryOf paths a) (directoryOf paths b)) l
    ∧ r.relativePath a b = .ok reference
    ∧ reference = (if directoryOf paths a = directoryOf paths b then "."
        else if l = (directoryOf paths a).length ∧ l < (directoryOf paths b).length then
          "./" ++ join "/" ((directoryOf paths b).drop l)
        else
          join "" (List.replicate ((directoryOf paths a).length - l) "../")
            ++ join "/" ((directoryOf paths b).drop l))
    ∧ ("../".toList <:+: reference.toList ↔ ¬ directoryOf paths a <+: directoryOf paths b)
    ∧ (parts "/" reference).count ".." = (directoryOf paths a).length - l
    ∧ ∀ way : List String, way.foldlM stepInto (directoryOf paths a) = some (directoryOf paths b) →
        (directoryOf paths a).length - l ≤ way.count ".."
  := by
  obtain ⟨layout, hlayout, rfl⟩ := Resolver.exists_layout_of_assignedPaths hpaths
  obtain ⟨l, hl⟩ := exists_isGreatest_commonDepths (directoryOf layout.plan.paths a)
    (directoryOf layout.plan.paths b)
  have hdots : ∀ s ∈ directoryOf layout.plan.paths b, '.' ∉ s.toList :=
    fun s hs => dot_not_mem_of_mem_directoryOf hs
  refine ⟨l, Layout.reference (directoryOf layout.plan.paths a) (directoryOf layout.plan.paths b),
    hl, ?_, Layout.reference_eq hl, Layout.climb_infix_reference_iff hdots,
    Layout.count_parts_reference hdots hl, fun way hway => length_sub_le_count hl hway⟩
  rw [Resolver.relativePath, Resolver.require, hlayout, ← Layout.relativePath_of_paths hne]
  rfl

theorem Resolver.relativePath_through_ancestor_nestedMessages :
  ∃ r paths, Resolver.start {} nestedMessages true = .ok r
    ∧ r.assignedPaths = .ok paths ∧ paths ≠ []
    ∧ directoryOf paths 2 = ["b", "X"] ∧ directoryOf paths 4 = ["b"]
    ∧ r.relativePath 2 4 = .ok "../"
  := by
  obtain ⟨l, hstart, h⟩ := Resolver.exists_start none nestedMessages true (by decide) (by decide)
  have hinner : nestedMessages[2] ∈ nestedMessages := by decide
  have houter : nestedMessages[0] ∈ nestedMessages := by decide
  have hne := h.paths_ne_nil hinner
  have hsource : directoryOf l.plan.paths 2 = ["b", "X"] :=
    (directoryOf_eq _ _).trans ((h.segments_valueOf_paths hinner).trans (by decide))
  have htarget : directoryOf l.plan.paths 4 = ["b"] :=
    (directoryOf_eq _ _).trans ((h.segments_valueOf_paths houter).trans (by decide))
  refine ⟨⟨none, some l⟩, l.plan.paths, hstart, rfl, hne, hsource, htarget, ?_⟩
  obtain ⟨k, reference, hk, hrelative, heq, -⟩ :=
    Resolver.relativePath_through_ancestor ⟨none, some l⟩ l.plan.paths rfl hne 2 4
  rw [hsource, htarget] at hk heq
  have hcommon : IsGreatest (commonDepths ["b", "X"] ["b"]) 1 := by
    constructor
    · exact ⟨["b"], rfl, by decide, by decide⟩
    · rintro _ ⟨front, rfl, -, hfront⟩
      exact hfront.length_le
  obtain rfl := hk.unique hcommon
  rw [hrelative, heq]
  rfl

/-- After a start, the relative path between any two ids is empty exactly when the messages are not
folded or there are none. -/
theorem Resolver.relativePath_eq_empty_iff
    (r r' : Resolver) (ds : List Declaration) (fold : Bool) (hstart : r.start ds fold = .ok r')
    (a b : Int) :
  ∃ reference, r'.relativePath a b = .ok reference
    ∧ (reference = "" ↔ fold = false ∨ ds = [])
  := by
  obtain ⟨l, rfl, h⟩ := Resolver.holds_of_start hstart
  refine ⟨l.relativePath a b, rfl, ?_⟩
  rw [Layout.relativePath_eq_empty_iff_paths, h.paths_eq_nil_iff]

theorem Resolver.relativePath_eq_empty_iff_nestedMessages :
  ∃ r r', Resolver.start {} nestedMessages true = .ok r
    ∧ Resolver.start {} nestedMessages false = .ok r'
    ∧ (∃ reference, r.relativePath 2 99 = .ok reference ∧ reference ≠ "")
    ∧ r'.relativePath 2 99 = .ok ""
  := by
  obtain ⟨l, hstart, -⟩ := Resolver.exists_start none nestedMessages true (by decide) (by decide)
  obtain ⟨l', hstart', -⟩ := Resolver.exists_start none nestedMessages false (by decide) (by decide)
  obtain ⟨reference, hreference, hiff⟩ :=
    Resolver.relativePath_eq_empty_iff {} _ nestedMessages true hstart 2 99
  obtain ⟨reference', hreference', hiff'⟩ :=
    Resolver.relativePath_eq_empty_iff {} _ nestedMessages false hstart' 2 99
  obtain rfl := hiff'.mpr (.inl rfl)
  refine ⟨_, _, hstart, hstart', ⟨reference, hreference, ?_⟩, hreference'⟩
  rw [Ne, hiff]
  decide

end MessagePlacement
