import Mathlib.Data.List.Basic
import Mathlib.Data.List.Infix
import MessagePlacement.Declaration

/-!
# Cutting and joining

At a separator of one character `c`, `parts` is `List.splitOn` on the characters, so that
joining the parts of a text gives it back, and cutting a join of members without `c` gives
the members.  `IsSegment c` holds of the members for which the same is true of
`segmentsOn`.  The parts of the name of a declaration are not blank, so they are its
segments, and a name is determined by them.
-/

namespace MessagePlacement

namespace Text

variable {sep : String} {c : Char}

/-- `IsSegment c s`: the text `s` is not empty, and `c` does not occur in it. -/
def IsSegment (c : Char) (s : String) : Prop :=
  s ≠ "" ∧ c ∉ s.toList

/-- The text of the dot is the character `.` alone. -/
theorem toList_dot :
  ".".toList = ['.']
  := by decide

/-- The text of the slash is the character `/` alone. -/
theorem toList_slash :
  "/".toList = ['/']
  := by decide

/-! ### Parts -/

theorem partsFrom_singleton (c : Char) (cs : List Char) :
  partsFrom [c] 0 cs = cs.splitOn c
  := by
  induction cs with
  | nil => rfl
  | cons x cs ih =>
      rw [partsFrom, List.splitOn_cons_eq_if_modifyHead, ih]
      by_cases hx : x = c
      · simp [hx, ih]
      · have hc : ¬ c = x := fun h => hx h.symm
        obtain ⟨p, ps, hp⟩ := List.exists_cons_of_ne_nil (List.splitOn_ne_nil c cs)
        simp [hx, hc, hp]

theorem partsFrom_ne_nil (sep : List Char) (n : Nat) (cs : List Char) :
  partsFrom sep n cs ≠ []
  := by
  induction cs generalizing n with
  | nil =>
      rw [partsFrom]
      apply List.cons_ne_nil
  | cons x cs ih =>
      cases n with
      | succ n => exact ih n
      | zero =>
          rw [partsFrom]
          split
          · apply List.cons_ne_nil
          · split
            · apply List.cons_ne_nil
            · apply List.cons_ne_nil

/-- There is a single part exactly when the separator does not occur. -/
theorem length_partsFrom_eq_one_iff {sep cs : List Char} (hne : sep ≠ []) :
  (partsFrom sep 0 cs).length = 1 ↔ ¬ sep <:+: cs
  := by
  induction cs with
  | nil => simp [partsFrom, hne]
  | cons x cs ih =>
      rw [partsFrom, List.infix_cons_iff]
      by_cases hstart : sep <+: x :: cs
      · have hrest := List.length_pos_of_ne_nil (partsFrom_ne_nil sep (sep.length - 1) cs)
        rw [if_pos (List.isPrefixOf_iff_prefix.mpr hstart), List.length_cons]
        simp only [hstart, true_or, not_true, iff_false]
        omega
      · obtain ⟨p, ps, hparts⟩ := List.exists_cons_of_ne_nil (partsFrom_ne_nil sep 0 cs)
        rw [if_neg (mt List.isPrefixOf_iff_prefix.mp hstart), or_iff_right hstart, ← ih, hparts,
          List.length_cons, List.length_cons]

theorem length_parts_eq_one_iff {sep : String} (hne : sep ≠ "") (s : String) :
  (parts sep s).length = 1 ↔ ¬ sep.toList <:+: s.toList
  := by
  rw [parts, List.length_map, length_partsFrom_eq_one_iff]
  intro h
  exact hne (String.toList_injective h)

theorem parts_eq_splitOn (hsep : sep.toList = [c]) (s : String) :
  parts sep s = (s.toList.splitOn c).map String.ofList
  := by
  rw [parts, hsep, partsFrom_singleton]

theorem not_mem_of_mem_splitOn {cs l : List Char} (hl : l ∈ cs.splitOn c) :
  c ∉ l
  := by
  induction cs generalizing l with
  | nil =>
      obtain rfl : l = [] := by simpa using hl
      apply List.not_mem_nil
  | cons x cs ih =>
      rw [List.splitOn_cons_eq_if_modifyHead] at hl
      obtain ⟨p, ps, hp⟩ := List.exists_cons_of_ne_nil (List.splitOn_ne_nil c cs)
      rw [hp] at hl ih
      by_cases hx : x = c
      · rw [if_pos (beq_iff_eq.mpr hx)] at hl
        rcases List.mem_cons.mp hl with rfl | hl
        · apply List.not_mem_nil
        · apply ih hl
      · rw [if_neg (by simpa using hx), List.modifyHead_cons] at hl
        rcases List.mem_cons.mp hl with rfl | hl
        · rw [List.mem_cons, not_or]
          exact ⟨fun h => hx h.symm, ih (List.mem_cons_self ..)⟩
        · apply ih (List.mem_cons_of_mem _ hl)

/-- The separator does not occur in a part. -/
theorem not_mem_of_mem_parts (hsep : sep.toList = [c]) {s x : String} (hx : x ∈ parts sep s) :
  c ∉ x.toList
  := by
  rw [parts_eq_splitOn hsep] at hx
  obtain ⟨cs, hcs, rfl⟩ := List.mem_map.mp hx
  rw [String.toList_ofList]
  apply not_mem_of_mem_splitOn hcs

/-- The parts of a text joined are the text. -/
theorem join_parts (hsep : sep.toList = [c]) (s : String) :
  join sep (parts sep s) = s
  := by
  apply String.toList_injective
  rw [join, String.toList_intercalate, parts_eq_splitOn hsep, hsep]
  simp [Function.comp_def]

/-- The parts of a join are its members, if there are any and the separator does not occur
in them. -/
theorem parts_join
    (hsep : sep.toList = [c]) {xs : List String} (hne : xs ≠ [])
    (hxs : ∀ x ∈ xs, c ∉ x.toList) :
  parts sep (join sep xs) = xs
  := by
  have hmap : ∀ l ∈ xs.map String.toList, c ∉ l := by
    intro l hl
    obtain ⟨x, hx, rfl⟩ := List.mem_map.mp hl
    apply hxs x hx
  rw [parts_eq_splitOn hsep, join, String.toList_intercalate, hsep,
    List.splitOn_intercalate c hmap (by simpa using hne)]
  simp [Function.comp_def]

theorem parts_ne_nil (sep s : String) :
  parts sep s ≠ []
  := by
  rw [parts, Ne, List.map_eq_nil_iff]
  apply partsFrom_ne_nil

/-- Nothing is before the last part exactly when the separator does not occur. -/
theorem dropLast_parts_eq_nil_iff (hsep : sep.toList = [c]) {s : String} :
  (parts sep s).dropLast = [] ↔ c ∉ s.toList
  := by
  have hne : sep ≠ "" := by
    rintro rfl
    cases hsep
  have hpos := List.length_pos_of_ne_nil (parts_ne_nil sep s)
  rw [← List.singleton_infix_iff, ← hsep, ← length_parts_eq_one_iff hne,
    ← List.length_eq_zero_iff, List.length_dropLast]
  omega

/-- Cutting at a separator that is in sight cuts the two sides. -/
theorem parts_append (hsep : sep.toList = [c]) (s t : String) :
  parts sep (s ++ sep ++ t) = parts sep s ++ parts sep t
  := by
  simp only [parts_eq_splitOn hsep, String.toList_append, hsep, List.append_assoc,
    List.singleton_append, List.splitOn_append_cons_self, List.map_append]

/-! ### Segments -/

theorem isSegment_of_mem_segmentsOn
    (hsep : sep.toList = [c]) {s x : String} (hx : x ∈ segmentsOn sep s) :
  IsSegment c x
  := by
  rw [segmentsOn, List.mem_filter] at hx
  constructor
  · simpa using hx.2
  · apply not_mem_of_mem_parts hsep hx.1

/-- Nothing is lost when all parts are segments. -/
theorem segmentsOn_eq_parts {s : String} (hs : ∀ x ∈ parts sep s, x ≠ "") :
  segmentsOn sep s = parts sep s
  := by
  apply List.filter_eq_self.mpr
  intro x hx
  simpa using hs x hx

/-- The segments of a join of segments are the segments joined. -/
theorem segmentsOn_join
    (hsep : sep.toList = [c]) {xs : List String} (hxs : ∀ x ∈ xs, IsSegment c x) :
  segmentsOn sep (join sep xs) = xs
  := by
  cases xs with
  | nil => simp [segmentsOn, join, parts, partsFrom]
  | cons x xs =>
      have hparts := parts_join hsep (List.cons_ne_nil x xs) (fun y hy => (hxs y hy).2)
      rw [segmentsOn_eq_parts, hparts]
      intro y hy
      rw [hparts] at hy
      apply (hxs y hy).1

theorem segments_join {xs : List String} (hxs : ∀ x ∈ xs, IsSegment '.' x) :
  segments (join "." xs) = xs
  := segmentsOn_join toList_dot hxs

/-- Joining segments by dots is injective. -/
theorem join_injOn
    (hsep : sep.toList = [c]) {xs ys : List String} (hxs : ∀ x ∈ xs, IsSegment c x)
    (hys : ∀ y ∈ ys, IsSegment c y) (h : join sep xs = join sep ys) :
  xs = ys
  := by
  rw [← segmentsOn_join hsep hxs, h, segmentsOn_join hsep hys]

theorem join_append {xs ys : List String} (hxs : xs ≠ []) (hys : ys ≠ []) :
  join sep (xs ++ ys) = join sep xs ++ sep ++ join sep ys
  := String.intercalate_append_of_ne_nil hxs hys

theorem join_concat {xs : List String} (hxs : xs ≠ []) (x : String) :
  join sep (xs ++ [x]) = join sep xs ++ sep ++ x
  := by
  rw [join_append hxs (List.cons_ne_nil x [])]
  simp [join]

/-- A character that is not in the separator is in a join exactly when it is in a member. -/
theorem mem_toList_join_iff (hsep : c ∉ sep.toList) {xs : List String} :
  c ∈ (join sep xs).toList ↔ ∃ x ∈ xs, c ∈ x.toList
  := by
  induction xs with
  | nil => simp [join]
  | cons x xs ih =>
      rcases eq_or_ne xs [] with rfl | hne
      · simp [join]
      · rw [join, String.intercalate_cons_of_ne_nil hne, ← join]
        simp [hsep, ih]

/-- A join is changed by every further member. -/
theorem join_append_eq_iff (hsep : sep ≠ "") {xs ys : List String} (hxs : xs ≠ []) :
  join sep (xs ++ ys) = join sep xs ↔ ys = []
  := by
  constructor
  · intro h
    by_contra hys
    rw [join_append hxs hys, String.append_assoc, String.append_eq_left_iff,
      String.append_eq_empty_iff] at h
    exact hsep h.1
  · rintro rfl
    rw [List.append_nil]

/-- A join of segments is empty only if there are none. -/
theorem join_eq_empty_iff {xs : List String} (hxs : ∀ x ∈ xs, x ≠ "") :
  join sep xs = "" ↔ xs = []
  := by
  constructor
  · intro h
    cases xs with
    | nil => rfl
    | cons x xs =>
        exfalso
        apply hxs x (List.mem_cons_self ..)
        rcases eq_or_ne xs [] with rfl | hne
        · simpa [join] using h
        · rw [join, String.intercalate_cons_of_ne_nil hne, String.append_eq_empty_iff,
            String.append_eq_empty_iff] at h
          apply h.1.1
  · rintro rfl
    rfl

/-- The separator stands before a last member unless nothing is before it. -/
theorem join_concat_eq_if {xs : List String} (hxs : ∀ x ∈ xs, x ≠ "") (x : String) :
  join sep (xs ++ [x]) = if join sep xs = "" then x else join sep xs ++ sep ++ x
  := by
  rcases eq_or_ne xs [] with rfl | hne
  · simp [join]
  · rw [join_concat hne, if_neg]
    rw [join_eq_empty_iff hxs]
    apply hne

/-! ### Cutting off the front and the end -/

/-- What is before the last dot of a join is the join without its last member. -/
theorem beforeLastDot_join {xs : List String} (hxs : ∀ x ∈ xs, IsSegment '.' x) :
  beforeLastDot (join "." xs) = join "." xs.dropLast
  := by
  rcases eq_or_ne xs [] with rfl | hne
  · rfl
  · rw [beforeLastDot, parts_join toList_dot hne (fun x hx => (hxs x hx).2)]

theorem dropStart?_append (s t : String) :
  dropStart? s (s ++ t) = some t
  := by
  simp [dropStart?, String.toList_append]

/-- The segments of a join from which the front members have been dropped, with a dot left
at the front of the rest, are the rest. -/
theorem segments_dropStart?
    {xs ys : List String} (hxs : xs ≠ []) (hys : ys ≠ []) (h : ∀ y ∈ ys, IsSegment '.' y) :
  (dropStart? (join "." xs) (join "." (xs ++ ys))).map segments = some ys
  := by
  have hdot : segments ("." ++ join "." ys) = ys := by
    have happ := parts_append toList_dot "" (join "." ys)
    rw [String.empty_append] at happ
    rw [segments, segmentsOn, happ, List.filter_append]
    apply segments_join h
  rw [join_append hxs hys, String.append_assoc, dropStart?_append, Option.map_some, hdot]

end Text

/-! ### Names of declarations -/

namespace Declaration

/-- The segments of the name of a declaration. -/
def segments (d : Declaration) : List String :=
  Text.segments d.name

theorem segments_eq_parts (d : Declaration) :
  d.segments = Text.parts "." d.name
  := by
  apply Text.segmentsOn_eq_parts
  rintro x hx rfl
  have hblank := d.parts_ne_blank
  rw [List.any_eq_false] at hblank
  apply hblank "" hx rfl

/-- The name of a declaration is the join of its segments. -/
theorem join_segments (d : Declaration) :
  Text.join "." d.segments = d.name
  := by
  rw [segments_eq_parts]
  apply Text.join_parts Text.toList_dot d.name

theorem segments_ne_nil (d : Declaration) :
  d.segments ≠ []
  := by
  rw [segments_eq_parts, Text.parts_eq_splitOn Text.toList_dot]
  simp

theorem isSegment_of_mem_segments {d : Declaration} {s : String} (hs : s ∈ d.segments) :
  Text.IsSegment '.' s
  := Text.isSegment_of_mem_segmentsOn Text.toList_dot hs

/-- Declarations with the same segments have the same name. -/
theorem segments_inj {d e : Declaration} :
  d.segments = e.segments ↔ d.name = e.name
  := by
  constructor
  · intro h
    rw [← join_segments d, h, join_segments e]
  · intro h
    rw [segments, h]
    rfl

end Declaration

end MessagePlacement
