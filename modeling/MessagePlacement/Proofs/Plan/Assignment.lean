import MessagePlacement.Plan
import MessagePlacement.Proofs.Lookup

/-!
# Assigning values to ids

The entries of a plan form a map from ids: after several assignments an id has the value of
its last one, and no id occurs twice.  `Placement` is a path and a group for an id; when
the placements of an id agree, a plan made of them says of the id what they say.
-/

namespace MessagePlacement

namespace Plan

/-! ### Values and ids -/

/-- Assigning sets the value of one id. -/
theorem lookup_assign (i j : Int) (v : String) (l : List (Int × String)) :
  (assign i v l).lookup j = if j = i then some v else l.lookup j
  := by
  induction l with
  | nil => exact lookup_cons_eq_if j i v []
  | cons e l ih =>
      obtain ⟨k, w⟩ := e
      rw [assign]
      by_cases hk : k = i
      · subst hk
        rw [if_pos rfl, lookup_cons_eq_if, lookup_cons_eq_if]
        by_cases hj : j = k
        · rw [if_pos hj, if_pos hj]
        · rw [if_neg hj, if_neg hj, if_neg hj]
      · rw [if_neg hk, lookup_cons_eq_if, lookup_cons_eq_if, ih]
        by_cases hj : j = k
        · subst hj
          rw [if_pos rfl, if_pos rfl, if_neg hk]
        · rw [if_neg hj, if_neg hj]

/-- Assigning keeps the place of an id, or puts a new one at the end. -/
theorem ids_assign (i : Int) (v : String) (l : List (Int × String)) :
  (assign i v l).map Prod.fst
    = if i ∈ l.map Prod.fst then l.map Prod.fst else l.map Prod.fst ++ [i]
  := by
  induction l with
  | nil => simp [assign]
  | cons e l ih =>
      obtain ⟨k, w⟩ := e
      rw [assign]
      by_cases hk : k = i
      · simp [hk]
      · have hk' : ¬ i = k := fun h => hk h.symm
        rw [if_neg hk, List.map_cons, ih]
        by_cases hi : i ∈ l.map Prod.fst
        · simp only [List.map_cons, List.mem_cons, hi, or_true, if_true]
        · simp only [List.map_cons, List.mem_cons, hi, hk', or_self, if_false, List.cons_append]

theorem nodup_assign (i : Int) (v : String) {l : List (Int × String)}
    (h : (l.map Prod.fst).Nodup) :
  ((assign i v l).map Prod.fst).Nodup
  := by
  rw [ids_assign]
  split
  · apply h
  · rename_i hi
    rw [← List.concat_eq_append, List.nodup_concat]
    exact ⟨hi, h⟩

/-- The list with the values of the entries `es` assigned to their ids, in order. -/
def assignAll (es l : List (Int × String)) : List (Int × String) :=
  es.foldl (fun l e => assign e.1 e.2 l) l

/-- After several assignments an id has the value of its last one. -/
theorem lookup_assignAll (es l : List (Int × String)) (i : Int) :
  (assignAll es l).lookup i = (es.reverse.lookup i).or (l.lookup i)
  := by
  induction es generalizing l with
  | nil => rfl
  | cons e es ih =>
      obtain ⟨k, v⟩ := e
      rw [assignAll, List.foldl_cons, ← assignAll, ih, List.reverse_cons, List.lookup_append,
        Option.or_assoc, lookup_assign, lookup_cons_eq_if]
      by_cases hi : i = k
      · rw [if_pos hi, if_pos hi, Option.some_or]
      · rw [if_neg hi, if_neg hi, List.lookup_nil, Option.none_or]

theorem nodup_assignAll (es : List (Int × String)) {l : List (Int × String)}
    (h : (l.map Prod.fst).Nodup) :
  ((assignAll es l).map Prod.fst).Nodup
  := by
  induction es generalizing l with
  | nil => exact h
  | cons e es ih => exact ih (nodup_assign e.1 e.2 h)

/-- Assigning values to distinct new ids puts them at the end, in order. -/
theorem ids_assignAll {es l : List (Int × String)} (h : (l.map Prod.fst ++ es.map Prod.fst).Nodup) :
  (assignAll es l).map Prod.fst = l.map Prod.fst ++ es.map Prod.fst
  := by
  induction es generalizing l with
  | nil => exact (List.append_nil _).symm
  | cons e es ih =>
      rw [List.map_cons, List.append_cons] at h ⊢
      have hnew : e.1 ∉ l.map Prod.fst := by
        intro he
        exact (List.nodup_append.mp (List.nodup_append.mp h).1).2.2 e.1 he e.1
          (List.mem_singleton_self _) rfl
      have hassign : (assign e.1 e.2 l).map Prod.fst = l.map Prod.fst ++ [e.1] := by
        rw [ids_assign, if_neg hnew]
      rw [← hassign] at h ⊢
      exact ih h

end Plan

/-! ### Placements -/

/-- A path and a group for an id. -/
structure Placement where
  id : Int
  path : String
  group : String

namespace Plan

/-- A plan with placements set, in order. -/
def setAll (es : List Placement) (plan : Plan) : Plan :=
  es.foldl (fun plan e => plan.set e.id e.path e.group) plan

theorem setAll_append (es fs : List Placement) (plan : Plan) :
  setAll (es ++ fs) plan = setAll fs (setAll es plan)
  := List.foldl_append

theorem paths_setAll (es : List Placement) (plan : Plan) :
  (setAll es plan).paths = assignAll (es.map fun e => (e.id, e.path)) plan.paths
  := by
  induction es generalizing plan with
  | nil => rfl
  | cons e es ih => exact ih (plan.set e.id e.path e.group)

theorem groups_setAll (es : List Placement) (plan : Plan) :
  (setAll es plan).groups = assignAll (es.map fun e => (e.id, e.group)) plan.groups
  := by
  induction es generalizing plan with
  | nil => rfl
  | cons e es ih => exact ih (plan.set e.id e.path e.group)

/-- No id occurs twice in a plan made of placements. -/
theorem nodup_setAll (es : List Placement) :
  ((setAll es .empty).paths.map Prod.fst).Nodup ∧ ((setAll es .empty).groups.map Prod.fst).Nodup
  := by
  rw [paths_setAll, groups_setAll]
  constructor
  · exact nodup_assignAll _ List.nodup_nil
  · exact nodup_assignAll _ List.nodup_nil

/-- The ids of a plan made of placements with distinct ids are theirs, in order. -/
theorem ids_setAll {es : List Placement} (h : (es.map (·.id)).Nodup) :
  (setAll es .empty).paths.map Prod.fst = es.map (·.id)
    ∧ (setAll es .empty).groups.map Prod.fst = es.map (·.id)
  := by
  have hfield : ∀ field : Placement → String,
      (assignAll (es.map fun e => (e.id, field e)) []).map Prod.fst = es.map (·.id) := by
    intro field
    rw [ids_assignAll]
    · simp
    · simpa [Function.comp_def] using h
  rw [paths_setAll, groups_setAll]
  exact ⟨hfield Placement.path, hfield Placement.group⟩

/-- When the placements of every id agree in a field, an id has a value in a list of
assignments of that field exactly when it is the one of a placement. -/
theorem lookup_assignAll_placements {es : List Placement} (field : Placement → String)
    (h : ∀ e ∈ es, ∀ f ∈ es, e.id = f.id → e = f) {i : Int} {v : String} :
  (assignAll (es.map fun e => (e.id, field e)) []).lookup i = some v
    ↔ ∃ e ∈ es, e.id = i ∧ field e = v
  := by
  rw [lookup_assignAll, List.lookup_nil, Option.or_none, lookup_eq_some_iff_of_agree]
  · simp
  · intro v w hv hw
    simp only [List.mem_reverse, List.mem_map, Prod.mk.injEq] at hv hw
    obtain ⟨e, he, rfl, rfl⟩ := hv
    obtain ⟨f, hf, hid, rfl⟩ := hw
    rw [h f hf e he hid]

/-- A plan made of placements that agree for every id has the paths of the placements. -/
theorem lookup_paths_setAll {es : List Placement}
    (h : ∀ e ∈ es, ∀ f ∈ es, e.id = f.id → e = f) {i : Int} {v : String} :
  (setAll es .empty).paths.lookup i = some v ↔ ∃ e ∈ es, e.id = i ∧ e.path = v
  := by
  rw [paths_setAll]
  apply lookup_assignAll_placements Placement.path h

/-- A plan made of placements that agree for every id has the groups of the placements. -/
theorem lookup_groups_setAll {es : List Placement}
    (h : ∀ e ∈ es, ∀ f ∈ es, e.id = f.id → e = f) {i : Int} {v : String} :
  (setAll es .empty).groups.lookup i = some v ↔ ∃ e ∈ es, e.id = i ∧ e.group = v
  := by
  rw [groups_setAll]
  apply lookup_assignAll_placements Placement.group h

end Plan

end MessagePlacement
