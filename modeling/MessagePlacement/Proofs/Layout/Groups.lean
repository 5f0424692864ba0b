import MessagePlacement.Proofs.Layout.Contents

/-!
# File groups

The file groups of a layout list the ids of each group in increasing order.  No group has two
entries, and it has one exactly when it has an id, so an id occurs in the groups exactly when the
plan gives it one.  `l.InOneGroup a b` says that two ids are in one list of the file groups.
-/

namespace MessagePlacement.Layout

/-- Adding an id to a group puts it at the end of that group and keeps the others. -/
theorem lookup_addToGroup (id : Int) (group g : String) (groups : List (String × List Int)) :
  (addToGroup id group groups).lookup g
    = if g = group then some ((groups.lookup g).getD [] ++ [id]) else groups.lookup g
  := by
  induction groups with
  | nil => apply lookup_cons_eq_if
  | cons e groups ih =>
      obtain ⟨k, ids⟩ := e
      rw [addToGroup]
      by_cases hk : k = group
      · subst hk
        rw [if_pos rfl, lookup_cons_eq_if, lookup_cons_eq_if]
        by_cases hg : g = k
        · rw [if_pos hg, if_pos hg, if_pos hg, Option.getD_some]
        · rw [if_neg hg, if_neg hg, if_neg hg]
      · rw [if_neg hk, lookup_cons_eq_if, lookup_cons_eq_if, ih]
        by_cases hg : g = k
        · subst hg
          rw [if_pos rfl, if_pos rfl, if_neg hk]
        · rw [if_neg hg, if_neg hg]

/-- Adding an id to a group keeps the place of that group, or puts a new one at the end. -/
theorem keys_addToGroup (id : Int) (group : String) (groups : List (String × List Int)) :
  (addToGroup id group groups).map Prod.fst
    = if group ∈ groups.map Prod.fst then groups.map Prod.fst else groups.map Prod.fst ++ [group]
  := by
  induction groups with
  | nil => simp [addToGroup]
  | cons e groups ih =>
      obtain ⟨k, ids⟩ := e
      rw [addToGroup]
      by_cases hk : k = group
      · simp [hk]
      · have hk' : ¬ group = k := fun h => hk h.symm
        rw [if_neg hk, List.map_cons, ih]
        by_cases hgroup : group ∈ groups.map Prod.fst
        · simp only [List.map_cons, List.mem_cons, hgroup, or_true, if_true]
        · simp only [List.map_cons, List.mem_cons, hgroup, hk', or_self, if_false,
            List.cons_append]

theorem nodup_addToGroup (id : Int) (group : String) {groups : List (String × List Int)}
    (h : (groups.map Prod.fst).Nodup) :
  ((addToGroup id group groups).map Prod.fst).Nodup
  := by
  rw [keys_addToGroup]
  split
  · apply h
  · rename_i hgroup
    rw [← List.concat_eq_append, List.nodup_concat]
    exact ⟨hgroup, h⟩

theorem nodup_foldl_addToGroup (entries : List (Int × String)) {groups : List (String × List Int)}
    (h : (groups.map Prod.fst).Nodup) :
  ((entries.foldl (fun groups (id, group) => addToGroup id group groups) groups).map
    Prod.fst).Nodup
  := by
  induction entries generalizing groups with
  | nil => exact h
  | cons e entries ih => exact ih (nodup_addToGroup e.1 e.2 h)

/-- No group has two entries in the file groups. -/
theorem nodup_fileGroups (l : Layout) :
  (l.fileGroups.map Prod.fst).Nodup
  := nodup_foldl_addToGroup _ List.nodup_nil

/-- The ids of the entries of a group, in order. -/
def members (g : String) (entries : List (Int × String)) : List Int :=
  (entries.filter fun e => e.2 = g).map Prod.fst

/-- Grouping the ids of a list adds to each group its members, and makes it if it has any. -/
theorem lookup_foldl_addToGroup
    (entries : List (Int × String)) (g : String) (groups : List (String × List Int)) :
  (entries.foldl (fun groups (id, group) => addToGroup id group groups) groups).lookup g
    = if members g entries = [] then groups.lookup g
      else some ((groups.lookup g).getD [] ++ members g entries)
  := by
  induction entries generalizing groups with
  | nil => rfl
  | cons e entries ih =>
      obtain ⟨id, group⟩ := e
      rw [List.foldl_cons, ih, lookup_addToGroup]
      by_cases hg : g = group
      · subst hg
        have hcons : members g ((id, g) :: entries) = id :: members g entries := by
          simp [members]
        rw [hcons, if_pos rfl, if_neg (List.cons_ne_nil _ _)]
        by_cases hnil : members g entries = []
        · rw [if_pos hnil, hnil]
        · rw [if_neg hnil, Option.getD_some, List.append_assoc, List.singleton_append]
      · have hskip : members g ((id, group) :: entries) = members g entries := by
          have hne : ¬ group = g := fun h => hg h.symm
          simp [members, hne]
        rw [if_neg hg, hskip]

/-- The ids of a group are the ones that the plan gives the group. -/
theorem mem_fileGroups_iff {l : Layout} {g : String} {i : Int} :
  (∃ ids, l.fileGroups.lookup g = some ids ∧ i ∈ ids) ↔ (i, g) ∈ l.plan.groups
  := by
  have hmem : i ∈ members g (l.plan.groups.mergeSort fun a b => decide (a.1 ≤ b.1))
      ↔ (i, g) ∈ l.plan.groups := by
    simp [members, List.mem_mergeSort]
  rw [fileGroups, lookup_foldl_addToGroup, List.lookup_nil, ← hmem]
  split
  · rename_i hnil
    simp [hnil]
  · simp

/-- `l.InOneGroup a b`: the ids `a` and `b` are in one list of the file groups. -/
def InOneGroup (l : Layout) (a b : Int) : Prop :=
  ∃ g ids, (g, ids) ∈ l.fileGroups ∧ a ∈ ids ∧ b ∈ ids

/-- Two ids are in one list of the file groups when the plan gives them the same group. -/
theorem inOneGroup_iff {l : Layout} {a b : Int} :
  l.InOneGroup a b ↔ ∃ g, (a, g) ∈ l.plan.groups ∧ (b, g) ∈ l.plan.groups
  := by
  constructor
  · rintro ⟨g, ids, hids, ha, hb⟩
    rw [← lookup_eq_some_iff_mem l.nodup_fileGroups] at hids
    exact ⟨g, mem_fileGroups_iff.mp ⟨ids, hids, ha⟩, mem_fileGroups_iff.mp ⟨ids, hids, hb⟩⟩
  · rintro ⟨g, ha, hb⟩
    obtain ⟨ids, hids, ha⟩ := mem_fileGroups_iff.mpr ha
    obtain ⟨ids', hids', hb⟩ := mem_fileGroups_iff.mpr hb
    rw [hids, Option.some_inj] at hids'
    subst hids'
    exact ⟨g, ids, (lookup_eq_some_iff_mem l.nodup_fileGroups).mp hids, ha, hb⟩

end MessagePlacement.Layout
