import MessagePlacement.Proofs.Layout.Coverage
import MessagePlacement.Proofs.Plan.Order

/-!
# The division into file groups

The file groups divide the ids that have a path.  Each of these ids is in one list, under the
namespace at which its message was folded; the lists increase, and the groups increase by the ids
that are first in them.  This order is kept while the ids are put into their groups, because they
come in increasing order: an id goes to the end of its list, and a new group to the end of them
all.
-/

namespace MessagePlacement

namespace Layout

variable {groups : List (String × List Int)} {id : Int} {group : String}

/-! ### The order of the groups -/

/-- `InOrder groups`: no group is without ids, and the groups increase by their first ids. -/
structure InOrder (groups : List (String × List Int)) : Prop where
  ne_nil (e : String × List Int) : e ∈ groups → e.2 ≠ []
  pairwise : groups.Pairwise fun e f => ∀ i ∈ e.2.head?, ∀ j ∈ f.2.head?, i < j

theorem inOrder_nil :
  InOrder []
  := ⟨by simp, List.Pairwise.nil⟩

/-- Adding an id to a group keeps the first ids of the groups, or makes a group with this id. -/
theorem head?_of_mem_addToGroup (hne : ∀ e ∈ groups, e.2 ≠ []) {f : String × List Int}
    (hf : f ∈ addToGroup id group groups) :
  (∃ e ∈ groups, e.2.head? = f.2.head?) ∨ f.2.head? = some id
  := by
  induction groups with
  | nil =>
      obtain rfl := List.mem_singleton.mp hf
      right
      rfl
  | cons e groups ih =>
      obtain ⟨g, ids⟩ := e
      rw [addToGroup] at hf
      split at hf
      · rcases List.mem_cons.mp hf with rfl | hf
        · left
          use (g, ids), List.mem_cons_self ..
          symm
          apply List.head?_append_of_ne_nil
          apply hne (g, ids) (List.mem_cons_self ..)
        · left
          use f, List.mem_cons_of_mem _ hf
      · rcases List.mem_cons.mp hf with rfl | hf
        · left
          use (g, ids), List.mem_cons_self ..
        · rcases ih (fun e he => hne e (List.mem_cons_of_mem _ he)) hf with ⟨e, he, heq⟩ | heq
          · left
            use e, List.mem_cons_of_mem _ he
          · right
            apply heq

/-- Adding an id beyond the first ids of the groups keeps their order. -/
theorem InOrder.addToGroup (h : InOrder groups) (hlt : ∀ e ∈ groups, ∀ i ∈ e.2.head?, i < id) :
  InOrder (addToGroup id group groups)
  := by
  constructor
  · intro f hf hnil
    rcases head?_of_mem_addToGroup h.ne_nil hf with ⟨e, he, heq⟩ | heq
    · rw [hnil, List.head?_nil, List.head?_eq_none_iff] at heq
      apply h.ne_nil e he heq
    · rw [hnil] at heq
      cases heq
  · induction groups with
    | nil => apply List.pairwise_singleton
    | cons e groups ih =>
        obtain ⟨g, ids⟩ := e
        obtain ⟨hfirst, hrest⟩ := List.pairwise_cons.mp h.pairwise
        have hids : ids ≠ [] := h.ne_nil (g, ids) (List.mem_cons_self ..)
        have hne : ∀ e ∈ groups, e.2 ≠ [] := fun e he => h.ne_nil e (List.mem_cons_of_mem _ he)
        rw [Layout.addToGroup]
        split
        · apply List.Pairwise.cons _ hrest
          intro f hf
          rw [List.head?_append_of_ne_nil ids hids]
          apply hfirst f hf
        · apply List.Pairwise.cons
          · intro f hf i hi j hj
            rcases head?_of_mem_addToGroup hne hf with ⟨e, he, heq⟩ | heq
            · apply hfirst e he i hi j (heq ▸ hj)
            · rw [heq] at hj
              obtain rfl := Option.mem_some.mp hj
              apply hlt (g, ids) (List.mem_cons_self ..) i hi
          · apply ih ⟨hne, hrest⟩
            intro e he
            apply hlt e (List.mem_cons_of_mem _ he)

/-- Adding increasing ids beyond the first ids of the groups keeps the order of the groups. -/
theorem InOrder.foldl_addToGroup {entries : List (Int × String)}
    (hentries : entries.Pairwise fun a b => a.1 < b.1) (h : InOrder groups)
    (hlt : ∀ entry ∈ entries, ∀ e ∈ groups, ∀ i ∈ e.2.head?, i < entry.1) :
  InOrder (entries.foldl (fun groups (id, group) => Layout.addToGroup id group groups) groups)
  := by
  induction entries generalizing groups with
  | nil => exact h
  | cons entry entries ih =>
      obtain ⟨hfirst, hrest⟩ := List.pairwise_cons.mp hentries
      apply ih hrest
      · apply h.addToGroup
        apply hlt entry (List.mem_cons_self ..)
      · intro later hlater f hf i hi
        rcases head?_of_mem_addToGroup h.ne_nil hf with ⟨e, he, heq⟩ | heq
        · apply hlt later (List.mem_cons_of_mem _ hlater) e he i (heq ▸ hi)
        · rw [heq] at hi
          obtain rfl := Option.mem_some.mp hi
          apply hfirst later hlater

/-! ### The groups of a layout -/

variable {l : Layout}

/-- The ids of a plan with their groups, in increasing order. -/
def sortedGroups (l : Layout) : List (Int × String) :=
  l.plan.groups.mergeSort fun a b => decide (a.1 ≤ b.1)

theorem pairwise_sortedGroups (h : (l.plan.groups.map Prod.fst).Nodup) :
  l.sortedGroups.Pairwise fun a b => a.1 < b.1
  := pairwise_mergeSort_of_nodup Prod.fst h

theorem inOrder_fileGroups (h : (l.plan.groups.map Prod.fst).Nodup) :
  InOrder l.fileGroups
  := by
  apply InOrder.foldl_addToGroup (pairwise_sortedGroups h) inOrder_nil
  simp

/-- The list of a group holds the ids that the plan gives the group, in increasing order. -/
theorem mem_fileGroups_iff_members {ids : List Int} :
  (group, ids) ∈ l.fileGroups ↔ ids ≠ [] ∧ members group l.sortedGroups = ids
  := by
  rw [← lookup_eq_some_iff_mem l.nodup_fileGroups, fileGroups, lookup_foldl_addToGroup,
    List.lookup_nil, ← sortedGroups]
  split
  · rename_i hnil
    rw [hnil]
    simp [eq_comm]
  · rename_i hnil
    rw [Option.getD_none, List.nil_append, Option.some_inj]
    constructor
    · rintro rfl
      exact ⟨hnil, rfl⟩
    · rintro ⟨-, heq⟩
      exact heq

/-- The lists of the file groups increase. -/
theorem pairwise_of_mem_fileGroups (h : (l.plan.groups.map Prod.fst).Nodup) {e : String × List Int}
    (he : e ∈ l.fileGroups) :
  e.2.Pairwise (· < ·)
  := by
  obtain ⟨-, hmembers⟩ := mem_fileGroups_iff_members.mp he
  rw [← hmembers, members, List.pairwise_map]
  apply (pairwise_sortedGroups h).filter

/-- An id is in one list of the file groups, under its group. -/
theorem filter_fileGroups (h : (l.plan.groups.map Prod.fst).Nodup)
    (hid : (id, group) ∈ l.plan.groups) :
  ∃ ids, l.fileGroups.filter (fun e => id ∈ e.2) = [(group, ids)] ∧ ids.count id = 1
  := by
  obtain ⟨ids, hlookup, hmem⟩ := mem_fileGroups_iff.mpr hid
  have hids := (lookup_eq_some_iff_mem l.nodup_fileGroups).mp hlookup
  have hnodup : l.fileGroups.Nodup := List.Nodup.of_map _ l.nodup_fileGroups
  use ids
  constructor
  · rw [← List.perm_singleton,
      List.perm_ext_iff_of_nodup (hnodup.filter _) (List.nodup_singleton _)]
    rintro ⟨g, is⟩
    rw [List.mem_filter, List.mem_singleton, decide_eq_true_iff]
    constructor
    · rintro ⟨his, hin⟩
      -- the plan gives an id one group, and this group has one list
      have hlookup' := (lookup_eq_some_iff_mem l.nodup_fileGroups).mpr his
      have hg := mem_fileGroups_iff.mp ⟨is, hlookup', hin⟩
      obtain rfl : g = group := (Prod.mk.inj (List.inj_on_of_nodup_map h hg hid rfl)).2
      rw [hlookup, Option.some_inj] at hlookup'
      rw [hlookup']
    · rintro ⟨⟩
      exact ⟨hids, hmem⟩
  · apply List.count_eq_one_of_mem _ hmem
    apply (pairwise_of_mem_fileGroups h hids).imp
    apply ne_of_lt

namespace Holds

variable {ds : List Declaration} {fold : Bool}

/-- The ids with a path are those with a group, and none has several. -/
theorem ids_plan (h : l.Holds ds fold) :
  l.plan.paths.map Prod.fst = l.plan.groups.map Prod.fst ∧ (l.plan.groups.map Prod.fst).Nodup
  := by
  cases fold with
  | false =>
      rw [h.plan_eq]
      exact ⟨rfl, List.nodup_nil⟩
  | true =>
      obtain ⟨hpaths, hgroups⟩ := h.tree.ids_plan h.registry.nodup_ids
      constructor
      · rw [h.plan_of_fold, hpaths, hgroups]
      · exact h.nodup_ids.2

end Holds

end Layout

/-- After a start, every id with a path is in one list of the file groups and once in it, under its
fold group, and no other ids are in them.  No list is empty, every list increases, and the groups
increase by their first ids. -/
theorem Resolver.fileGroups_divide_ids
    (r r' : Resolver) (ds : List Declaration) (fold : Bool) (hstart : r.start ds fold = .ok r') :
  ∃ paths groups, r'.assignedPaths = .ok paths ∧ r'.fileGroups = .ok groups
    ∧ (groups.map Prod.fst).Nodup
    ∧ (∀ id ∈ paths.map Prod.fst, ∃ group ids, r'.foldGroup id = .ok group
        ∧ groups.filter (fun e => id ∈ e.2) = [(group, ids)] ∧ ids.count id = 1)
    ∧ (∀ e ∈ groups, ∀ id ∈ e.2, id ∈ paths.map Prod.fst)
    ∧ (∀ e ∈ groups, e.2 ≠ [] ∧ e.2.Pairwise (· < ·))
    ∧ groups.Pairwise fun e f => ∀ i ∈ e.2.head?, ∀ j ∈ f.2.head?, i < j
  := by
  obtain ⟨l, rfl, h⟩ := Resolver.holds_of_start hstart
  obtain ⟨heq, hnodup⟩ := h.ids_plan
  have horder := Layout.inOrder_fileGroups hnodup
  refine ⟨l.plan.paths, l.fileGroups, rfl, rfl, l.nodup_fileGroups, ?_, ?_, ?_, horder.pairwise⟩
  · intro id hid
    rw [heq] at hid
    obtain ⟨⟨id, group⟩, hgroup, rfl⟩ := List.mem_map.mp hid
    obtain ⟨ids, hfilter, hcount⟩ := Layout.filter_fileGroups hnodup hgroup
    have hvalue : l.foldGroup id = group := by
      rw [Layout.foldGroup, Plan.valueOf, (lookup_eq_some_iff_mem hnodup).mpr hgroup,
        Option.getD_some]
    exact ⟨group, ids, congrArg Except.ok hvalue, hfilter, hcount⟩
  · intro e he id hid
    rw [heq, ← Layout.exists_fileGroups_iff]
    exact ⟨e.1, e.2, (lookup_eq_some_iff_mem l.nodup_fileGroups).mpr he, hid⟩
  · intro e he
    exact ⟨horder.ne_nil e he, Layout.pairwise_of_mem_fileGroups hnodup he⟩

/-- The innermost of the nested messages is once in one list, under its fold group. -/
theorem Resolver.fileGroups_divide_ids_nestedMessages :
  ∃ r paths groups, Resolver.start {} nestedMessages true = .ok r
    ∧ r.assignedPaths = .ok paths ∧ r.fileGroups = .ok groups
    ∧ 2 ∈ paths.map Prod.fst
    ∧ (∃ ids, groups.filter (fun e => 2 ∈ e.2) = [("b", ids)] ∧ ids.count 2 = 1)
    ∧ groups.Pairwise fun e f => ∀ i ∈ e.2.head?, ∀ j ∈ f.2.head?, i < j
  := by
  obtain ⟨l, hstart, h⟩ := Resolver.exists_start none nestedMessages true (by decide) (by decide)
  obtain ⟨paths, groups, hpaths, hgroups, -, hone, -, -, horder⟩ :=
    Resolver.fileGroups_divide_ids {} _ nestedMessages true hstart
  have hd : nestedMessages[2] ∈ nestedMessages := by decide
  have hmem : 2 ∈ paths.map Prod.fst := by
    rw [← Except.ok.inj hpaths]
    exact h.tabulates_paths.mem_ids_iff.mpr ⟨_, hd, rfl, by decide⟩
  have hgroup : l.foldGroup 2 = "b" := by
    have hlookup : l.plan.groups.lookup 2 = some "b" :=
      (h.tabulates_groups.lookup_of_mem h.registry.nodup_ids hd).trans (by decide)
    rw [Layout.foldGroup, Plan.valueOf, hlookup]
    rfl
  obtain ⟨group, ids, hfold, hfilter, hcount⟩ := hone 2 hmem
  obtain rfl : group = "b" := (Except.ok.inj hfold).symm.trans hgroup
  exact ⟨_, paths, groups, hstart, hpaths, hgroups, hmem, ⟨ids, hfilter, hcount⟩, horder⟩

end MessagePlacement
