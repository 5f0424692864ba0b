import MessagePlacement.Proofs.Layout.Groups
import MessagePlacement.Proofs.Plan.Message

/-!
# Which messages a layout covers

A folded layout covers its declarations when exactly their ids have a path, a group and a
place in the file groups.  The messages without them are those that the search for fold
levels passes over: the node of such a message has children, so that it is no leaf, and none
of them is a message, so that its children are examined in its stead.
-/

namespace MessagePlacement

namespace Layout

/-- `l.Covers ds`: the ids of `ds` are those with a path, those with a group and those in the
file groups, and none has several paths or groups. -/
structure Covers (l : Layout) (ds : List Declaration) : Prop where
  nodup_paths : (l.plan.paths.map Prod.fst).Nodup
  nodup_groups : (l.plan.groups.map Prod.fst).Nodup
  mem_paths_iff (i : Int) : i ∈ l.plan.paths.map Prod.fst ↔ i ∈ ds.map (·.id)
  mem_groups_iff (i : Int) : i ∈ l.plan.groups.map Prod.fst ↔ i ∈ ds.map (·.id)
  mem_fileGroups_iff (i : Int) :
    (∃ g ids, l.fileGroups.lookup g = some ids ∧ i ∈ ids) ↔ i ∈ ds.map (·.id)

/-- The ids in the file groups are those with a group. -/
theorem exists_fileGroups_iff {l : Layout} {i : Int} :
  (∃ g ids, l.fileGroups.lookup g = some ids ∧ i ∈ ids) ↔ i ∈ l.plan.groups.map Prod.fst
  := by
  simp only [mem_fileGroups_iff, List.mem_map, Prod.exists, exists_and_right, exists_eq_right]

namespace Holds

variable {l : Layout} {ds : List Declaration}

theorem nodup_ids (h : l.Holds ds true) :
  (l.plan.paths.map Prod.fst).Nodup ∧ (l.plan.groups.map Prod.fst).Nodup
  := by
  rw [h.plan_of_fold]
  apply l.tree.root.nodup_plan

/-- A folded layout covers its declarations exactly when none of them is passed over. -/
theorem covers_iff (h : l.Holds ds true) :
  l.Covers ds ↔ ∀ d ∈ ds, ¬ IsPassedOver ds d
  := by
  have hid := h.registry.nodup_ids
  constructor
  · intro hcovers d hd hover
    have hmem := (hcovers.mem_paths_iff d.id).mpr (List.mem_map_of_mem hd)
    obtain ⟨e, he, heq, hnot⟩ := h.tabulates_paths.mem_ids_iff.mp hmem
    obtain rfl := List.inj_on_of_nodup_map hid he hd heq
    apply hnot hover
  · intro hnone
    have hall : ∀ i, (∃ d ∈ ds, d.id = i ∧ ¬ IsPassedOver ds d) ↔ i ∈ ds.map (·.id) := by
      intro i
      rw [List.mem_map]
      constructor
      · rintro ⟨d, hd, hi, -⟩
        exact ⟨d, hd, hi⟩
      · rintro ⟨d, hd, hi⟩
        exact ⟨d, hd, hi, hnone d hd⟩
    constructor
    · apply h.nodup_ids.1
    · apply h.nodup_ids.2
    · intro i
      rw [h.tabulates_paths.mem_ids_iff, hall]
    · intro i
      rw [h.tabulates_groups.mem_ids_iff, hall]
    · intro i
      rw [exists_fileGroups_iff, h.tabulates_groups.mem_ids_iff, hall]

end Holds

end Layout

/-- A resolver that starts with declarations of distinct ids and names gives a path, a group
and a place in the file groups to the messages that are not passed over, and to no others; so
it covers the declarations exactly when none is passed over. -/
theorem Resolver.start_covers_iff
    (naming : Option NamingOracle) (ds : List Declaration) (hid : (ds.map (·.id)).Nodup)
    (hname : (ds.map (·.name)).Nodup) :
  ∃ l, Resolver.start ⟨naming, none⟩ ds true = .ok ⟨naming, some l⟩
    ∧ (l.plan.paths.map Prod.fst).Nodup ∧ (l.plan.groups.map Prod.fst).Nodup
    ∧ (∀ i, i ∈ l.plan.paths.map Prod.fst ↔ ∃ d ∈ ds, d.id = i ∧ ¬ IsPassedOver ds d)
    ∧ (∀ i, i ∈ l.plan.groups.map Prod.fst ↔ ∃ d ∈ ds, d.id = i ∧ ¬ IsPassedOver ds d)
    ∧ (∀ i, (∃ g ids, l.fileGroups.lookup g = some ids ∧ i ∈ ids)
        ↔ ∃ d ∈ ds, d.id = i ∧ ¬ IsPassedOver ds d)
    ∧ (l.Covers ds ↔ ∀ d ∈ ds, ¬ IsPassedOver ds d)
  := by
  obtain ⟨l, hl, h⟩ := Resolver.exists_start naming ds true hid hname
  refine ⟨l, hl, h.nodup_ids.1, h.nodup_ids.2, ?_, ?_, ?_, ?_⟩
  · intro i
    apply h.tabulates_paths.mem_ids_iff
  · intro i
    apply h.tabulates_groups.mem_ids_iff
  · intro i
    rw [Layout.exists_fileGroups_iff]
    apply h.tabulates_groups.mem_ids_iff
  · apply h.covers_iff

theorem Resolver.start_covers_iff_nestedMessages :
  (nestedMessages.map (·.id)).Nodup ∧ (nestedMessages.map (·.name)).Nodup
    ∧ ∃ l, Resolver.start ⟨none, none⟩ nestedMessages true = .ok ⟨none, some l⟩
      ∧ l.Covers nestedMessages
  := by
  refine ⟨by decide, by decide, ?_⟩
  obtain ⟨l, hl, -, -, -, -, -, hcovers⟩ :=
    Resolver.start_covers_iff none nestedMessages (by decide) (by decide)
  exact ⟨l, hl, hcovers.mpr (by decide)⟩

/-- A message outside of any namespace, and one two levels below its name. -/
def passedMessages : List Declaration :=
  [⟨1, "Foo", none, by decide, by decide, by decide, by decide⟩,
    ⟨3, "Foo.bar.Baz", none, by decide, by decide, by decide, by decide⟩]

/-- The first of the two messages has neither a path nor a group. -/
theorem Resolver.start_not_covers_passedMessages :
  (passedMessages.map (·.id)).Nodup ∧ (passedMessages.map (·.name)).Nodup
    ∧ ∃ l, Resolver.start ⟨none, none⟩ passedMessages true = .ok ⟨none, some l⟩
      ∧ l.plan.paths.lookup 1 = none ∧ l.plan.groups.lookup 1 = none
      ∧ l.plan.paths.lookup 3 = some "bar" ∧ l.plan.groups.lookup 3 = some "bar"
      ∧ ¬ l.Covers passedMessages
  := by
  refine ⟨by decide, by decide, ?_⟩
  obtain ⟨l, hl, h⟩ := Resolver.exists_start none passedMessages true (by decide) (by decide)
  have hid := h.registry.nodup_ids
  have hfoo : passedMessages[0] ∈ passedMessages := by decide
  have hbaz : passedMessages[1] ∈ passedMessages := by decide
  refine ⟨l, hl, ?_, ?_, ?_, ?_, ?_⟩
  · exact (h.tabulates_paths.lookup_of_mem hid hfoo).trans (by decide)
  · exact (h.tabulates_groups.lookup_of_mem hid hfoo).trans (by decide)
  · exact (h.tabulates_paths.lookup_of_mem hid hbaz).trans (by decide)
  · exact (h.tabulates_groups.lookup_of_mem hid hbaz).trans (by decide)
  · rw [h.covers_iff]
    decide

end MessagePlacement
