import MessagePlacement.Proofs.Plan.Shape

/-!
# Trees alike

The children of a node stand in the order in which they were made, so trees that hold the same
declarations may differ.  `Alike n m` says that two nodes stand at the same path and have the same
payloads below them.  Then there are nodes at the same paths below both, and since walks go
through the paths in increasing order they look the same, as do the flattenings and the plans.
-/

namespace MessagePlacement

namespace Node

/-- `Alike n m`: the nodes stand at the same path and have the same payloads below them. -/
structure Alike (n m : Node) : Prop where
  located : ∃ path, Located path n ∧ Located path m
  payloadAt_eq (path : List String) : n.payloadAt path = m.payloadAt path

/-- What shows of a node in a walk: its segments, its full name and its payload. -/
def view (e : List String × Node) : List String × String × Option Declaration :=
  (e.1, e.2.fullName, e.2.payload)

/-- The walk of a located node shows the paths of nodes, with their full names and payloads. -/
theorem Located.mem_map_view_walk {path : List String} {n : Node} (h : Located path n)
    {v : List String × String × Option Declaration} :
  v ∈ n.walk.map view
    ↔ (∃ m, n.descend? v.1 = some m) ∧ v.2 = (Text.join "." (path ++ v.1), n.payloadAt v.1)
  := by
  have hview : ∀ {q m}, n.descend? q = some m →
      view (q, m) = (q, Text.join "." (path ++ q), n.payloadAt q) := by
    intro q m hm
    rw [view, (h.descend? hm).fullName_eq, payloadAt, hm]
    rfl
  rw [List.mem_map]
  constructor
  · rintro ⟨⟨q, m⟩, hwalk, rfl⟩
    have hm := h.mem_walk.mp hwalk
    rw [hview hm]
    exact ⟨⟨m, hm⟩, rfl⟩
  · rintro ⟨⟨m, hm⟩, hshown⟩
    use (v.1, m), h.mem_walk.mpr hm
    rw [hview hm, ← hshown]

theorem flatten_eq_filterMap (n : Node) :
  n.flatten = (n.walk.map view).filterMap fun v => v.2.2.map (v.2.1, ·)
  := by
  rw [flatten, List.filterMap_map]
  rfl

namespace Alike

variable {n m : Node}

/-- There are nodes at the same paths. -/
theorem exists_descend?_iff (h : Alike n m) (path : List String) :
  (∃ b, n.descend? path = some b) ↔ ∃ b, m.descend? path = some b
  := by
  obtain ⟨_, hn, hm⟩ := h.located
  rcases eq_or_ne path [] with rfl | hpath
  · constructor
    · rintro -
      use m
      rfl
    · rintro -
      use n
      rfl
  · rw [hn.exists_descend?_iff hpath, hm.exists_descend?_iff hpath]
    simp only [h.payloadAt_eq]

theorem map_view_walk (h : Alike n m) :
  n.walk.map view = m.walk.map view
  := by
  obtain ⟨path, hn, hm⟩ := h.located
  apply eq_of_pairwise (r := fun v w => v.1 < w.1) List.lt_asymm
    (List.pairwise_map.mpr hn.pairwise_walk) (List.pairwise_map.mpr hm.pairwise_walk)
  intro v
  rw [hn.mem_map_view_walk, hm.mem_map_view_walk, h.exists_descend?_iff, h.payloadAt_eq]

theorem flatten_eq (h : Alike n m) :
  n.flatten = m.flatten
  := by
  rw [flatten_eq_filterMap, flatten_eq_filterMap, h.map_view_walk]

theorem plan_eq (h : Alike n m) :
  n.plan = m.plan
  := by
  obtain ⟨path, hn, hm⟩ := h.located
  apply SameShape.plan_eq ⟨⟨path, hn⟩, ⟨path, hm⟩, _⟩
  intro q _
  rw [idAt, idAt, h.payloadAt_eq]

end Alike

end Node

/-- Trees that hold the same declarations are alike. -/
theorem Tree.Holds.alike {t u : Tree} {ds : List Declaration} (ht : t.Holds ds) (hu : u.Holds ds) :
  t.root.Alike u.root
  := by
  constructor
  · exact ⟨[], ht.located, hu.located⟩
  · intro path
    apply Option.ext
    intro d
    rw [ht.payloadAt_iff, hu.payloadAt_iff]

end MessagePlacement
