import MessagePlacement.Proofs.Plan.Namespace

/-!
# The order of a plan

The search for fold levels takes nodes from the front of its queue and puts their children at the
end.  What keeps its levels apart is that any two members of the queue are `InQueueOrder`: the
later one is at the same level and greater, or one level below, and then its parent is less than
the earlier one and was examined before it.  So fold levels are found by depth, and by path within
one depth, and the ids of a plan stand by the depth of folding first and then by the segments of
the names.
-/

namespace MessagePlacement

namespace Node

/-- The segments of the full name of a node. -/
def segments (n : Node) : List String := Text.segments n.fullName

theorem Located.segments_eq {path : List String} {n : Node} (h : Located path n) :
  n.segments = path
  := h.segments_fullName

/-! ### Levels -/

/-- `InLevelOrder p q`: the path `p` is the shorter one, or of the same length and less. -/
def InLevelOrder (p q : List String) : Prop :=
  p.length < q.length ∨ p.length = q.length ∧ p < q

/-- `InQueueOrder p q`: the path `q` is at the level of `p` and greater, or one level below `p`
with a parent less than `p`. -/
def InQueueOrder (p q : List String) : Prop :=
  p.length = q.length ∧ p < q ∨ q.length = p.length + 1 ∧ q.dropLast < p

namespace InQueueOrder

variable {p q : List String}

/-- What is at or below a later member of a queue comes later by levels. -/
theorem inLevelOrder_append (h : InQueueOrder p q) (rest : List String) :
  InLevelOrder p (q ++ rest)
  := by
  rw [InLevelOrder, List.length_append]
  rcases h with ⟨hlength, hlt⟩ | ⟨hlength, -⟩
  · rcases eq_or_ne rest [] with rfl | hrest
    · right
      rw [List.append_nil]
      exact ⟨hlength, hlt⟩
    · have hpos := List.length_pos_of_ne_nil hrest
      left
      omega
  · left
    omega

/-- The children of an earlier member of a queue come after a later member. -/
theorem concat (h : InQueueOrder p q) (s : String) :
  InQueueOrder q (p ++ [s])
  := by
  rw [InQueueOrder, List.length_append, List.length_singleton, List.dropLast_concat]
  rcases h with ⟨hlength, hlt⟩ | ⟨hlength, hlt⟩
  · right
    exact ⟨congrArg (· + 1) hlength, hlt⟩
  · left
    have hne : q ≠ [] := List.ne_nil_of_length_eq_add_one hlength
    obtain ⟨q, t, rfl⟩ := (List.eq_nil_or_concat' q).resolve_left hne
    rw [List.dropLast_concat] at hlt
    use hlength
    apply append_lt_append_of_length_eq hlt
    simpa using hlength

/-- The children of a node are in order by their names. -/
theorem of_lt (path : List String) {s t : String} (h : s < t) :
  InQueueOrder (path ++ [s]) (path ++ [t])
  := by
  left
  constructor
  · simp
  · apply List.append_left_lt (.rel h)

end InQueueOrder

/-! ### The queue -/

/-- A queue of located nodes whose members are in order. -/
structure IsQueue (queue : List Node) : Prop where
  located : ∀ n ∈ queue, Located n.segments n
  pairwise : queue.Pairwise fun n m => InQueueOrder n.segments m.segments

theorem Located.segments_child {path : List String} {n c : Node} (h : Located path n)
    (hc : c ∈ n.sortedChildren) :
  c.segments = path ++ [c.name]
  := (h.child (mem_sortedChildren.mp hc)).segments_eq

/-- The children of a node make a queue. -/
theorem Located.isQueue {path : List String} {n : Node} (h : Located path n) :
  IsQueue n.sortedChildren
  := by
  constructor
  · intro c hc
    rw [h.segments_child hc]
    apply h.child (mem_sortedChildren.mp hc)
  · apply h.pairwise_sortedChildren.imp_of_mem
    intro b c hb hc hlt
    rw [h.segments_child hb, h.segments_child hc]
    apply InQueueOrder.of_lt path hlt

namespace IsQueue

variable {n : Node} {queue : List Node}

theorem dequeue (h : IsQueue (n :: queue)) :
  IsQueue queue
  := by
  constructor
  · intro m hm
    apply h.located m (List.mem_cons_of_mem n hm)
  · apply h.pairwise.of_cons

/-- A queue stays in order when its first member gives place to the children of it. -/
theorem enqueue (h : IsQueue (n :: queue)) :
  IsQueue (queue ++ n.sortedChildren)
  := by
  have hn := h.located n List.mem_cons_self
  constructor
  · intro m hm
    rcases List.mem_append.mp hm with hm | hm
    · apply h.dequeue.located m hm
    · apply hn.isQueue.located m hm
  · rw [List.pairwise_append]
    refine ⟨h.dequeue.pairwise, hn.isQueue.pairwise, ?_⟩
    intro m hm c hc
    rw [hn.segments_child hc]
    apply (List.rel_of_pairwise_cons h.pairwise hm).concat

/-- The search of a queue finds fold levels in the order of the levels. -/
theorem pairwise_foldLevels (h : IsQueue queue) :
  (foldLevels queue).Pairwise fun n m => InLevelOrder n.segments m.segments
  := by
  induction queue using foldLevels.induct with
  | case1 => simp [foldLevels]
  | case2 n queue hn ih =>
      rw [foldLevels, if_pos hn, List.pairwise_cons]
      refine ⟨?_, ih h.dequeue⟩
      intro m hm
      obtain ⟨b, hb, rest, hfolded⟩ := mem_foldLevels.mp hm
      have hlocated := h.dequeue.located b hb
      have hsegments := (hlocated.descend? (hlocated.foldedAt_iff.mp hfolded).1).segments_eq
      rw [hsegments]
      apply (List.rel_of_pairwise_cons h.pairwise hb).inLevelOrder_append
  | case3 n queue hn ih =>
      rw [foldLevels, if_neg hn]
      apply ih h.enqueue

end IsQueue

end Node

/-! ### The declarations that are folded -/

/-- The declarations that the plan of a tree folds, in order, each with the path of the node at
which it is folded. -/
def Tree.folded (t : Tree) : List (List String × Declaration) :=
  (Node.foldLevels t.root.sortedChildren).flatMap fun n => n.flatten.map fun e => (n.segments, e.2)

theorem Tree.ids_placements (t : Tree) :
  ((Node.foldLevels t.root.sortedChildren).flatMap Node.placements).map (·.id)
    = t.folded.map (·.2.id)
  := by
  simp [folded, Node.placements, List.map_flatMap, Function.comp_def]

namespace Tree.Holds

variable {t : Tree} {ds : List Declaration}

theorem descend?_segments (h : t.Holds ds) {n : Node}
    (hn : n ∈ Node.foldLevels t.root.sortedChildren) :
  t.root.descend? n.segments = some n
  := by
  obtain ⟨path, -, hpath, -⟩ := h.mem_foldLevels_iff.mp hn
  rw [(h.located.descend? hpath).segments_eq]
  apply hpath

theorem mem_folded_iff (h : t.Holds ds) (hid : (ds.map (·.id)).Nodup) {path : List String}
    {d : Declaration} :
  (path, d) ∈ t.folded ↔ d ∈ ds ∧ t.FoldsAt path d.id
  := by
  simp only [folded, List.mem_flatMap, List.mem_map, Prod.mk.injEq]
  constructor
  · rintro ⟨n, hfold, e, he, rfl, rfl⟩
    have hn := h.descend?_segments hfold
    exact ⟨((h.mem_flatten_iff hn).mp he).1, n, hfold, hn, e, he, rfl⟩
  · rintro ⟨hd, n, hfold, hn, e, he, heq⟩
    have hmem := ((h.mem_flatten_iff hn).mp he).1
    exact ⟨n, hfold, e, he, (h.located.descend? hn).segments_eq,
      List.inj_on_of_nodup_map hid hmem hd heq⟩

/-- The declarations are folded by depth, and at one depth in the order of their segments. -/
theorem pairwise_folded (h : t.Holds ds) :
  t.folded.Pairwise fun e f =>
    e.1.length < f.1.length ∨ e.1.length = f.1.length ∧ e.2.segments < f.2.segments
  := by
  rw [folded, List.pairwise_flatMap]
  constructor
  · intro n hn
    rw [List.pairwise_map]
    apply (h.pairwise_flatten (h.descend?_segments hn)).imp
    intro e f hlt
    right
    exact ⟨rfl, hlt⟩
  · apply h.located.isQueue.pairwise_foldLevels.imp_of_mem
    intro n m hn hm hlevel e' he' f' hf'
    obtain ⟨e, he, rfl⟩ := List.mem_map.mp he'
    obtain ⟨f, hf, rfl⟩ := List.mem_map.mp hf'
    apply hlevel.imp_right
    rintro ⟨hlength, hlt⟩
    obtain ⟨p, hp⟩ := ((h.mem_flatten_iff (h.descend?_segments hn)).mp he).2.1
    obtain ⟨q, hq⟩ := ((h.mem_flatten_iff (h.descend?_segments hm)).mp hf).2.1
    use hlength
    rw [← hp, ← hq]
    apply append_lt_append_of_length_eq hlt hlength

/-- With distinct ids, no id is folded twice. -/
theorem nodup_ids_folded (h : t.Holds ds) (hid : (ds.map (·.id)).Nodup) :
  (t.folded.map (·.2.id)).Nodup
  := by
  rw [List.Nodup, List.pairwise_map]
  apply h.pairwise_folded.imp_of_mem
  rintro ⟨p, d⟩ ⟨q, e⟩ hd he hlt heq
  rw [h.mem_folded_iff hid] at hd he
  obtain rfl := List.inj_on_of_nodup_map hid hd.1 he.1 heq
  obtain rfl := h.foldsAt_unique hid hd.2 he.2
  rcases hlt with hlt | ⟨-, hlt⟩
  · apply Nat.lt_irrefl _ hlt
  · apply List.lt_irrefl _ hlt

/-- The ids of a plan are those of the declarations that are folded, in their order. -/
theorem ids_plan (h : t.Holds ds) (hid : (ds.map (·.id)).Nodup) :
  t.plan.paths.map Prod.fst = t.folded.map (·.2.id)
    ∧ t.plan.groups.map Prod.fst = t.folded.map (·.2.id)
  := by
  have hnodup := h.nodup_ids_folded hid
  rw [← ids_placements] at hnodup ⊢
  rw [Tree.plan, Node.plan_eq_setAll]
  apply Plan.ids_setAll hnodup

end Tree.Holds

/-- The paths and the groups of the plan of a tree are made by folding nodes one after another and
have the same ids in the same order: that of the declarations that are folded, by the depth of the
nodes at which they are, and at one depth by the segments of their names. -/
theorem Tree.plan_sorts_by_depth
    (ds : List Declaration) (hid : (ds.map (·.id)).Nodup) (hname : (ds.map (·.name)).Nodup) :
  ∃ t, Tree.ofList ds = .ok t
    ∧ t.plan = (Node.foldLevels t.root.sortedChildren).foldl
        (fun plan n => n.fold n.parentName plan) .empty
    ∧ ∃ folded : List (List String × Declaration),
      (∀ path d, (path, d) ∈ folded ↔ d ∈ ds ∧ t.FoldsAt path d.id)
      ∧ folded.Pairwise (fun e f =>
          e.1.length < f.1.length ∨ e.1.length = f.1.length ∧ e.2.segments < f.2.segments)
      ∧ t.plan.paths.map Prod.fst = folded.map (·.2.id)
      ∧ t.plan.groups.map Prod.fst = folded.map (·.2.id)
  := by
  obtain ⟨t, ht⟩ := (Tree.exists_ofList_iff ds).mpr hname
  have h := Tree.holds_of_ofList ht
  refine ⟨t, ht, t.root.plan_eq_foldl, t.folded, ?_, h.pairwise_folded, h.ids_plan hid⟩
  intro path d
  apply h.mem_folded_iff hid

/-- The nested messages as they are folded, each with the path of the node. -/
def nestedOrder : List (List String × Declaration) :=
  [(["Solo"], nestedMessages[3]), (["a", "b"], nestedMessages[0]),
    (["a", "b"], nestedMessages[2]), (["a", "bc"], nestedMessages[1])]

/-- The message outside of any namespace comes first, and the one below another right after it. -/
theorem Tree.plan_sorts_by_depth_nestedMessages :
  (nestedMessages.map (·.id)).Nodup ∧ (nestedMessages.map (·.name)).Nodup
    ∧ ∃ t, Tree.ofList nestedMessages = .ok t
      ∧ t.plan.paths.map Prod.fst = [9, 4, 2, 7] ∧ t.plan.groups.map Prod.fst = [9, 4, 2, 7]
  := by
  have hid : (nestedMessages.map (·.id)).Nodup := by decide
  refine ⟨hid, by decide, ?_⟩
  obtain ⟨t, ht, -, folded, hmem, hsorted, hpaths, hgroups⟩ :=
    Tree.plan_sorts_by_depth nestedMessages hid (by decide)
  have h := Tree.holds_of_ofList ht
  have hall : ∀ d ∈ nestedMessages, (foldNamespace nestedMessages d, d) ∈ nestedOrder := by decide
  have honly : ∀ e ∈ nestedOrder, e.2 ∈ nestedMessages ∧ ¬ IsPassedOver nestedMessages e.2
      ∧ foldNamespace nestedMessages e.2 = e.1 := by decide
  have hfolded : folded = nestedOrder := by
    apply eq_of_pairwise _ hsorted (by decide)
    · rintro ⟨path, d⟩
      rw [hmem, h.foldsAt_iff]
      constructor
      · rintro ⟨hd, e, he, heq, -, rfl⟩
        obtain rfl := List.inj_on_of_nodup_map hid he hd heq
        apply hall e hd
      · intro he
        obtain ⟨hd, hnot, hpath⟩ := honly _ he
        exact ⟨hd, d, hd, rfl, hnot, hpath⟩
    · rintro ⟨p, d⟩ ⟨q, e⟩ hde hed
      rcases hde with hde | ⟨hlength, hde⟩
      · omega
      · apply List.lt_asymm hde
        apply (hed.resolve_left (by omega)).2
  use t, ht
  rw [hpaths, hgroups, hfolded]
  decide

end MessagePlacement
