import MessagePlacement.Proofs.Plan.Assignment
import MessagePlacement.Proofs.Tree.Traversal

/-!
# The levels of folding

The search for fold levels is separated from folding: `foldLevels queue` lists the nodes at
which messages are folded, and a plan is made of their placements.  A node is a fold level
below a member of the queue when no node on the way to it is one, itself excepted
(`FoldedAt`).
-/

namespace MessagePlacement.Node

/-! ### Searching and folding apart -/

/-- The fold levels at and below the nodes of a queue, in the order of the search. -/
def foldLevels : List Node → List Node
  | [] => []
  | n :: queue =>
    if n.isFoldLevel then
      n :: foldLevels queue
    else
      foldLevels (queue ++ n.sortedChildren)
termination_by queue => sizes queue
decreasing_by
  · apply sizes_dequeue n queue
  · apply sizes_enqueue n queue

/-- Folding sets the placements of the flattening, whatever is taken as the parent. -/
theorem fold_eq_setAll_flatten (n : Node) (parent : String) (plan : Plan) :
  n.fold parent plan
    = Plan.setAll (n.flatten.map fun e => ⟨e.2.id, foldedPath parent e.1, n.name⟩) plan
  := by
  rw [fold, Plan.setAll, List.foldl_map]

/-- The placements of the messages folded at a node. -/
def placements (n : Node) : List Placement :=
  n.flatten.map fun e => ⟨e.2.id, foldedPath n.parentName e.1, n.name⟩

theorem fold_eq_setAll (n : Node) (plan : Plan) :
  n.fold n.parentName plan = Plan.setAll n.placements plan
  := n.fold_eq_setAll_flatten n.parentName plan

/-- Planning from a queue folds its fold levels one after another. -/
theorem planFrom_eq_foldl (plan : Plan) (queue : List Node) :
  planFrom plan queue = (foldLevels queue).foldl (fun plan n => n.fold n.parentName plan) plan
  := by
  induction plan, queue using planFrom.induct with
  | case1 plan => simp [planFrom, foldLevels]
  | case2 plan n queue hn ih =>
      rw [planFrom, if_pos hn, ih, foldLevels, if_pos hn, List.foldl_cons]
  | case3 plan n queue hn ih =>
      rw [planFrom, if_neg hn, ih, foldLevels, if_neg hn]

theorem plan_eq_foldl (n : Node) :
  n.plan
    = (foldLevels n.sortedChildren).foldl (fun plan m => m.fold m.parentName plan) .empty
  := planFrom_eq_foldl .empty n.sortedChildren

/-- Folding nodes one after another sets their placements. -/
theorem foldl_fold_eq_setAll (ns : List Node) (plan : Plan) :
  ns.foldl (fun plan n => n.fold n.parentName plan) plan
    = Plan.setAll (ns.flatMap placements) plan
  := by
  induction ns generalizing plan with
  | nil => rfl
  | cons n ns ih =>
      rw [List.foldl_cons, ih, List.flatMap_cons, Plan.setAll_append, fold_eq_setAll]

theorem plan_eq_setAll (n : Node) :
  n.plan = Plan.setAll ((foldLevels n.sortedChildren).flatMap placements) .empty
  := by
  rw [plan_eq_foldl, foldl_fold_eq_setAll]

/-- No id occurs twice in a plan. -/
theorem nodup_plan (n : Node) :
  (n.plan.paths.map Prod.fst).Nodup ∧ (n.plan.groups.map Prod.fst).Nodup
  := by
  rw [plan_eq_setAll]
  apply Plan.nodup_setAll _

/-! ### Which nodes are found -/

/-- `FoldedAt n path m`: a search that reaches `n` goes along `path` and ends at `m`. -/
inductive FoldedAt : Node → List String → Node → Prop where
  | stop {n : Node} : n.isFoldLevel = true → FoldedAt n [] n
  | pass {n c m : Node} {path : List String} : ¬ n.isFoldLevel = true → c ∈ n.children →
      FoldedAt c path m → FoldedAt n (c.name :: path) m

theorem foldedAt_iff_of_isFoldLevel {n m : Node} (hn : n.isFoldLevel = true) :
  (∃ path, FoldedAt n path m) ↔ m = n
  := by
  constructor
  · rintro ⟨path, h⟩
    cases h with
    | stop => rfl
    | pass hne => exact absurd hn hne
  · rintro rfl
    use []
    exact .stop hn

theorem foldedAt_iff_of_not_isFoldLevel {n m : Node} (hn : ¬ n.isFoldLevel = true) :
  (∃ path, FoldedAt n path m) ↔ ∃ c ∈ n.sortedChildren, ∃ path, FoldedAt c path m
  := by
  constructor
  · rintro ⟨path, h⟩
    cases h with
    | stop hfold => exact absurd hfold hn
    | pass _ hc h => exact ⟨_, mem_sortedChildren.mpr hc, _, h⟩
  · rintro ⟨c, hc, path, h⟩
    use c.name :: path
    exact .pass hn (mem_sortedChildren.mp hc) h

/-- The search finds the nodes at which it ends, and no others. -/
theorem mem_foldLevels {queue : List Node} {m : Node} :
  m ∈ foldLevels queue ↔ ∃ n ∈ queue, ∃ path, FoldedAt n path m
  := by
  induction queue using foldLevels.induct with
  | case1 => simp [foldLevels]
  | case2 n queue hn ih =>
      rw [foldLevels, if_pos hn, List.mem_cons, ih, ← foldedAt_iff_of_isFoldLevel hn]
      simp only [List.mem_cons, exists_eq_or_imp]
  | case3 n queue hn ih =>
      rw [foldLevels, if_neg hn, ih]
      simp only [List.mem_cons, List.mem_append, or_and_right, exists_or, exists_eq_left]
      rw [foldedAt_iff_of_not_isFoldLevel hn, or_comm]

/-- From a located node, the search goes past the nodes along a path that are no fold levels
and ends at the first that is one. -/
theorem Located.foldedAt_iff {path : List String} {n : Node} (h : Located path n)
    {q : List String} {m : Node} :
  FoldedAt n q m ↔ n.descend? q = some m ∧ m.isFoldLevel = true
    ∧ ∀ j < q.length, ∀ b, n.descend? (q.take j) = some b → ¬ b.isFoldLevel = true
  := by
  constructor
  · intro hfolded
    induction hfolded generalizing path with
    | stop hn =>
        refine ⟨rfl, hn, ?_⟩
        intro j hj
        exact absurd hj (Nat.not_lt_zero j)
    | @pass n c m q hn hc _ ih =>
        obtain ⟨hm, hfold, hpassed⟩ := ih (h.child hc)
        refine ⟨(h.descend?_name hc q).trans hm, hfold, ?_⟩
        intro j hj b hb
        cases j with
        | zero =>
            obtain rfl : n = b := Option.some.inj hb
            apply hn
        | succ j =>
            rw [List.take_succ_cons, h.descend?_name hc] at hb
            apply hpassed j (Nat.lt_of_succ_lt_succ hj) b hb
  · rintro ⟨hm, hfold, hpassed⟩
    induction q generalizing n path with
    | nil =>
        obtain rfl : n = m := Option.some.inj hm
        exact .stop hfold
    | cons s q ih =>
        obtain ⟨c, hc, hcm⟩ := Option.bind_eq_some_iff.mp hm
        obtain rfl := name_of_child? hc
        apply FoldedAt.pass
        · apply hpassed 0 (Nat.succ_pos _) n rfl
        · apply mem_of_child? hc
        · apply ih (h.child (mem_of_child? hc)) hcm
          intro j hj b hb
          apply hpassed (j + 1) (Nat.succ_lt_succ hj) b
          rw [List.take_succ_cons, Node.descend?, hc]
          apply hb

end MessagePlacement.Node
