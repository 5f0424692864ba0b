import Mathlib.Data.List.Forall2
import MessagePlacement.Proofs.Plan.Depth

/-!
# What a plan depends on

The plan of a node depends on the ids at the paths below it only, and not on where the node stands
in its tree.  `SameShape n m` says that strictly below two nodes the same paths have payloads, with
the same ids.  Then their children are counterparts, one by one in the order of their names:
`Counterpart` says the same of two nodes of one name at and below them.  Messages are folded at
both of two counterparts or at neither, with the same placements.
-/

namespace MessagePlacement.Node

/-- The id of the payload along a path. -/
def idAt (n : Node) (path : List String) : Option Int :=
  (n.payloadAt path).map (·.id)

/-- `SameShape n m`: the nodes have payloads with the same ids at the same paths strictly below
them. -/
structure SameShape (n m : Node) : Prop where
  left : ∃ path, Located path n
  right : ∃ path, Located path m
  idAt_eq {path : List String} : path ≠ [] → n.idAt path = m.idAt path

/-- `Counterpart n m`: the nodes have the same name, and payloads with the same ids at the same
paths at and below them. -/
structure Counterpart (n m : Node) : Prop where
  name_eq : n.name = m.name
  left : ∃ path, Located (path ++ [n.name]) n
  right : ∃ path, Located (path ++ [m.name]) m
  idAt_eq (path : List String) : n.idAt path = m.idAt path

variable {n m : Node}

theorem Counterpart.sameShape (h : Counterpart n m) :
  SameShape n m
  := by
  obtain ⟨-, ⟨p, hn⟩, ⟨q, hm⟩, hid⟩ := h
  exact ⟨⟨_, hn⟩, ⟨_, hm⟩, fun {path} _ => hid path⟩

namespace SameShape

/-- Payloads stand at the same paths. -/
theorem exists_payloadAt_iff (h : SameShape n m) {path : List String} (hpath : path ≠ []) :
  (∃ d, n.payloadAt path = some d) ↔ ∃ d, m.payloadAt path = some d
  := by
  have hsome := congrArg Option.isSome (h.idAt_eq hpath)
  rw [idAt, idAt, Option.isSome_map, Option.isSome_map] at hsome
  rw [← Option.isSome_iff_exists, ← Option.isSome_iff_exists, hsome]

theorem names_eq (h : SameShape n m) :
  n.sortedChildren.map name = m.sortedChildren.map name
  := by
  obtain ⟨p, hn⟩ := h.left
  obtain ⟨q, hm⟩ := h.right
  apply eq_of_pairwise (r := (· < ·)) String.lt_asymm
    (List.pairwise_map.mpr hn.pairwise_sortedChildren)
    (List.pairwise_map.mpr hm.pairwise_sortedChildren)
  intro s
  rw [hn.mem_names_sortedChildren, hm.mem_names_sortedChildren]
  apply exists_congr
  intro rest
  apply h.exists_payloadAt_iff (List.cons_ne_nil s rest)

/-- The children of nodes of one shape are counterparts, one by one in the order of their
names. -/
theorem forall₂_sortedChildren (h : SameShape n m) :
  List.Forall₂ Counterpart n.sortedChildren m.sortedChildren
  := by
  obtain ⟨p, hn⟩ := h.left
  obtain ⟨q, hm⟩ := h.right
  have hnames : List.Forall₂ (fun a b => a.name = b.name) n.sortedChildren m.sortedChildren := by
    rw [← List.forall₂_map_left_iff (f := name) (R := fun s b => s = name b),
      ← List.forall₂_map_right_iff (f := name) (R := fun s t => s = t), List.forall₂_eq_eq_eq]
    apply h.names_eq
  rw [List.forall₂_iff_zip]
  use hnames.length_eq
  intro a b hab
  have hname := List.forall₂_zip hnames hab
  obtain ⟨ha, hb⟩ := List.of_mem_zip hab
  rw [mem_sortedChildren] at ha hb
  refine ⟨hname, ⟨p, hn.child ha⟩, ⟨q, hm.child hb⟩, ?_⟩
  intro path
  rw [idAt, idAt, ← hn.payloadAt_child ha, ← hm.payloadAt_child hb, hname]
  apply h.idAt_eq (List.cons_ne_nil b.name path)

/-- Messages are folded at both of two nodes of one shape, or at neither. -/
theorem isFoldLevel_eq (h : SameShape n m) :
  n.isFoldLevel = m.isFoldLevel
  := by
  obtain ⟨p, hn⟩ := h.left
  obtain ⟨q, hm⟩ := h.right
  have hleaf : n.isLeaf = m.isLeaf := by
    rw [Bool.eq_iff_iff, hn.isLeaf_iff, hm.isLeaf_iff]
    apply forall_congr'
    intro path
    rw [← exists_imp, ← exists_imp]
    rcases eq_or_ne path [] with rfl | hpath
    · simp
    · rw [h.exists_payloadAt_iff hpath]
  have hchild : n.hasPayloadChild = m.hasPayloadChild := by
    rw [Bool.eq_iff_iff, hn.hasPayloadChild_iff, hm.hasPayloadChild_iff]
    apply exists_congr
    intro s
    apply h.exists_payloadAt_iff (List.cons_ne_nil s [])
  rw [isFoldLevel, isFoldLevel, hleaf, hchild]

end SameShape

namespace Counterpart

/-- The payloads of counterparts stand at the same paths in the same order. -/
theorem map_id_contents (h : Counterpart n m) :
  n.contents.map (fun e => (e.1, e.2.id)) = m.contents.map fun e => (e.1, e.2.id)
  := by
  have hmem : ∀ {path : List String} {b : Node}, Located path b → ∀ e : List String × Int,
      e ∈ b.contents.map (fun e => (e.1, e.2.id)) ↔ b.idAt e.1 = some e.2 := by
    rintro path b hb ⟨q, i⟩
    rw [idAt, Option.map_eq_some_iff, List.mem_map]
    constructor
    · rintro ⟨⟨p, d⟩, hd, heq⟩
      obtain ⟨rfl, rfl⟩ := Prod.mk.inj heq
      exact ⟨d, hb.mem_contents.mp hd, rfl⟩
    · rintro ⟨d, hd, rfl⟩
      exact ⟨(q, d), hb.mem_contents.mpr hd, rfl⟩
  obtain ⟨p, hn⟩ := h.left
  obtain ⟨q, hm⟩ := h.right
  apply eq_of_pairwise (r := fun e f => e.1 < f.1) List.lt_asymm
    (List.pairwise_map.mpr hn.pairwise_contents) (List.pairwise_map.mpr hm.pairwise_contents)
  intro e
  rw [hmem hn, hmem hm, h.idAt_eq]

/-- What is folded at counterparts is placed alike. -/
theorem placements_eq (h : Counterpart n m) :
  n.placements = m.placements
  := by
  obtain ⟨p, hn⟩ := h.left
  obtain ⟨q, hm⟩ := h.right
  have hplacements := congrArg
    (List.map fun e => (⟨e.2, Text.join "." (m.name :: e.1).dropLast, m.name⟩ : Placement))
    h.map_id_contents
  rw [List.map_map, List.map_map] at hplacements
  rw [hn.placements_eq, hm.placements_eq, h.name_eq]
  apply hplacements

end Counterpart

/-- Planning from queues of counterparts gives the same plan. -/
theorem planFrom_eq (plan : Plan) {queue queue' : List Node}
    (h : List.Forall₂ Counterpart queue queue') :
  planFrom plan queue = planFrom plan queue'
  := by
  induction plan, queue using planFrom.induct generalizing queue' with
  | case1 plan =>
      rw [List.forall₂_nil_left_iff.mp h]
  | case2 plan n queue hn ih =>
      obtain ⟨m, rest, hnm, hrest, rfl⟩ := List.forall₂_cons_left_iff.mp h
      have hm : m.isFoldLevel = true := hnm.sameShape.isFoldLevel_eq ▸ hn
      rw [planFrom, if_pos hn, planFrom, if_pos hm, ih hrest, fold_eq_setAll, fold_eq_setAll,
        hnm.placements_eq]
  | case3 plan n queue hn ih =>
      obtain ⟨m, rest, hnm, hrest, rfl⟩ := List.forall₂_cons_left_iff.mp h
      have hm : ¬ m.isFoldLevel = true := hnm.sameShape.isFoldLevel_eq ▸ hn
      rw [planFrom, if_neg hn, planFrom, if_neg hm,
        ih (List.rel_append hrest hnm.sameShape.forall₂_sortedChildren)]

/-- Nodes of one shape have the same plan. -/
theorem SameShape.plan_eq (h : SameShape n m) :
  n.plan = m.plan
  := planFrom_eq .empty h.forall₂_sortedChildren

end MessagePlacement.Node
