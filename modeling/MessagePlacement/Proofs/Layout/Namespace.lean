import Mathlib.Data.Set.Function
import MessagePlacement.Proofs.Layout.Coverage
import MessagePlacement.Proofs.Plan.Namespace

/-!
# Groups and namespaces

The file groups of a layout are kept by the last segments of the namespaces at which messages are
folded.  So two messages are in one group exactly when these last segments are equal, wherever the
namespaces are, and the groups tell the namespaces apart exactly when no two of them end with the
same segment.
-/

namespace MessagePlacement

namespace Layout.Holds

variable {l : Layout} {ds : List Declaration}

/-- Messages are in one group exactly when their namespaces end with the same segment. -/
theorem inOneGroup_iff_getLast? (h : l.Holds ds true) {p q : List String} {a b : Int}
    (ha : l.tree.FoldsAt p a) (hb : l.tree.FoldsAt q b) :
  l.InOneGroup a b ↔ p.getLast? = q.getLast?
  := by
  have hid := h.registry.nodup_ids
  have hlookup : ∀ {path id}, l.tree.FoldsAt path id → ∀ g,
      (id, g) ∈ l.plan.groups ↔ path.getLast? = some g := by
    intro path id hfolds g
    rw [← lookup_eq_some_iff_mem h.nodup_ids.2, h.plan_of_fold,
      h.tree.lookup_groups_of_foldsAt hid hfolds]
  rw [inOneGroup_iff]
  simp only [hlookup ha, hlookup hb]
  constructor
  · rintro ⟨g, hp, hq⟩
    rw [hp, hq]
  · intro heq
    obtain ⟨g, hg⟩ := h.tree.exists_getLast?_of_foldsAt ha
    exact ⟨g, hg, heq ▸ hg⟩

/-- A message with a path is folded at exactly one node. -/
theorem existsUnique_foldsAt (h : l.Holds ds true) {id : Int}
    (hmem : id ∈ l.plan.paths.map Prod.fst) :
  ∃! path, l.tree.FoldsAt path id
  := by
  have hid := h.registry.nodup_ids
  rw [h.plan_of_fold, h.tree.mem_paths_iff hid] at hmem
  obtain ⟨path, hfolds⟩ := hmem
  use path, hfolds
  intro q hq
  apply h.tree.foldsAt_unique hid hq hfolds

/-- The groups tell the namespaces apart exactly when no two of them end with the same
segment. -/
theorem inOneGroup_iff_foldsAt_iff (h : l.Holds ds true) :
  (∀ a ∈ l.plan.paths.map Prod.fst, ∀ b ∈ l.plan.paths.map Prod.fst,
      (l.InOneGroup a b ↔ ∃ path, l.tree.FoldsAt path a ∧ l.tree.FoldsAt path b))
    ↔ Set.InjOn List.getLast? { path | ∃ d ∈ ds, ¬ IsPassedOver ds d ∧ foldNamespace ds d = path }
  := by
  have hid := h.registry.nodup_ids
  have hmem : ∀ {path id}, l.tree.FoldsAt path id → id ∈ l.plan.paths.map Prod.fst := by
    intro path id hfolds
    rw [h.plan_of_fold, h.tree.mem_paths_iff hid]
    use path
  constructor
  · rintro hall _ ⟨d, hd, hnot, rfl⟩ _ ⟨e, he, hnot', rfl⟩ heq
    have hd := h.tree.foldsAt_iff.mpr ⟨d, hd, rfl, hnot, rfl⟩
    have he := h.tree.foldsAt_iff.mpr ⟨e, he, rfl, hnot', rfl⟩
    obtain ⟨path, hpd, hpe⟩ :=
      (hall _ (hmem hd) _ (hmem he)).mp ((h.inOneGroup_iff_getLast? hd he).mpr heq)
    rw [h.tree.foldsAt_unique hid hd hpd, h.tree.foldsAt_unique hid he hpe]
  · intro hinj a ha b hb
    obtain ⟨p, hp, -⟩ := h.existsUnique_foldsAt ha
    obtain ⟨q, hq, -⟩ := h.existsUnique_foldsAt hb
    rw [h.inOneGroup_iff_getLast? hp hq]
    constructor
    · intro heq
      obtain ⟨d, hd, -, hnot, hdp⟩ := h.tree.foldsAt_iff.mp hp
      obtain ⟨e, he, -, hnot', heq'⟩ := h.tree.foldsAt_iff.mp hq
      obtain rfl := hinj ⟨d, hd, hnot, hdp⟩ ⟨e, he, hnot', heq'⟩ heq
      exact ⟨p, hp, hq⟩
    · rintro ⟨path, hpa, hpb⟩
      rw [h.tree.foldsAt_unique hid hp hpa, h.tree.foldsAt_unique hid hq hpb]

end Layout.Holds

/-- After a start with folding, the plan is made by folding nodes one after another, every message
with a path is folded at exactly one of them, and two messages are in one file group exactly when
the namespaces at which they are folded end with the same segment.  So the file groups are the
messages folded at the same node exactly when no two of these namespaces end with the same
segment. -/
theorem Resolver.fileGroups_separate_iff
    (r r' : Resolver) (ds : List Declaration) (hstart : r.start ds true = .ok r') :
  ∃ l, r'.layout = some l ∧ r'.assignedPaths = .ok l.plan.paths ∧ r'.fileGroups = .ok l.fileGroups
    ∧ l.plan = (Node.foldLevels l.tree.root.sortedChildren).foldl
        (fun plan n => n.fold n.parentName plan) .empty
    ∧ (∀ id ∈ l.plan.paths.map Prod.fst, ∃! path, l.tree.FoldsAt path id)
    ∧ (∀ a b p q, l.tree.FoldsAt p a → l.tree.FoldsAt q b →
        (l.InOneGroup a b ↔ p.getLast? = q.getLast?))
    ∧ ((∀ a ∈ l.plan.paths.map Prod.fst, ∀ b ∈ l.plan.paths.map Prod.fst,
          (l.InOneGroup a b ↔ ∃ path, l.tree.FoldsAt path a ∧ l.tree.FoldsAt path b))
        ↔ Set.InjOn List.getLast?
            { path | ∃ d ∈ ds, ¬ IsPassedOver ds d ∧ foldNamespace ds d = path })
  := by
  obtain ⟨l, rfl, h⟩ := Resolver.holds_of_start hstart
  refine ⟨l, rfl, rfl, rfl, ?_, ?_, ?_, ?_⟩
  · rw [h.plan_of_fold, Tree.plan, Node.plan_eq_foldl]
  · intro id
    apply h.existsUnique_foldsAt
  · intro a b p q
    apply h.inOneGroup_iff_getLast?
  · apply h.inOneGroup_iff_foldsAt_iff

/-- The groups of the nested messages tell their namespaces apart: two messages share one. -/
theorem Resolver.fileGroups_separate_iff_nestedMessages :
  ∃ r l, Resolver.start {} nestedMessages true = .ok r ∧ r.layout = some l
    ∧ l.tree.FoldsAt ["a", "b"] 4 ∧ l.tree.FoldsAt ["a", "b"] 2 ∧ l.tree.FoldsAt ["a", "bc"] 7
    ∧ l.InOneGroup 4 2 ∧ ¬ l.InOneGroup 4 7
    ∧ ∀ a ∈ l.plan.paths.map Prod.fst, ∀ b ∈ l.plan.paths.map Prod.fst,
      (l.InOneGroup a b ↔ ∃ path, l.tree.FoldsAt path a ∧ l.tree.FoldsAt path b)
  := by
  obtain ⟨l, hstart, h⟩ := Resolver.exists_start none nestedMessages true (by decide) (by decide)
  obtain ⟨_, hlayout, -, -, -, -, hgroup, hseparate⟩ :=
    Resolver.fileGroups_separate_iff {} _ nestedMessages hstart
  obtain rfl := Option.some.inj hlayout
  have h4 : l.tree.FoldsAt ["a", "b"] 4 :=
    h.tree.foldsAt_iff.mpr ⟨nestedMessages[0], by decide, by decide, by decide, by decide⟩
  have h2 : l.tree.FoldsAt ["a", "b"] 2 :=
    h.tree.foldsAt_iff.mpr ⟨nestedMessages[2], by decide, by decide, by decide, by decide⟩
  have h7 : l.tree.FoldsAt ["a", "bc"] 7 :=
    h.tree.foldsAt_iff.mpr ⟨nestedMessages[1], by decide, by decide, by decide, by decide⟩
  have hinj : ∀ d ∈ nestedMessages, ∀ e ∈ nestedMessages,
      (foldNamespace nestedMessages d).getLast? = (foldNamespace nestedMessages e).getLast? →
      foldNamespace nestedMessages d = foldNamespace nestedMessages e := by decide
  refine ⟨_, l, hstart, rfl, h4, h2, h7, ?_, ?_, ?_⟩
  · rw [hgroup _ _ _ _ h4 h2]
  · rw [hgroup _ _ _ _ h4 h7]
    decide
  · apply hseparate.mpr
    rintro _ ⟨d, hd, -, rfl⟩ _ ⟨e, he, -, rfl⟩ heq
    apply hinj d hd e he heq

/-- Messages of two namespaces of one name, one of them in another namespace. -/
def chatMessages : List Declaration :=
  [⟨25, "chat.Join", none, by decide, by decide, by decide, by decide⟩,
    ⟨26, "game.chat.Leave", none, by decide, by decide, by decide, by decide⟩]

/-- The two messages are folded at different nodes and are in one file group. -/
theorem Resolver.inOneGroup_chatMessages :
  ∃ r l, Resolver.start {} chatMessages true = .ok r ∧ r.layout = some l
    ∧ 25 ∈ l.plan.paths.map Prod.fst ∧ 26 ∈ l.plan.paths.map Prod.fst
    ∧ l.tree.FoldsAt ["chat"] 25 ∧ l.tree.FoldsAt ["game", "chat"] 26
    ∧ l.InOneGroup 25 26 ∧ ¬ ∃ path, l.tree.FoldsAt path 25 ∧ l.tree.FoldsAt path 26
  := by
  obtain ⟨l, hstart, h⟩ := Resolver.exists_start none chatMessages true (by decide) (by decide)
  have hid := h.registry.nodup_ids
  have hjoin : l.tree.FoldsAt ["chat"] 25 :=
    h.tree.foldsAt_iff.mpr ⟨chatMessages[0], by decide, by decide, by decide, by decide⟩
  have hleave : l.tree.FoldsAt ["game", "chat"] 26 :=
    h.tree.foldsAt_iff.mpr ⟨chatMessages[1], by decide, by decide, by decide, by decide⟩
  refine ⟨_, l, hstart, rfl, ?_, ?_, hjoin, hleave, ?_, ?_⟩
  · rw [h.plan_of_fold, h.tree.mem_paths_iff hid]
    exact ⟨_, hjoin⟩
  · rw [h.plan_of_fold, h.tree.mem_paths_iff hid]
    exact ⟨_, hleave⟩
  · rw [h.inOneGroup_iff_getLast? hjoin hleave]
    rfl
  · rintro ⟨path, hpjoin, hpleave⟩
    have heq := (h.tree.foldsAt_unique hid hjoin hpjoin).trans
      (h.tree.foldsAt_unique hid hpleave hleave)
    exact absurd heq (by decide)

end MessagePlacement
