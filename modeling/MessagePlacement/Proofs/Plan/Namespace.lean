import MessagePlacement.Proofs.Plan.Message
import MessagePlacement.Proofs.Tree.Flattening

/-!
# The namespaces of folding

`t.FoldsAt path id` says that the plan of the tree `t` folds the node at the end of `path`, and
that the message with this id is at or below it.  In a tree that holds declarations these are the
messages that are not passed over, each at one node, whose path is `foldNamespace`; the group of
a message is the last segment of that path.
-/

namespace MessagePlacement

/-- `t.FoldsAt path id`: the node at the end of `path` is folded, and the message with the id is
at or below it. -/
def Tree.FoldsAt (t : Tree) (path : List String) (id : Int) : Prop :=
  ∃ n ∈ Node.foldLevels t.root.sortedChildren,
    t.root.descend? path = some n ∧ ∃ e ∈ n.flatten, e.2.id = id

/-- The segments of the name of a message down to its fold level. -/
def foldNamespace (ds : List Declaration) (d : Declaration) : List String :=
  d.segments.take (foldDepth ds d.segments)

variable {ds : List Declaration} {d : Declaration}

/-- The group of a message that is folded is the last segment of its fold namespace. -/
theorem getLast?_foldNamespace (hd : d ∈ ds) :
  (foldNamespace ds d).getLast? = some (d.placementAt (foldDepth ds d.segments)).group
  := by
  have hpos := foldDepth_pos hd
  have hlt := foldDepth_lt hd
  rw [Declaration.group_placementAt hlt, foldNamespace, List.getLast?_take, if_neg (by omega),
    List.getElem?_eq_getElem hlt, Option.some_or]

namespace Tree.Holds

variable {t : Tree}

/-- The tree folds the messages that are not passed over, each at its fold namespace. -/
theorem foldsAt_iff (h : t.Holds ds) {path : List String} {id : Int} :
  t.FoldsAt path id ↔ ∃ d ∈ ds, d.id = id ∧ ¬ IsPassedOver ds d ∧ foldNamespace ds d = path
  := by
  constructor
  · rintro ⟨n, hfold, hn, ⟨fullName, d⟩, hmem, rfl⟩
    obtain ⟨q, hq, -⟩ := (h.located.descend? hn).mem_flatten.mp hmem
    obtain ⟨hd, hsegments, hdepth⟩ := h.exists_folded_iff.mp ⟨n, hfold, hn, hq⟩
    obtain ⟨hlength, hnot⟩ := (isFoldDepth_iff hd).mp hdepth
    refine ⟨d, hd, rfl, hnot, ?_⟩
    rw [foldNamespace, ← hlength, hsegments, List.take_left]
  · rintro ⟨d, hd, rfl, hnot, rfl⟩
    have hdepth := (isFoldDepth_iff hd).mpr ⟨rfl, hnot⟩
    have hlength : (foldNamespace ds d).length = foldDepth ds d.segments :=
      List.length_take_of_le hdepth.le
    have hsegments := List.take_append_drop (foldDepth ds d.segments) d.segments
    rw [← hlength] at hdepth
    obtain ⟨n, hfold, hn, -⟩ := h.exists_folded_iff.mpr ⟨hd, hsegments.symm, hdepth⟩
    have hmem := (h.mem_flatten_iff hn (e := (d.name, d))).mpr ⟨hd, List.take_prefix _ _, rfl⟩
    exact ⟨n, hfold, hn, _, hmem, rfl⟩

/-- With distinct ids, a message is folded at one node at most. -/
theorem foldsAt_unique (h : t.Holds ds) (hid : (ds.map (·.id)).Nodup) {p q : List String} {id : Int}
    (hp : t.FoldsAt p id) (hq : t.FoldsAt q id) :
  p = q
  := by
  obtain ⟨d, hd, rfl, -, rfl⟩ := h.foldsAt_iff.mp hp
  obtain ⟨e, he, heq, -, rfl⟩ := h.foldsAt_iff.mp hq
  rw [List.inj_on_of_nodup_map hid he hd heq]

/-- The group of an id is the last segment of the path at which it is folded. -/
theorem lookup_groups_of_foldsAt (h : t.Holds ds) (hid : (ds.map (·.id)).Nodup)
    {path : List String} {id : Int} (hfolds : t.FoldsAt path id) :
  t.plan.groups.lookup id = path.getLast?
  := by
  obtain ⟨d, hd, rfl, hnot, rfl⟩ := h.foldsAt_iff.mp hfolds
  rw [(h.tabulates_groups hid).lookup_of_mem hid hd, if_neg hnot, getLast?_foldNamespace hd]

/-- Nothing is folded at the root. -/
theorem exists_getLast?_of_foldsAt (h : t.Holds ds) {path : List String} {id : Int}
    (hfolds : t.FoldsAt path id) :
  ∃ g, path.getLast? = some g
  := by
  obtain ⟨d, hd, -, -, rfl⟩ := h.foldsAt_iff.mp hfolds
  exact ⟨_, getLast?_foldNamespace hd⟩

/-- The ids with a path are those that are folded at a node. -/
theorem mem_paths_iff (h : t.Holds ds) (hid : (ds.map (·.id)).Nodup) {id : Int} :
  id ∈ t.plan.paths.map Prod.fst ↔ ∃ path, t.FoldsAt path id
  := by
  rw [(h.tabulates_paths hid).mem_ids_iff]
  constructor
  · rintro ⟨d, hd, rfl, hnot⟩
    exact ⟨_, h.foldsAt_iff.mpr ⟨d, hd, rfl, hnot, rfl⟩⟩
  · rintro ⟨path, hfolds⟩
    obtain ⟨d, hd, rfl, hnot, -⟩ := h.foldsAt_iff.mp hfolds
    exact ⟨d, hd, rfl, hnot⟩

end Tree.Holds

end MessagePlacement
