import MessagePlacement.Proofs.Plan.Message
import MessagePlacement.Proofs.Plan.Shape
import MessagePlacement.Proofs.Tree.Structure

/-!
# Planning below a node

What stands below a node of a tree is a tree of its own, with the path to the node removed from the
front of the names.  `messagesBelow ds path` are the declarations of that tree.  The node and the
root of that tree have the same shape, so planning one gives what planning the other does, although
all full names differ.
-/

namespace MessagePlacement

namespace Declaration

variable {d e : Declaration} {path : List String}

/-! ### Names without their front -/

theorem join_drop_ne_empty (d : Declaration) {k : Nat} (h : k < d.segments.length) :
  Text.join "." (d.segments.drop k) ≠ ""
  := by
  rw [Ne, Text.join_eq_empty_iff]
  · rw [List.drop_eq_nil_iff]
    omega
  · intro s hs
    apply (isSegment_of_mem_segments (List.mem_of_mem_drop hs)).1

theorem any_parts_join_drop (d : Declaration) {k : Nat} (h : k < d.segments.length) :
  (Text.parts "." (Text.join "." (d.segments.drop k))).any Text.isBlankText = false
  := by
  rw [Text.parts_join Text.toList_dot]
  · have hblank := d.parts_ne_blank
    rw [← segments_eq_parts, List.any_eq_false] at hblank
    rw [List.any_eq_false]
    intro s hs
    apply hblank s (List.mem_of_mem_drop hs)
  · rw [Ne, List.drop_eq_nil_iff]
    omega
  · intro s hs
    apply (isSegment_of_mem_segments (List.mem_of_mem_drop hs)).2

/-- A declaration without the first `k` segments of its name. -/
def dropSegments (d : Declaration) (k : Nat) (h : k < d.segments.length) : Declaration :=
  { d with
    name := Text.join "." (d.segments.drop k)
    name_ne := d.join_drop_ne_empty h
    parts_ne_blank := d.any_parts_join_drop h }

theorem segments_dropSegments {k : Nat} (h : k < d.segments.length) :
  (d.dropSegments k h).segments = d.segments.drop k
  := Text.segments_join fun _ hs => isSegment_of_mem_segments (List.mem_of_mem_drop hs)

/-- A declaration with a path removed from the front of its name, if its name goes on below the
path. -/
def below? (path : List String) (d : Declaration) : Option Declaration :=
  if h : path <+: d.segments ∧ path.length < d.segments.length then
    some (d.dropSegments path.length h.2)
  else
    none

theorem of_below? (h : d.below? path = some e) :
  d.segments = path ++ e.segments ∧ e.id = d.id
  := by
  rw [below?] at h
  split at h
  · rename_i hpath
    obtain rfl := Option.some.inj h
    obtain ⟨q, hq⟩ := hpath.1
    rw [segments_dropSegments, ← hq, List.drop_left]
    exact ⟨rfl, rfl⟩
  · cases h

theorem exists_below? {q : List String} (hsegments : d.segments = path ++ q) (hq : q ≠ []) :
  ∃ e, d.below? path = some e ∧ e.segments = q ∧ e.id = d.id
  := by
  have hpath : path <+: d.segments ∧ path.length < d.segments.length := by
    have hpos := List.length_pos_of_ne_nil hq
    rw [hsegments, List.length_append]
    exact ⟨List.prefix_append path q, by omega⟩
  refine ⟨d.dropSegments path.length hpath.2, ?_, ?_, rfl⟩
  · rw [below?, dif_pos hpath]
  · rw [segments_dropSegments, hsegments, List.drop_left]

end Declaration

/-! ### The tree below a node -/

/-- The declarations of a list whose names go on below a path, with the path removed from the front
of their names. -/
def messagesBelow (ds : List Declaration) (path : List String) : List Declaration :=
  ds.filterMap (Declaration.below? path)

variable {ds es : List Declaration} {path : List String}

/-- Distinct names stay distinct without a common front. -/
theorem nodup_names_messagesBelow (h : (ds.map (·.name)).Nodup) (path : List String) :
  ((messagesBelow ds path).map (·.name)).Nodup
  := by
  rw [List.Nodup, List.pairwise_map] at h ⊢
  apply List.Pairwise.filterMap _ _ h
  intro d d' hne e he e' he' heq
  apply hne
  rw [← Declaration.segments_inj] at heq ⊢
  rw [(Declaration.of_below? he).1, (Declaration.of_below? he').1, heq]

/-- Below a node and below the root of the tree of the declarations there, the same paths have the
same ids. -/
theorem Tree.Holds.sameShape {t u : Tree} {n : Node} (ht : t.Holds ds) (hu : u.Holds es)
    (hperm : es.Perm (messagesBelow ds path)) (hn : t.root.descend? path = some n) :
  n.SameShape u.root
  := by
  have hlocated := ht.located.descend? hn
  refine ⟨⟨_, hlocated⟩, ⟨_, hu.located⟩, ?_⟩
  intro q hq
  apply Option.ext
  intro i
  simp only [Node.idAt, Option.map_eq_some_iff, ← Node.payloadAt_append hn, ht.payloadAt_iff,
    hu.payloadAt_iff, hperm.mem_iff, messagesBelow, List.mem_filterMap]
  constructor
  · rintro ⟨d, ⟨hd, hsegments⟩, rfl⟩
    obtain ⟨e, he, heq, hid⟩ := Declaration.exists_below? hsegments hq
    exact ⟨e, ⟨⟨d, hd, he⟩, heq⟩, hid⟩
  · rintro ⟨e, ⟨⟨d, hd, he⟩, rfl⟩, rfl⟩
    obtain ⟨hsegments, hid⟩ := Declaration.of_below? he
    exact ⟨d, ⟨hd, hsegments⟩, hid.symm⟩

/-- The plan of a node in a tree of declarations with distinct names is the plan of a tree of its
own: the one of the declarations strictly below the node, in any order, with the path to the node
removed from the front of their names. -/
theorem Tree.plan_eq_plan_below (ds : List Declaration) (hname : (ds.map (·.name)).Nodup) :
  ∃ t, Tree.ofList ds = .ok t
    ∧ ∀ path n, t.root.Reaches path n → ∀ es, es.Perm (messagesBelow ds path) →
      ∃ u, Tree.ofList es = .ok u ∧ n.plan = u.plan
  := by
  obtain ⟨t, ht⟩ := (Tree.exists_ofList_iff ds).mpr hname
  have h := Tree.holds_of_ofList ht
  use t, ht
  intro path n hn es hperm
  have hname' : (es.map (·.name)).Nodup :=
    (hperm.map _).nodup_iff.mpr (nodup_names_messagesBelow hname path)
  obtain ⟨u, hu⟩ := (Tree.exists_ofList_iff es).mpr hname'
  have hshape := h.sameShape (Tree.holds_of_ofList hu) hperm (h.located.reaches_iff.mp hn)
  exact ⟨u, hu, hshape.plan_eq⟩

/-- The message below another one is placed by the names below the namespace alone. -/
theorem Tree.plan_eq_plan_below_nestedMessages :
  (nestedMessages.map (·.name)).Nodup
    ∧ (messagesBelow nestedMessages ["a"]).map (·.name) = ["b.X", "bc.Y", "b.X.Inner"]
    ∧ ∃ t n u, Tree.ofList nestedMessages = .ok t ∧ t.root.Reaches ["a"] n
      ∧ Tree.ofList (messagesBelow nestedMessages ["a"]) = .ok u ∧ n.plan = u.plan
      ∧ n.plan.paths.lookup 2 = some "b.X"
  := by
  obtain ⟨t, ht, hplan⟩ := Tree.plan_eq_plan_below nestedMessages (by decide)
  have h := Tree.holds_of_ofList ht
  have hpayload := (h.payloadAt_iff ["a", "b", "X"] nestedMessages[0]).mpr (by decide)
  obtain ⟨n, hn⟩ : ∃ n, t.root.descend? ["a"] = some n := Node.exists_descend? hpayload
  have hn := h.located.reaches_iff.mpr hn
  obtain ⟨u, hu, heq⟩ := hplan ["a"] n hn _ (List.Perm.refl _)
  have hpaths := (Tree.holds_of_ofList hu).tabulates_paths (by decide)
  have hlookup := hpaths.lookup_of_mem (d := (messagesBelow nestedMessages ["a"])[2]) (by decide)
    (by decide)
  refine ⟨by decide, by decide, t, n, u, ht, hn, hu, heq, ?_⟩
  rw [heq]
  exact hlookup.trans (by decide)

end MessagePlacement
