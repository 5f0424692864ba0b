import MessagePlacement.Proofs.Tree.Contents
import MessagePlacement.Proofs.Tree.Preorder

/-!
# The order of declarations

Flattening a tree sorts the declarations that it holds by the lists of their segments.  These lists
are compared lexicographically, a proper front of a list before the list, and segments by their
characters; as texts the names may stand in another order, since some characters are less than
the dot.  Flattening a node below the root leaves out the declarations whose names do not
continue its path, and keeps the others in their order.
-/

namespace MessagePlacement.Tree

namespace Holds

variable {t : Tree} {ds : List Declaration} {path : List String} {n : Node}

/-- The flattening of a node lists the declarations whose names continue its path. -/
theorem mem_flatten_iff (h : t.Holds ds) (hn : t.root.descend? path = some n)
    {e : String × Declaration} :
  e ∈ n.flatten ↔ e.2 ∈ ds ∧ path <+: e.2.segments ∧ e.1 = e.2.name
  := by
  obtain ⟨fullName, d⟩ := e
  have hpayload : ∀ q, n.payloadAt q = some d ↔ d ∈ ds ∧ d.segments = path ++ q := by
    intro q
    rw [← Node.payloadAt_append hn, h.payloadAt_iff]
  rw [(h.located.descend? hn).mem_flatten]
  simp only [hpayload, List.nil_append]
  constructor
  · rintro ⟨q, ⟨hd, hsegments⟩, rfl⟩
    refine ⟨hd, ⟨q, hsegments.symm⟩, ?_⟩
    rw [← hsegments, d.join_segments]
  · rintro ⟨hd, ⟨q, hsegments⟩, rfl⟩
    refine ⟨q, ⟨hd, hsegments.symm⟩, ?_⟩
    rw [hsegments, d.join_segments]

/-- The flattening of a node is sorted by the segments of the declarations. -/
theorem pairwise_flatten (h : t.Holds ds) (hn : t.root.descend? path = some n) :
  n.flatten.Pairwise fun e f => e.2.segments < f.2.segments
  := by
  have hlocated := h.located.descend? hn
  rw [hlocated.flatten_eq_map_contents, List.pairwise_map]
  apply hlocated.pairwise_contents.imp_of_mem
  rintro ⟨p, d⟩ ⟨q, e⟩ hd he hlt
  rw [hlocated.mem_contents, ← Node.payloadAt_append hn, h.payloadAt_iff] at hd he
  rw [hd.2, he.2]
  apply List.append_left_lt hlt

/-- The flattening of a node is the part of the whole flattening whose names continue its
path. -/
theorem flatten_eq_filter (h : t.Holds ds) (hn : t.root.descend? path = some n) :
  n.flatten = t.root.flatten.filter fun e => path.isPrefixOf e.2.segments
  := by
  have hroot : t.root.descend? [] = some t.root := rfl
  apply eq_of_pairwise List.lt_asymm (h.pairwise_flatten hn) ((h.pairwise_flatten hroot).filter _)
  intro e
  rw [List.mem_filter, h.mem_flatten_iff hn, h.mem_flatten_iff hroot, List.isPrefixOf_iff_prefix]
  have hnil : [] <+: e.2.segments := List.nil_prefix
  tauto

end Holds

/-- A tree of declarations with distinct names lists them, each once at its name, in the
increasing order of their segments; the node at a name lists those whose segments begin with the
segments of that name, in the same order. -/
theorem flatten_sorts (ds : List Declaration) (hname : (ds.map (·.name)).Nodup) :
  ∃ t, ofList ds = .ok t
    ∧ (t.root.flatten.map Prod.snd).Perm ds
    ∧ (t.root.flatten.map Prod.snd).Pairwise (fun d e => d.segments < e.segments)
    ∧ (∀ e ∈ t.root.flatten, e.1 = e.2.name)
    ∧ ∀ name n, t.node? name = some n →
        n.flatten = t.root.flatten.filter fun e => (Text.segments name).isPrefixOf e.2.segments
  := by
  obtain ⟨t, ht⟩ := (exists_ofList_iff ds).mpr hname
  have h := holds_of_ofList ht
  have hroot : t.root.descend? [] = some t.root := rfl
  have hmem := fun e => h.mem_flatten_iff hroot (e := e)
  have hsorted : (t.root.flatten.map Prod.snd).Pairwise fun d e => d.segments < e.segments :=
    List.pairwise_map.mpr (h.pairwise_flatten hroot)
  refine ⟨t, ht, ?_, hsorted, fun e he => ((hmem e).mp he).2.2, fun name n => h.flatten_eq_filter⟩
  rw [List.perm_ext_iff_of_nodup (nodup_of_pairwise_lt hsorted).of_map hname.of_map]
  intro d
  rw [List.mem_map]
  constructor
  · rintro ⟨e, he, rfl⟩
    apply ((hmem e).mp he).1
  · intro hd
    exact ⟨(d.name, d), (hmem _).mpr ⟨hd, List.nil_prefix, rfl⟩, rfl⟩

/-- The message whose name is the lesser text comes last. -/
theorem flatten_sorts_hyphenMessages :
  (hyphenMessages.map (·.name)).Nodup ∧ "fs.dir-x.Close" < "fs.dir.Open"
    ∧ ∃ t n, ofList hyphenMessages = .ok t ∧ t.node? "fs.dir" = some n
      ∧ t.root.flatten.map Prod.snd = [hyphenMessages[1], hyphenMessages[0]]
      ∧ n.flatten.map Prod.snd = [hyphenMessages[1]]
  := by
  obtain ⟨t, ht, hperm, hsorted, -, hbelow⟩ := flatten_sorts hyphenMessages (by decide)
  have h := holds_of_ofList ht
  have hopen := (h.payloadAt_iff ["fs", "dir", "Open"] hyphenMessages[1]).mpr (by decide)
  obtain ⟨n, hn⟩ : ∃ n, t.node? "fs.dir" = some n := Node.exists_descend? hopen
  have hall : t.root.flatten.map Prod.snd = [hyphenMessages[1], hyphenMessages[0]] := by
    apply eq_of_pairwise List.lt_asymm hsorted (by decide)
    intro d
    rw [hperm.mem_iff]
    simp [hyphenMessages, or_comm]
  refine ⟨by decide, by decide, t, n, ht, hn, hall, ?_⟩
  rw [hbelow "fs.dir" n hn]
  have hfilter := List.filter_map (f := Prod.snd) (l := t.root.flatten)
    (p := fun d => (Text.segments "fs.dir").isPrefixOf d.segments)
  rw [hall] at hfilter
  exact hfilter.symm.trans (by decide)

end MessagePlacement.Tree
