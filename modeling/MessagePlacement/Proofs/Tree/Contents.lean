import MessagePlacement.Proofs.Filling
import MessagePlacement.Proofs.Tree.Entries

/-!
# What a tree holds

A tree filled with declarations at their own names is located, and its payloads are these
declarations at their segments.  It can be filled with a list exactly when the names are
distinct.
-/

namespace MessagePlacement.Tree

/-- `t.Holds ds`: the root is located, and its payloads are the members of `ds`, each at its
segments. -/
structure Holds (t : Tree) (ds : List Declaration) : Prop where
  located : t.root.Located []
  payloadAt_iff (path : List String) (d : Declaration) :
    t.root.payloadAt path = some d ↔ d ∈ ds ∧ d.segments = path

/-- A tree holds declarations when it stores them at their segments. -/
theorem holds_iff_stores {t : Tree} {ds : List Declaration} :
  t.Holds ds ↔ t.Stores (ds.map fun d => (d.segments, d))
  := by
  have hmem : ∀ path d,
      (path, d) ∈ ds.map (fun d => (d.segments, d)) ↔ d ∈ ds ∧ d.segments = path := by
    intro path d
    rw [List.mem_map]
    constructor
    · rintro ⟨e, he, heq⟩
      obtain ⟨rfl, rfl⟩ := Prod.mk.inj heq
      exact ⟨he, rfl⟩
    · rintro ⟨hd, rfl⟩
      use d, hd
  constructor
  · intro h
    constructor
    · apply h.located
    · simp [Declaration.segments_ne_nil]
    · intro path d
      rw [h.payloadAt_iff, hmem]
  · intro h
    constructor
    · apply h.located
    · intro path d
      rw [h.payloadAt_iff, hmem]

theorem holds_empty :
  empty.Holds []
  := holds_iff_stores.mpr stores_empty

/-- Inserting a declaration at its own name is inserting it at its segments. -/
theorem insert_name (t : Tree) (d : Declaration) :
  t.insert d.name d
    = match t.root.insert d d.segments with
      | .ok root => .ok ⟨root⟩
      | .error e => .error (.duplicate d.name d.id e.id)
  := insert_of_ne_nil d.segments_ne_nil t d

/-- A tree refuses a declaration of a name that is taken. -/
theorem Holds.insert_of_taken {t : Tree} {ds : List Declaration} (h : t.Holds ds)
    {d e : Declaration} (he : e ∈ ds) (hname : e.name = d.name) :
  t.insert d.name d = .error (.duplicate d.name d.id e.id)
  := by
  have hsome : t.root.payloadAt d.segments = some e :=
    (h.payloadAt_iff _ e).mpr ⟨he, Declaration.segments_inj.mpr hname⟩
  rw [insert_name, Node.insert_of_payloadAt_eq_some d d.segments t.root hsome]

/-- A tree refuses declarations of a name that is taken, and no others. -/
theorem refusing_insert :
  Refusing (fun t d => insert t d.name d) Declaration.name Holds
  := by
  constructor
  · intro t ds d h hnew
    have hfree : d.segments ∉ (ds.map fun d => (d.segments, d)).map Prod.fst := by
      rw [List.map_map, List.mem_map]
      rintro ⟨e, he, heq⟩
      apply hnew e he (Declaration.segments_inj.mp heq)
    obtain ⟨root, hroot, hstores⟩ := (holds_iff_stores.mp h).insert d d.segments_ne_nil
      (fun s hs => Declaration.isSegment_of_mem_segments hs) hfree
    use ⟨root⟩
    constructor
    · simp only [insert_name, hroot]
    · rw [holds_iff_stores, List.map_append]
      apply hstores
  · intro t ds d e h he hname
    exact ⟨_, h.insert_of_taken he hname⟩

theorem holds_of_ofList {t : Tree} {ds : List Declaration} (h : ofList ds = .ok t) :
  t.Holds ds
  := (refusing_insert.of_foldlM holds_empty List.nodup_nil h).1

/-- There is a tree of a list of declarations exactly when their names are distinct. -/
theorem exists_ofList_iff (ds : List Declaration) :
  (∃ t, ofList ds = .ok t) ↔ (ds.map (·.name)).Nodup
  := refusing_insert.exists_foldlM_iff holds_empty ds

/-- With repeated names, a list is refused at the first member whose name has occurred before,
for the earlier member of that name. -/
theorem ofList_of_repeated {ds : List Declaration} (h : ¬ (ds.map (·.name)).Nodup) :
  ∃ before d after, ds = before ++ d :: after ∧ (before.map (·.name)).Nodup
    ∧ ∃ e ∈ before, e.name = d.name ∧ ofList ds = .error (.duplicate d.name d.id e.id)
  := by
  obtain ⟨before, d, after, t, hsplit, hnodup, hmem, hheld, hinsert⟩ :=
    refusing_insert.exists_foldlM_eq_add holds_empty h
  obtain ⟨e, he, hname⟩ := List.mem_map.mp hmem
  refine ⟨before, d, after, hsplit, hnodup, e, he, hname, ?_⟩
  rw [ofList, hinsert]
  apply hheld.insert_of_taken he hname

/-- A tree that holds a list holds its permutations. -/
theorem Holds.of_perm {t : Tree} {ds es : List Declaration} (h : t.Holds ds) (hperm : ds.Perm es) :
  t.Holds es
  := by
  constructor
  · apply h.located
  · intro path d
    rw [h.payloadAt_iff, hperm.mem_iff]

end MessagePlacement.Tree
