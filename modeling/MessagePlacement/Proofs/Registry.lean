import MessagePlacement.Proofs.Filling
import MessagePlacement.Registry

/-!
# What a registry holds

A registry filled with declarations holds them in increasing order of their ids.  It can
be filled with a list exactly when the ids are distinct, and finds each of its members by
its id.
-/

namespace MessagePlacement.Registry

theorem place_perm (d : Declaration) (es : List Declaration) :
  (place d es).Perm (d :: es)
  := by
  induction es with
  | nil => exact List.Perm.refl _
  | cons e es ih =>
      rw [place]
      split
      · apply List.Perm.refl _
      · exact (ih.cons e).trans (List.Perm.swap d e es)

/-- Placing a declaration of a new id keeps the ids increasing. -/
theorem pairwise_place {d : Declaration} {es : List Declaration}
    (h : es.Pairwise (·.id < ·.id)) (hnew : ∀ e ∈ es, e.id ≠ d.id) :
  (place d es).Pairwise (·.id < ·.id)
  := by
  induction es with
  | nil => exact List.pairwise_singleton _ d
  | cons e es ih =>
      rw [List.pairwise_cons] at h
      have hne : e.id ≠ d.id := hnew e (List.mem_cons_self ..)
      rw [place]
      split
      · rename_i hlt
        rw [List.pairwise_cons]
        constructor
        · intro b hb
          rcases List.mem_cons.mp hb with rfl | hb
          · apply hlt
          · apply Int.lt_trans hlt (h.1 b hb)
        · apply List.pairwise_cons.mpr h
      · rename_i hlt
        rw [List.pairwise_cons]
        constructor
        · intro b hb
          rcases List.mem_cons.mp ((place_perm d es).mem_iff.mp hb) with rfl | hb
          · omega
          · apply h.1 b hb
        · apply ih h.2 (fun b hb => hnew b (List.mem_cons_of_mem _ hb))

/-- `r.Holds ds`: the registry has the members of `ds` as entries, in increasing order of
their ids. -/
structure Holds (r : Registry) (ds : List Declaration) : Prop where
  perm : r.entries.Perm ds
  pairwise : r.entries.Pairwise (·.id < ·.id)

theorem holds_empty :
  empty.Holds []
  := ⟨List.Perm.refl _, List.Pairwise.nil⟩

/-- A declaration is found by its id. -/
theorem Holds.find?_id {r : Registry} {ds : List Declaration} (h : r.Holds ds) {d : Declaration}
    (hd : d ∈ ds) :
  r.find? d.id = some d
  := by
  obtain ⟨as, bs, hsplit⟩ := List.append_of_mem (h.perm.mem_iff.mpr hd)
  have hpairwise := h.pairwise
  rw [hsplit, List.pairwise_append] at hpairwise
  rw [find?, hsplit, List.find?_append]
  have hnone : as.find? (·.id == d.id) = none := by
    rw [List.find?_eq_none]
    intro a ha hid
    have hlt := hpairwise.2.2 a ha d (List.mem_cons_self ..)
    rw [beq_iff_eq.mp hid] at hlt
    apply Int.lt_irrefl _ hlt
  simp [hnone]

/-- What is found by an id has it, and is held. -/
theorem Holds.mem_of_find? {r : Registry} {ds : List Declaration} (h : r.Holds ds) {id : Int}
    {d : Declaration} (hd : r.find? id = some d) :
  d ∈ ds ∧ d.id = id
  := by
  constructor
  · apply h.perm.mem_iff.mp
    apply List.mem_of_find?_eq_some hd
  · simpa using List.find?_some hd

/-- What is held with a smaller id stands further to the front. -/
theorem Holds.mem_of_id_lt {r : Registry} {ds before after : List Declaration} (h : r.Holds ds)
    {d e : Declaration} (hsplit : r.entries = before ++ d :: after) (he : e ∈ ds)
    (hlt : e.id < d.id) :
  e ∈ before
  := by
  have hpairwise := h.pairwise
  rw [hsplit, List.pairwise_append, List.pairwise_cons] at hpairwise
  rw [← h.perm.mem_iff, hsplit, List.mem_append, List.mem_cons] at he
  rcases he with he | rfl | he
  · apply he
  · exact absurd hlt (Int.lt_irrefl _)
  · exact absurd hlt (Int.lt_asymm (hpairwise.2.1.1 e he))

/-- What is further to the front has a smaller id. -/
theorem Holds.id_lt {r : Registry} {ds before after : List Declaration} (h : r.Holds ds)
    {d e : Declaration} (hsplit : r.entries = before ++ d :: after) (he : e ∈ before) :
  e.id < d.id
  := by
  have hpairwise := h.pairwise
  rw [hsplit, List.pairwise_append] at hpairwise
  apply hpairwise.2.2 e he d (List.mem_cons_self ..)

/-- A declaration supplies the simple name of its id. -/
theorem Holds.simpleNameOf_id {r : Registry} {ds : List Declaration} (h : r.Holds ds)
    {d : Declaration} (hd : d ∈ ds) :
  r.simpleNameOf d.id = .ok d.simpleName
  := by
  rw [simpleNameOf, get, h.find?_id hd]
  rfl

/-- A registry refuses a declaration of an id that is taken. -/
theorem Holds.add_of_taken {r : Registry} {ds : List Declaration} (h : r.Holds ds)
    {d e : Declaration} (he : e ∈ ds) (hid : e.id = d.id) :
  r.add d = .error (.duplicate d.name d.id e.id)
  := by
  rw [add, ← hid, h.find?_id he]

/-- A registry refuses declarations of an id that is taken, and no others. -/
theorem refusing_add :
  Refusing add Declaration.id Holds
  := by
  constructor
  · intro r ds d h hnew
    have hnone : r.find? d.id = none := by
      cases hfind : r.find? d.id with
      | none => rfl
      | some e =>
          obtain ⟨he, hid⟩ := h.mem_of_find? hfind
          exact absurd hid (hnew e he)
    use ⟨place d r.entries⟩
    constructor
    · rw [add, hnone]
    · constructor
      · apply (place_perm d r.entries).trans
        apply (h.perm.cons d).trans
        exact (List.perm_append_singleton d ds).symm
      · apply pairwise_place h.pairwise
        intro e he
        apply hnew e (h.perm.mem_iff.mp he)
  · intro r ds d e h he hid
    exact ⟨_, h.add_of_taken he hid⟩

theorem holds_of_ofList {r : Registry} {ds : List Declaration} (h : ofList ds = .ok r) :
  r.Holds ds
  := (refusing_add.of_foldlM holds_empty List.nodup_nil h).1

/-- There is a registry of a list of declarations exactly when their ids are distinct. -/
theorem exists_ofList_iff (ds : List Declaration) :
  (∃ r, ofList ds = .ok r) ↔ (ds.map (·.id)).Nodup
  := refusing_add.exists_foldlM_iff holds_empty ds

/-- With repeated ids, a list is refused at the first member whose id has occurred before. -/
theorem ofList_of_repeated {ds : List Declaration} (h : ¬ (ds.map (·.id)).Nodup) :
  ∃ before d after, ds = before ++ d :: after ∧ (before.map (·.id)).Nodup
    ∧ d.id ∈ before.map (·.id) ∧ ofList ds = .error (.duplicate d.name d.id d.id)
  := by
  obtain ⟨before, d, after, r, hsplit, hnodup, hmem, hheld, hadd⟩ :=
    refusing_add.exists_foldlM_eq_add holds_empty h
  obtain ⟨e, he, hid⟩ := List.mem_map.mp hmem
  refine ⟨before, d, after, hsplit, hnodup, hmem, ?_⟩
  rw [ofList, hadd, hheld.add_of_taken he hid, hid]

/-- A registry supplies the simple names that it finds. -/
@[simp] theorem simpleName_oracle (r : Registry) (id : Int) :
  r.oracle.simpleName id = r.simpleNameOf id
  := rfl

end MessagePlacement.Registry
