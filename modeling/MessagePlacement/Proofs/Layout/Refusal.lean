import Mathlib.Order.Bounds.Defs
import MessagePlacement.Proofs.Layout.Contents

/-!
# Declarations that make no layout

A layout is refused to declarations with a repeated id or a repeated name.  Repeated ids are
found first, in the order of the list, so that the error names the first declaration whose id
has occurred before.  Repeated names are found in the order of the ids, whatever the order of
the list: the error names the declaration of the least id whose name has a smaller id, and the
least id of that name.
-/

namespace MessagePlacement.Layout

variable {ds : List Declaration} {fold : Bool}

/-- The ids of the declarations whose name is also that of a declaration of a smaller id. -/
def laterIds (ds : List Declaration) : Set Int :=
  { i | ∃ d ∈ ds, d.id = i ∧ ∃ e ∈ ds, e.name = d.name ∧ e.id < d.id }

/-- The ids of the declarations of a name. -/
def idsOf (ds : List Declaration) (name : String) : Set Int :=
  { i | ∃ d ∈ ds, d.id = i ∧ d.name = name }

theorem ofDeclarations_of_ofList {r : Registry} (hr : Registry.ofList ds = .ok r) :
  ofDeclarations ds fold
    = (Tree.ofList r.entries).map
        fun t => ⟨r, t, if fold && !t.isEmpty then t.plan else .empty⟩
  := by
  rw [ofDeclarations, hr]
  change (Tree.ofList r.entries >>= _) = _
  cases Tree.ofList r.entries with
  | error e => rfl
  | ok t => rfl

/-- With repeated ids, a layout is refused at the first declaration whose id has occurred
before. -/
theorem ofDeclarations_of_repeated_id (fold : Bool) (hid : ¬ (ds.map (·.id)).Nodup) :
  ∃ before d after, ds = before ++ d :: after ∧ (before.map (·.id)).Nodup
    ∧ d.id ∈ before.map (·.id) ∧ ofDeclarations ds fold = .error (.duplicate d.name d.id d.id)
  := by
  obtain ⟨before, d, after, hsplit, hnodup, hmem, hr⟩ := Registry.ofList_of_repeated hid
  refine ⟨before, d, after, hsplit, hnodup, hmem, ?_⟩
  rw [ofDeclarations, hr]
  rfl

/-- With distinct ids and repeated names, a layout is refused at the declaration of the least id
whose name has a smaller id, for the least id of that name. -/
theorem ofDeclarations_of_repeated_name
    (fold : Bool) (hid : (ds.map (·.id)).Nodup) (hname : ¬ (ds.map (·.name)).Nodup) :
  ∃ d ∈ ds, ∃ e ∈ ds, IsLeast (laterIds ds) d.id ∧ IsLeast (idsOf ds d.name) e.id
    ∧ ofDeclarations ds fold = .error (.duplicate d.name d.id e.id)
  := by
  obtain ⟨r, hr⟩ := (Registry.exists_ofList_iff ds).mpr hid
  have h := Registry.holds_of_ofList hr
  rw [← (h.perm.map _).nodup_iff] at hname
  obtain ⟨before, d, after, hsplit, hnodup, e, he, heq, ht⟩ := Tree.ofList_of_repeated hname
  have hmem : ∀ a ∈ before ++ d :: after, a ∈ ds := by
    intro a ha
    rwa [← hsplit, h.perm.mem_iff] at ha
  have hd := hmem d (by simp)
  have heds := hmem e (List.mem_append_left _ he)
  -- two declarations of one name cannot both stand before `d`
  have hbefore : ∀ a ∈ ds, ∀ b ∈ ds, a.name = b.name → a.id < d.id → b.id < d.id → a = b := by
    intro a ha b hb hab halt hblt
    exact List.inj_on_of_nodup_map hnodup (h.mem_of_id_lt hsplit ha halt)
      (h.mem_of_id_lt hsplit hb hblt) hab
  have hlt := h.id_lt hsplit he
  refine ⟨d, hd, e, heds, ⟨⟨d, hd, rfl, e, heds, heq, hlt⟩, ?_⟩, ⟨⟨e, heds, rfl, heq⟩, ?_⟩, ?_⟩
  · rintro _ ⟨a, ha, rfl, b, hb, hab, hba⟩
    by_contra hnot
    have halt := Int.not_le.mp hnot
    obtain rfl := hbefore b hb a ha hab (Int.lt_trans hba halt) halt
    exact Int.lt_irrefl _ hba
  · rintro _ ⟨a, ha, rfl, had⟩
    by_contra hnot
    have hae := Int.not_le.mp hnot
    obtain rfl := hbefore a ha e heds (had.trans heq.symm) (Int.lt_trans hae hlt) hlt
    exact Int.lt_irrefl _ hae
  · rw [ofDeclarations_of_ofList hr, ht]
    rfl

/-- A layout is refused only for duplicates. -/
theorem exists_duplicate_of_error {e : LayoutError} (h : ofDeclarations ds fold = .error e) :
  ∃ name id existing, e = .duplicate name id existing
  := by
  by_cases hid : (ds.map (·.id)).Nodup
  · by_cases hname : (ds.map (·.name)).Nodup
    · obtain ⟨l, hl⟩ := exists_ofDeclarations_iff.mpr ⟨hid, hname⟩
      rw [hl] at h
      cases h
    · obtain ⟨d, -, e', -, -, -, heq⟩ := ofDeclarations_of_repeated_name fold hid hname
      rw [heq] at h
      exact ⟨_, _, _, (Except.error.inj h).symm⟩
  · obtain ⟨_, d, _, -, -, -, heq⟩ := ofDeclarations_of_repeated_id fold hid
    rw [heq] at h
    exact ⟨_, _, _, (Except.error.inj h).symm⟩

/-- A layout is refused exactly when an id or a name is repeated. -/
theorem exists_error_iff (ds : List Declaration) (fold : Bool) :
  (∃ e, ofDeclarations ds fold = .error e) ↔ ¬ (ds.map (·.id)).Nodup ∨ ¬ (ds.map (·.name)).Nodup
  := by
  rw [← not_and_or, ← @exists_ofDeclarations_iff ds fold]
  cases ofDeclarations ds fold with
  | error e => simp
  | ok l => simp

end MessagePlacement.Layout
