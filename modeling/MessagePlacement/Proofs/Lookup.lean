import Mathlib.Data.List.Nodup

/-!
# Lists of values by key

`List.lookup` finds the first value of a key.  When the values of every key agree, and all the
more when no key occurs twice, finding a value is occurring in the list.
-/

namespace MessagePlacement

variable {κ α : Type} [BEq κ] [LawfulBEq κ]

theorem lookup_cons_eq_if [DecidableEq κ] (j k : κ) (v : α) (l : List (κ × α)) :
  ((k, v) :: l).lookup j = if j = k then some v else l.lookup j
  := by
  rw [List.lookup_cons]
  by_cases h : j = k
  · simp [h]
  · simp [h, beq_false_of_ne h]

/-- When the values of a key agree, finding one of them is being one of them. -/
theorem lookup_eq_some_iff_of_agree {l : List (κ × α)} {k : κ} {v : α}
    (h : ∀ v w, (k, v) ∈ l → (k, w) ∈ l → v = w) :
  l.lookup k = some v ↔ (k, v) ∈ l
  := by
  have hmem : ∀ w, l.lookup k = some w → (k, w) ∈ l := by
    intro w hw
    obtain ⟨as, bs, rfl, -⟩ := List.lookup_eq_some_iff.mp hw
    simp
  constructor
  · apply hmem v
  · intro hv
    have hsome : (l.lookup k).isSome := by
      rw [List.lookup_isSome_iff]
      use (k, v), hv
      simp
    obtain ⟨w, hw⟩ := Option.isSome_iff_exists.mp hsome
    rw [hw, h v w hv (hmem w hw)]

/-- With distinct keys, finding a value is occurring in the list. -/
theorem lookup_eq_some_iff_mem {l : List (κ × α)} (h : (l.map Prod.fst).Nodup) {k : κ} {v : α} :
  l.lookup k = some v ↔ (k, v) ∈ l
  := by
  apply lookup_eq_some_iff_of_agree
  intro v w hv hw
  exact (Prod.mk.inj (List.inj_on_of_nodup_map h hv hw rfl)).2

/-- A key occurs in a list exactly when it has a value there. -/
theorem mem_keys_iff {l : List (κ × α)} {k : κ} :
  k ∈ l.map Prod.fst ↔ ∃ v, l.lookup k = some v
  := by
  rw [← Option.isSome_iff_exists, List.lookup_isSome_iff, List.mem_map]
  constructor
  · rintro ⟨e, he, rfl⟩
    use e, he
    simp
  · rintro ⟨e, he, hk⟩
    use e, he
    exact (beq_iff_eq.mp hk).symm

end MessagePlacement
