import Mathlib.Data.List.Sort

/-!
# Increasing lists

A list that increases by a key has no key twice, and is determined by its members.  Lists of
segments are such keys, compared lexicographically: at the first place where two of them differ,
or by their lengths if there is none.
-/

namespace MessagePlacement

variable {α κ : Type} {as bs : List α}

theorem nodup_of_pairwise_lt [LT κ] [hlt : Std.Asymm (α := κ) (· < ·)] {key : α → κ}
    (h : as.Pairwise fun a b => key a < key b) :
  (as.map key).Nodup
  := by
  rw [List.Nodup, List.pairwise_map]
  apply h.imp
  intro a b hab heq
  rw [heq] at hab
  exact hlt.asymm _ _ hab hab

/-- Sorting by a key that no two members share makes a list that increases by it. -/
theorem pairwise_mergeSort_of_nodup [LinearOrder κ] (key : α → κ) (h : (as.map key).Nodup) :
  (as.mergeSort fun a b => decide (key a ≤ key b)).Pairwise fun a b => key a < key b
  := by
  have hle : (as.mergeSort fun a b => decide (key a ≤ key b)).Pairwise
      fun a b => decide (key a ≤ key b) = true := by
    apply List.pairwise_mergeSort
    · intro a b c hab hbc
      simp only [decide_eq_true_eq] at hab hbc ⊢
      apply le_trans hab hbc
    · intro a b
      simp only [Bool.or_eq_true, decide_eq_true_eq]
      apply le_total
  have hne : (as.mergeSort fun a b => decide (key a ≤ key b)).Pairwise
      fun a b => key a ≠ key b := by
    rw [← List.pairwise_map]
    apply ((List.mergeSort_perm _ _).map key).nodup_iff.mpr h
  apply (List.pairwise_and_iff.mpr ⟨hle, hne⟩).imp
  rintro a b ⟨hab, hkeys⟩
  apply lt_of_le_of_ne (of_decide_eq_true hab) hkeys

/-- Lists that a strict order sorts and that have the same members are equal. -/
theorem eq_of_pairwise {r : α → α → Prop} (hr : ∀ {a b}, r a b → ¬ r b a) (h : as.Pairwise r)
    (h' : bs.Pairwise r) (hmem : ∀ a, a ∈ as ↔ a ∈ bs) :
  as = bs
  := by
  have hirrefl : Std.Irrefl r := ⟨fun a haa => hr haa haa⟩
  have hantisymm : Std.Antisymm r := ⟨fun a b hab hba => absurd hba (hr hab)⟩
  apply h.eq_of_mem_iff h' hmem

/-- Of two lists of one length, the lesser one stays lesser when both are continued. -/
theorem append_lt_append_of_length_eq [LT α] {as bs : List α} (h : as < bs)
    (hlength : as.length = bs.length) (cs ds : List α) :
  as ++ cs < bs ++ ds
  := by
  induction h with
  | nil => cases hlength
  | rel h => exact .rel h
  | cons h ih => exact .cons (ih (Nat.succ.inj hlength))

end MessagePlacement
