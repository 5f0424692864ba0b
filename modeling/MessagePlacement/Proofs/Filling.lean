import Mathlib.Data.List.Induction
import Mathlib.Data.List.Nodup

/-!
# Filling a container with distinct keys

A container is filled by an addition that may fail.  `Refusing add key Holds` says that an
addition fails exactly when the key of what is added is taken, where `Holds s as` relates a
container to the list of what has been added to it.  Adding the members of a list in order
then succeeds exactly when their keys are distinct, and otherwise gives what the addition of the
first member with a repeated key gives.
-/

namespace MessagePlacement

variable {ε σ α κ : Type}

/-- `Refusing add key Holds`: to a container that holds `as` everything with a new key can be
added, and nothing with the key of a member of `as`. -/
structure Refusing (add : σ → α → Except ε σ) (key : α → κ) (Holds : σ → List α → Prop) : Prop where
  add_of_new {s : σ} {as : List α} {a : α} : Holds s as → (∀ b ∈ as, key b ≠ key a) →
    ∃ t, add s a = .ok t ∧ Holds t (as ++ [a])
  add_of_taken {s : σ} {as : List α} {a b : α} : Holds s as → b ∈ as → key b = key a →
    ∃ e, add s a = .error e

namespace Refusing

variable {add : σ → α → Except ε σ} {key : α → κ} {Holds : σ → List α → Prop}

/-- What has been added successfully had a new key, and is held afterwards. -/
theorem of_add (h : Refusing add key Holds) {s t : σ} {as : List α} {a : α} (hs : Holds s as)
    (ht : add s a = .ok t) :
  (∀ b ∈ as, key b ≠ key a) ∧ Holds t (as ++ [a])
  := by
  have hnew : ∀ b ∈ as, key b ≠ key a := by
    intro b hb hkey
    obtain ⟨e, he⟩ := h.add_of_taken hs hb hkey
    rw [he] at ht
    cases ht
  constructor
  · apply hnew
  · obtain ⟨t', ht', hheld⟩ := h.add_of_new hs hnew
    rw [ht] at ht'
    rw [Except.ok.inj ht']
    apply hheld

theorem nodup_concat {as : List α} {a : α} (h : (as.map key).Nodup)
    (hnew : ∀ b ∈ as, key b ≠ key a) :
  ((as ++ [a]).map key).Nodup
  := by
  rw [List.map_append, List.map_singleton, ← List.concat_eq_append, List.nodup_concat]
  constructor
  · intro hmem
    obtain ⟨b, hb, hkey⟩ := List.mem_map.mp hmem
    apply hnew b hb hkey
  · apply h

/-- After the members of a list have been added, they are held too, and all keys are
distinct. -/
theorem of_foldlM (h : Refusing add key Holds) {bs : List α} :
  ∀ {s t : σ} {as : List α}, Holds s as → (as.map key).Nodup → bs.foldlM add s = .ok t →
    Holds t (as ++ bs) ∧ ((as ++ bs).map key).Nodup
  := by
  induction bs with
  | nil =>
      intro s t as hs hnodup ht
      obtain rfl := Except.ok.inj ht
      rw [List.append_nil]
      exact ⟨hs, hnodup⟩
  | cons b bs ih =>
      intro s t as hs hnodup ht
      rw [List.foldlM_cons] at ht
      cases hb : add s b with
      | error e =>
          rw [hb] at ht
          cases ht
      | ok u =>
          rw [hb] at ht
          obtain ⟨hnew, hu⟩ := h.of_add hs hb
          have hrest := ih hu (nodup_concat hnodup hnew) ht
          rwa [List.append_assoc, List.singleton_append] at hrest

/-- The members of a list can be added if all keys are distinct. -/
theorem exists_foldlM (h : Refusing add key Holds) {bs : List α} :
  ∀ {s : σ} {as : List α}, Holds s as → ((as ++ bs).map key).Nodup →
    ∃ t, bs.foldlM add s = .ok t
  := by
  induction bs with
  | nil =>
      intro s as hs hnodup
      use s
      rfl
  | cons b bs ih =>
      intro s as hs hnodup
      have hnew : ∀ a ∈ as, key a ≠ key b := by
        intro a ha
        rw [List.map_append, List.map_cons] at hnodup
        apply (List.nodup_append.mp hnodup).2.2 (key a) (List.mem_map_of_mem ha)
        apply List.mem_cons_self
      obtain ⟨u, hb, hu⟩ := h.add_of_new hs hnew
      rw [← List.singleton_append, ← List.append_assoc] at hnodup
      obtain ⟨t, ht⟩ := ih hu hnodup
      use t
      rw [List.foldlM_cons, hb]
      apply ht

/-- A container can be filled with a list exactly when the keys of its members are
distinct. -/
theorem exists_foldlM_iff (h : Refusing add key Holds) {s : σ} (hs : Holds s []) (as : List α) :
  (∃ t, as.foldlM add s = .ok t) ↔ (as.map key).Nodup
  := by
  constructor
  · rintro ⟨t, ht⟩
    exact (h.of_foldlM hs List.nodup_nil ht).2
  · intro hnodup
    apply h.exists_foldlM hs hnodup

/-- When keys are repeated, some member is the first whose key has occurred before it. -/
theorem exists_first_repeated {as : List α} (h : ¬ (as.map key).Nodup) :
  ∃ before a after, as = before ++ a :: after ∧ (before.map key).Nodup ∧ key a ∈ before.map key
  := by
  induction as using List.reverseRecOn with
  | nil => exact absurd List.nodup_nil h
  | append_singleton as a ih =>
      by_cases hnodup : (as.map key).Nodup
      · refine ⟨as, a, [], rfl, hnodup, ?_⟩
        by_contra hnew
        apply h
        apply nodup_concat hnodup
        intro b hb hkey
        apply hnew (List.mem_map.mpr ⟨b, hb, hkey⟩)
      · obtain ⟨before, b, after, rfl, hbefore, hb⟩ := ih hnodup
        refine ⟨before, b, after ++ [a], ?_, hbefore, hb⟩
        rw [List.append_assoc, List.cons_append]

/-- With repeated keys, filling a container ends with the first member whose key is taken. -/
theorem exists_foldlM_eq_add (h : Refusing add key Holds) {s : σ} (hs : Holds s []) {as : List α}
    (has : ¬ (as.map key).Nodup) :
  ∃ before a after t, as = before ++ a :: after ∧ (before.map key).Nodup
    ∧ key a ∈ before.map key ∧ Holds t before ∧ as.foldlM add s = add t a
  := by
  obtain ⟨before, a, after, rfl, hbefore, ha⟩ := exists_first_repeated has
  obtain ⟨t, ht⟩ := (h.exists_foldlM_iff hs before).mpr hbefore
  have hheld := (h.of_foldlM hs List.nodup_nil ht).1
  obtain ⟨b, hb, hkey⟩ := List.mem_map.mp ha
  obtain ⟨e, he⟩ := h.add_of_taken hheld hb hkey
  refine ⟨before, a, after, t, rfl, hbefore, ha, hheld, ?_⟩
  rw [List.foldlM_append, ht]
  change (a :: after).foldlM add t = _
  rw [List.foldlM_cons, he]
  rfl

end Refusing

end MessagePlacement
