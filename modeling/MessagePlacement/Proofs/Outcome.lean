import Mathlib.Data.List.Forall2

/-!
# Outcomes of operations that may fail

One operation after another gives a value when both do, and ends with an error when the first
does or the second does on what the first gives.  A list is mapped by an operation that may fail
when every member is.
-/

namespace MessagePlacement

variable {ε ε' α β : Type}

@[simp] theorem bind_eq_ok_iff {x : Except ε α} {f : α → Except ε β} {b : β} :
  x >>= f = .ok b ↔ ∃ a, x = .ok a ∧ f a = .ok b
  := by
  cases x with
  | error e =>
      constructor
      · rintro ⟨⟩
      · rintro ⟨a, ⟨⟩, -⟩
  | ok a =>
      constructor
      · intro h
        exact ⟨a, rfl, h⟩
      · rintro ⟨_, ⟨⟩, h⟩
        exact h

@[simp] theorem bind_eq_error_iff {x : Except ε α} {f : α → Except ε β} {e : ε} :
  x >>= f = .error e ↔ x = .error e ∨ ∃ a, x = .ok a ∧ f a = .error e
  := by
  cases x with
  | error e' =>
      constructor
      · rintro ⟨⟩
        exact .inl rfl
      · rintro (⟨⟨⟩⟩ | ⟨a, ⟨⟩, -⟩)
        rfl
  | ok a =>
      constructor
      · intro h
        exact .inr ⟨a, rfl, h⟩
      · rintro (⟨⟨⟩⟩ | ⟨_, ⟨⟩, h⟩)
        exact h

@[simp] theorem map_eq_ok_iff {x : Except ε α} {f : α → β} {b : β} :
  x.map f = .ok b ↔ ∃ a, x = .ok a ∧ f a = b
  := by
  cases x with
  | error e =>
      constructor
      · rintro ⟨⟩
      · rintro ⟨a, ⟨⟩, -⟩
  | ok a =>
      constructor
      · rintro ⟨⟩
        exact ⟨a, rfl, rfl⟩
      · rintro ⟨_, ⟨⟩, rfl⟩
        rfl

@[simp] theorem map_eq_error_iff {x : Except ε α} {f : α → β} {e : ε} :
  x.map f = .error e ↔ x = .error e
  := by
  cases x with
  | error e' => simp [Except.map]
  | ok a => simp [Except.map]

@[simp] theorem mapError_eq_ok_iff {x : Except ε α} {f : ε → ε'} {a : α} :
  x.mapError f = .ok a ↔ x = .ok a
  := by
  cases x with
  | error e =>
      constructor
      · rintro ⟨⟩
      · rintro ⟨⟩
  | ok a' =>
      constructor
      · rintro ⟨⟩
        rfl
      · rintro ⟨⟩
        rfl

@[simp] theorem mapError_eq_error_iff {x : Except ε α} {f : ε → ε'} {e' : ε'} :
  x.mapError f = .error e' ↔ ∃ e, x = .error e ∧ f e = e'
  := by
  cases x with
  | error e =>
      constructor
      · rintro ⟨⟩
        exact ⟨e, rfl, rfl⟩
      · rintro ⟨_, ⟨⟩, rfl⟩
        rfl
  | ok a =>
      constructor
      · rintro ⟨⟩
      · rintro ⟨e, ⟨⟩, -⟩

@[simp] theorem toOption_eq_some_iff {x : Except ε α} {a : α} :
  x.toOption = some a ↔ x = .ok a
  := by
  cases x with
  | error e => exact iff_of_false nofun nofun
  | ok a' =>
      constructor
      · rintro ⟨⟩
        rfl
      · rintro ⟨⟩
        rfl

/-- What is paired with a member of one list is a member of the other. -/
theorem exists_mem_of_forall₂ {R : α → β → Prop} {xs : List α} {ys : List β}
    (h : List.Forall₂ R xs ys) {y : β} (hy : y ∈ ys) :
  ∃ x ∈ xs, R x y
  := by
  induction h with
  | nil => cases hy
  | cons hR hrest ih =>
      rcases List.mem_cons.mp hy with rfl | hy
      · exact ⟨_, List.mem_cons_self .., hR⟩
      · obtain ⟨x, hx, hxy⟩ := ih hy
        exact ⟨x, List.mem_cons_of_mem _ hx, hxy⟩

/-- A list is mapped exactly when every member is. -/
theorem mapM_eq_ok_iff {f : α → Except ε β} {xs : List α} {ys : List β} :
  xs.mapM f = .ok ys ↔ List.Forall₂ (fun x y => f x = .ok y) xs ys
  := by
  induction xs generalizing ys with
  | nil =>
      rw [List.mapM_nil, List.forall₂_nil_left_iff]
      constructor
      · rintro ⟨⟩
        rfl
      · rintro rfl
        rfl
  | cons x xs ih =>
      simp only [List.mapM_cons, bind_eq_ok_iff, List.forall₂_cons_left_iff, ih]
      constructor
      · rintro ⟨y, hy, zs, hzs, ⟨⟩⟩
        exact ⟨y, zs, hy, hzs, rfl⟩
      · rintro ⟨y, zs, hy, hzs, rfl⟩
        exact ⟨y, hy, zs, hzs, rfl⟩

/-- A list can be mapped exactly when every member can. -/
theorem exists_mapM_iff {f : α → Except ε β} {xs : List α} :
  (∃ ys, xs.mapM f = .ok ys) ↔ ∀ x ∈ xs, ∃ y, f x = .ok y
  := by
  simp only [mapM_eq_ok_iff]
  constructor
  · rintro ⟨ys, hys⟩ x hx
    obtain ⟨y, -, hy⟩ := exists_mem_of_forall₂ hys.flip hx
    exact ⟨y, hy⟩
  · intro h
    induction xs with
    | nil => exact ⟨[], .nil⟩
    | cons x xs ih =>
        obtain ⟨y, hy⟩ := h x (List.mem_cons_self ..)
        obtain ⟨ys, hys⟩ := ih fun x' hx' => h x' (List.mem_cons_of_mem _ hx')
        exact ⟨y :: ys, .cons hy hys⟩

/-- A list is not mapped when some member is not; the first one gives the error. -/
theorem mapM_eq_error_iff {f : α → Except ε β} {xs : List α} {e : ε} :
  xs.mapM f = .error e
    ↔ ∃ before x after, xs = before ++ x :: after ∧ (∀ y ∈ before, ∃ b, f y = .ok b)
      ∧ f x = .error e
  := by
  induction xs with
  | nil =>
      apply iff_of_false
      · nofun
      · rintro ⟨before, x, after, h, -⟩
        exact List.append_ne_nil_of_right_ne_nil before (List.cons_ne_nil x after) h.symm
  | cons x xs ih =>
      simp only [List.mapM_cons, bind_eq_error_iff, ih, List.cons_eq_append_iff]
      constructor
      · rintro (hx | ⟨b, hb, ⟨before, y, after, rfl, hbefore, hy⟩ | ⟨ys, -, ⟨⟩⟩⟩)
        · exact ⟨[], x, xs, .inl ⟨rfl, rfl⟩, nofun, hx⟩
        · refine ⟨x :: before, y, after, .inr ⟨before, rfl, rfl⟩, ?_, hy⟩
          exact List.forall_mem_cons.mpr ⟨⟨b, hb⟩, hbefore⟩
      · rintro ⟨before, y, after, ⟨rfl, h⟩ | ⟨before, rfl, rfl⟩, hbefore, hy⟩
        · cases h
          exact .inl hy
        · obtain ⟨⟨b, hb⟩, hbefore⟩ := List.forall_mem_cons.mp hbefore
          exact .inr ⟨b, hb, .inl ⟨before, y, after, rfl, hbefore, hy⟩⟩

theorem exists_of_mapM_eq_error {f : α → Except ε β} {xs : List α} {e : ε}
    (h : xs.mapM f = .error e) :
  ∃ x ∈ xs, f x = .error e
  := by
  obtain ⟨before, x, after, rfl, -, hx⟩ := mapM_eq_error_iff.mp h
  exact ⟨x, List.mem_append_right _ (List.mem_cons_self ..), hx⟩

end MessagePlacement
