import MessagePlacement.Proofs.Outcome
import MessagePlacement.Toml.Reader

/-!
# The keys of a TOML document

`Value.HasTextKeys` holds of the values whose mappings, at any depth, have texts as keys.  The
values in a TOML document are of this kind, and every statement of the document keeps this of the
entries made so far, so that it is true of whatever `Toml.parse` reads.
-/

namespace MessagePlacement

/-- The values of which all mappings, at any depth, have texts as keys. -/
inductive Value.HasTextKeys : Value → Prop where
  | mapping {es : List (Value × Value)} (hkeys : ∀ e ∈ es, ∃ k, e.1 = .text k)
      (hvalues : ∀ e ∈ es, HasTextKeys e.2) : HasTextKeys (.mapping es)
  | list {xs : List Value} (h : ∀ x ∈ xs, HasTextKeys x) : HasTextKeys (.list xs)
  | scalar {v : Value} (h : Toml.isBracketed v = false) : HasTextKeys v

namespace Value

variable {k : String} {v : Value} {es : List (Value × Value)} {xs : List Value}

/-- Only a text is the same key as a text, and only the same one. -/
theorem sameKey_text_iff : v.sameKey (.text k) = true ↔ v = .text k
  := by
  cases v <;> simp [sameKey, keyNumber?]

theorem HasTextKeys.exists_key_eq (h : (Value.mapping es).HasTextKeys) {e : Value × Value}
    (he : e ∈ es) :
  ∃ k, e.1 = .text k
  := by
  cases h with
  | mapping hkeys hvalues => exact hkeys e he
  | scalar h => cases h

theorem HasTextKeys.of_mem_mapping (h : (Value.mapping es).HasTextKeys) {e : Value × Value}
    (he : e ∈ es) :
  e.2.HasTextKeys
  := by
  cases h with
  | mapping hkeys hvalues => exact hvalues e he
  | scalar h => cases h

theorem HasTextKeys.of_mem_list (h : (Value.list xs).HasTextKeys) {x : Value} (hx : x ∈ xs) :
  x.HasTextKeys
  := by
  cases h with
  | list h => exact h x hx
  | scalar h => cases h

theorem hasTextKeys_empty : (mapping []).HasTextKeys
  := by
  apply HasTextKeys.mapping
  · apply List.forall_mem_nil
  · apply List.forall_mem_nil

theorem HasTextKeys.of_get? (h : (Value.mapping es).HasTextKeys) (hv : get? k es = some v) :
  v.HasTextKeys
  := by
  obtain ⟨e, he, rfl⟩ := Option.map_eq_some_iff.mp hv
  exact h.of_mem_mapping (List.mem_of_find?_eq_some he)

theorem mem_put {e : Value × Value} (he : e ∈ put (.text k) v es) :
  e = (.text k, v) ∨ e ∈ es
  := by
  induction es with
  | nil => exact .inl (List.mem_singleton.mp he)
  | cons e' es ih =>
      rw [put] at he
      split at he
      · rename_i hkey
        rw [sameKey_text_iff.mp hkey] at he
        rcases List.mem_cons.mp he with he | he
        · exact .inl he
        · exact .inr (List.mem_cons_of_mem _ he)
      · rcases List.mem_cons.mp he with rfl | he
        · exact .inr (List.mem_cons_self ..)
        · exact (ih he).imp_right (List.mem_cons_of_mem _)

theorem HasTextKeys.put (h : (Value.mapping es).HasTextKeys) (hv : v.HasTextKeys) (k : String) :
  (Value.mapping (Value.put (.text k) v es)).HasTextKeys
  := by
  apply HasTextKeys.mapping
  · intro e he
    rcases mem_put he with rfl | he
    · exact ⟨k, rfl⟩
    · exact h.exists_key_eq he
  · intro e he
    rcases mem_put he with rfl | he
    · exact hv
    · exact h.of_mem_mapping he

end Value

namespace Toml

variable {es es' : Entries} {v : Value} {cs rest : List Char} {k : String} {ks : List String}

/-! ### Changes of entries -/

theorem hasTextKeys_concat {xs : List Value} (hxs : (Value.list xs).HasTextKeys)
    (hv : v.HasTextKeys) :
  (Value.list (xs ++ [v])).HasTextKeys
  := by
  apply Value.HasTextKeys.list
  intro x hx
  rcases List.mem_append.mp hx with hx | hx
  · exact hxs.of_mem_list hx
  · rw [List.mem_singleton.mp hx]
    exact hv

/-- Entries that are changed at the end of keys have texts as keys if they do at the end. -/
theorem hasTextKeys_of_changeAt {throughLists : Bool} {f : Entries → Option Entries}
    (hf : ∀ es es', (Value.mapping es).HasTextKeys → f es = some es' →
      (Value.mapping es').HasTextKeys)
    (hes : (Value.mapping es).HasTextKeys) (h : changeAt throughLists f ks es = some es') :
  (Value.mapping es').HasTextKeys
  := by
  induction ks generalizing es es' with
  | nil => exact hf es es' hes h
  | cons k ks ih =>
      simp only [changeAt] at h
      split at h
      · obtain ⟨sub, hsub, rfl⟩ := Option.map_eq_some_iff.mp h
        exact hes.put (ih Value.hasTextKeys_empty hsub) k
      · rename_i hget
        obtain ⟨sub', hsub, rfl⟩ := Option.map_eq_some_iff.mp h
        exact hes.put (ih (hes.of_get? hget) hsub) k
      · rename_i hget
        have hxs := hes.of_get? hget
        split at h
        · rename_i hlast
          obtain ⟨sub', hsub, rfl⟩ := Option.map_eq_some_iff.mp h
          have hitem := ih (hxs.of_mem_list (List.mem_of_getLast? hlast)) hsub
          have hothers := Value.HasTextKeys.list fun x hx =>
            hxs.of_mem_list (List.dropLast_subset _ hx)
          exact hes.put (hasTextKeys_concat hothers hitem) k
        · cases h
      · cases h

theorem hasTextKeys_of_addEntry (hv : v.HasTextKeys) (hes : (Value.mapping es).HasTextKeys)
    (h : addEntry k v es = some es') :
  (Value.mapping es').HasTextKeys
  := by
  rw [addEntry] at h
  split at h
  · cases h
  · cases h
    exact hes.put hv k

theorem hasTextKeys_of_addItem (hes : (Value.mapping es).HasTextKeys)
    (h : addItem k es = some es') :
  (Value.mapping es').HasTextKeys
  := by
  rw [addItem] at h
  split at h
  · cases h
    exact hes.put (hasTextKeys_concat (.list (List.forall_mem_nil _)) Value.hasTextKeys_empty) k
  · rename_i hget
    cases h
    exact hes.put (hasTextKeys_concat (hes.of_get? hget) Value.hasTextKeys_empty) k
  · cases h

/-! ### Values -/

theorem isBracketed_of_calendar? (h : calendar? cs = some (some (v, rest))) :
  isBracketed v = false
  := by
  rw [calendar?] at h
  split at h
  · split at h
    · cases h
    · split at h
      · cases h
        rfl
      · cases h
        rfl
  · obtain ⟨t, -, ht⟩ := Option.map_eq_some_iff.mp h
    cases ht
    rfl

theorem isBracketed_of_bool? (h : bool? cs = some (v, rest)) :
  isBracketed v = false
  := by
  unfold bool? at h
  split at h
  · cases h
    rfl
  · cases h
    rfl
  · cases h

theorem isBracketed_of_based? (h : based? cs = some (v, rest)) :
  isBracketed v = false
  := by
  unfold based? at h
  split at h
  · split at h
    · cases h
    · split at h
      · cases h
      · cases h
        rfl
  · cases h

theorem isBracketed_of_decimal (h : decimal cs = .ok (v, rest)) :
  isBracketed v = false
  := by
  simp only [decimal] at h
  split at h
  · cases h
  · split at h
    · cases h
      rfl
    · split at h
      · cases h
        rfl
      · split at h
        · cases h
        · cases h
          rfl

theorem isBracketed_of_special? (h : special? cs = some (v, rest)) :
  isBracketed v = false
  := by
  simp only [special?] at h
  split at h
  · cases h
    rfl
  · cases h
    rfl
  · cases h

@[simp] theorem required_eq_ok_iff {α : Type} {found : Option α} {a : α} :
  required found = .ok a ↔ found = some a
  := by
  cases found with
  | none => simp [required]
  | some b => simp [required]

theorem isBracketed_of_scalar (h : scalar cs = .ok (v, rest)) :
  isBracketed v = false
  := by
  have hstring {found : Option (String × List Char)}
      (h : required (found.map fun t => (.text t.1, t.2)) = .ok (v, rest)) :
      isBracketed v = false := by
    obtain ⟨t, -, ht⟩ := Option.map_eq_some_iff.mp (required_eq_ok_iff.mp h)
    cases ht
    rfl
  unfold scalar at h
  split at h
  · exact hstring h
  · exact hstring h
  · split at h
    · rename_i hcalendar
      rw [required_eq_ok_iff] at h
      subst h
      exact isBracketed_of_calendar? hcalendar
    · cases hword : (bool? cs).or ((based? cs).or (special? cs)) with
      | none =>
          rw [hword] at h
          exact isBracketed_of_decimal h
      | some found =>
          rw [hword] at h
          obtain rfl := Except.ok.inj h
          simp only [Option.or_eq_some_iff] at hword
          rcases hword with h | ⟨-, h | ⟨-, h⟩⟩
          · exact isBracketed_of_bool? h
          · exact isBracketed_of_based? h
          · exact isBracketed_of_special? h

/-- What is read with some fuel has texts as keys, if what is already there does. -/
structure ReadsTextKeys (fuel : Nat) : Prop where
  value {cs rest : List Char} {v : Value} (h : value fuel cs = .ok (v, rest)) : v.HasTextKeys
  items {acc : List Value} {cs rest : List Char} {v : Value} (hacc : ∀ x ∈ acc, x.HasTextKeys)
    (h : items fuel acc cs = .ok (v, rest)) : v.HasTextKeys
  entry {cs rest : List Char} {k : List String} {v : Value}
    (h : entry fuel cs = .ok (k, v, rest)) : v.HasTextKeys
  members {closed : List (List String)} {es : Entries} {cs rest : List Char} {v : Value}
    (hes : (Value.mapping es).HasTextKeys)
    (h : members fuel closed es cs = .ok (v, rest)) : v.HasTextKeys

theorem readsTextKeys (fuel : Nat) : ReadsTextKeys fuel
  := by
  induction fuel with
  | zero =>
      constructor
      · intro cs rest v h
        cases h
      · intro acc cs rest v hacc h
        cases h
      · intro cs rest k v h
        cases h
      · intro closed es cs rest v hes h
        cases h
  | succ fuel ih =>
      constructor
      case value =>
        intro cs rest v h
        unfold value at h
        split at h
        · obtain ⟨cs₁, -, h⟩ := bind_eq_ok_iff.mp h
          split at h
          · cases h
            exact .list (List.forall_mem_nil _)
          · exact ih.items (List.forall_mem_nil _) h
        · split at h
          · cases h
            exact Value.hasTextKeys_empty
          · exact ih.members Value.hasTextKeys_empty h
        · exact .scalar (isBracketed_of_scalar h)
      case items =>
        intro acc cs rest v hacc h
        unfold items at h
        obtain ⟨⟨x, cs₁⟩, hx, h⟩ := bind_eq_ok_iff.mp h
        obtain ⟨cs₂, -, h⟩ := bind_eq_ok_iff.mp h
        have hacc' := List.forall_mem_cons.mpr ⟨ih.value hx, hacc⟩
        have hlist := Value.HasTextKeys.list fun y hy => hacc' y (List.mem_reverse.mp hy)
        split at h
        · cases h
          exact hlist
        · obtain ⟨cs₃, -, h⟩ := bind_eq_ok_iff.mp h
          split at h
          · cases h
            exact hlist
          · exact ih.items hacc' h
        · cases h
      case entry =>
        intro cs rest k v h
        unfold entry at h
        obtain ⟨key, -, h⟩ := bind_eq_ok_iff.mp h
        split at h
        · obtain ⟨⟨x, cs₁⟩, hx, h⟩ := bind_eq_ok_iff.mp h
          cases h
          exact ih.value hx
        · cases h
      case members =>
        intro closed es cs rest v hes h
        unfold members at h
        obtain ⟨⟨k, x, cs₁⟩, hx, h⟩ := bind_eq_ok_iff.mp h
        dsimp only at h
        split at h
        · cases h
        · obtain ⟨es', hchanged, h⟩ := bind_eq_ok_iff.mp h
          have hes' := hasTextKeys_of_changeAt
            (fun _ _ hes h => hasTextKeys_of_addEntry (ih.entry hx) hes h) hes
            (required_eq_ok_iff.mp hchanged)
          split at h
          · cases h
            exact hes'
          · exact ih.members hes' h
          · cases h

/-! ### Statements -/

section Statements

variable {d d' : Document}

theorem hasTextKeys_of_openTable? (hd : (Value.mapping d.entries).HasTextKeys)
    (h : d.openTable? ks = some d') :
  (Value.mapping d'.entries).HasTextKeys
  := by
  unfold Document.openTable? at h
  dsimp only at h
  split at h
  · cases h
  · obtain ⟨es, hchanged, h⟩ := Option.bind_eq_some_iff.mp h
    cases h
    refine hasTextKeys_of_changeAt ?_ hd hchanged
    rintro es _ hes ⟨⟩
    exact hes

theorem hasTextKeys_of_openItem? (hd : (Value.mapping d.entries).HasTextKeys)
    (h : d.openItem? ks = some d') :
  (Value.mapping d'.entries).HasTextKeys
  := by
  unfold Document.openItem? at h
  dsimp only at h
  split at h
  · cases h
  · obtain ⟨es, hchanged, h⟩ := Option.bind_eq_some_iff.mp h
    cases h
    exact hasTextKeys_of_changeAt (fun _ _ => hasTextKeys_of_addItem) hd hchanged

theorem hasTextKeys_of_addEntry? (hv : v.HasTextKeys)
    (hd : (Value.mapping d.entries).HasTextKeys) (h : d.addEntry? ks v = some d') :
  (Value.mapping d'.entries).HasTextKeys
  := by
  unfold Document.addEntry? at h
  dsimp only at h
  split at h
  · cases h
  · obtain ⟨es, hchanged, h⟩ := Option.bind_eq_some_iff.mp h
    cases h
    exact hasTextKeys_of_changeAt (fun _ _ => hasTextKeys_of_addEntry hv) hd hchanged

/-- A statement keeps that the entries made so far have texts as keys. -/
theorem hasTextKeys_of_statement (hd : (Value.mapping d.entries).HasTextKeys)
    (h : statement d cs = .ok (d', rest)) :
  (Value.mapping d'.entries).HasTextKeys
  := by
  unfold statement at h
  split at h
  · obtain ⟨key, -, h⟩ := bind_eq_ok_iff.mp h
    split at h
    · obtain ⟨_, hopened, ht⟩ := Option.map_eq_some_iff.mp (required_eq_ok_iff.mp h)
      cases ht
      exact hasTextKeys_of_openItem? (d := d.settle) hd hopened
    · cases h
  · obtain ⟨key, -, h⟩ := bind_eq_ok_iff.mp h
    split at h
    · obtain ⟨_, hopened, ht⟩ := Option.map_eq_some_iff.mp (required_eq_ok_iff.mp h)
      cases ht
      exact hasTextKeys_of_openTable? (d := d.settle) hd hopened
    · cases h
  · cases h
    exact hd
  · cases h
    exact hd
  · cases h
    exact hd
  · obtain ⟨⟨key, x, cs₁⟩, hx, h⟩ := bind_eq_ok_iff.mp h
    obtain ⟨_, hadded, ht⟩ := Option.map_eq_some_iff.mp (required_eq_ok_iff.mp h)
    cases ht
    exact hasTextKeys_of_addEntry? ((readsTextKeys _).entry hx) hd hadded

theorem hasTextKeys_of_statements {fuel : Nat} (hd : (Value.mapping d.entries).HasTextKeys)
    (h : statements fuel d cs = .ok d') :
  (Value.mapping d'.entries).HasTextKeys
  := by
  induction fuel generalizing d cs with
  | zero => cases h
  | succ fuel ih =>
      rw [statements] at h
      obtain ⟨⟨d₁, cs₁⟩, hstatement, h⟩ := bind_eq_ok_iff.mp h
      have hd₁ := hasTextKeys_of_statement hd hstatement
      obtain ⟨cs₂, -, h⟩ := bind_eq_ok_iff.mp h
      split at h
      · cases h
        exact hd₁
      · exact ih hd₁ h
      · cases h

/-- The keys in a TOML document are texts. -/
theorem hasTextKeys_of_parse {s : String} (h : parse s = .ok es) :
  (Value.mapping es).HasTextKeys
  := by
  obtain ⟨d, hd, rfl⟩ := map_eq_ok_iff.mp h
  exact hasTextKeys_of_statements Value.hasTextKeys_empty hd

end Statements

end Toml

end MessagePlacement
