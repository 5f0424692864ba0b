import MessagePlacement.Json.Reader
import MessagePlacement.Proofs.Outcome

/-!
# Why a JSON text has no value

A text that has no value in JSON is malformed, has an integer of too many digits, or writes half of
a surrogate pair by itself.  A reader of a part fails only as one of its strings, numbers or words
does, so that this is kept from the parts to the whole.
-/

namespace MessagePlacement

namespace Json

/-- `IsTold e`: an error is one of those that a reading of JSON can end with. -/
inductive IsTold : ReadError → Prop where
  | malformed : IsTold .malformed
  | halfPair : IsTold (.fault .halfPair)
  | overlong (digits : Nat) : IsTold (.fault (.overlongInteger digits))

variable {cs : List Char} {e : ReadError}

/-! ### Strings, numbers and words -/

theorem isTold_of_string (h : string cs = .error e) :
  IsTold e
  := by
  rw [string] at h
  split at h
  · cases h
    exact .malformed
  · split at h
    · cases h
      exact .halfPair
    · cases h

theorem isTold_of_number {negative : Bool} (h : number negative cs = .error e) :
  IsTold e
  := by
  rw [number] at h
  split at h
  · cases h
    exact .malformed
  · rename_i whole count rest hwhole
    cases hfraction : fraction? whole rest with
    | some found =>
        simp only [hfraction, if_true] at h
        split at h
        · cases h
        · cases h
    | none =>
        simp only [hfraction, Bool.false_eq_true, if_false] at h
        split at h
        · cases h
        · split at h
          · cases h
            exact .overlong count
          · cases h

theorem isTold_of_word {w : String} {v : Value} (h : word w v cs = .error e) :
  IsTold e
  := by
  rw [word] at h
  split at h
  · cases h
  · cases h
    exact .malformed

theorem isTold_of_atom (h : atom cs = .error e) :
  IsTold e
  := by
  unfold atom at h
  split at h
  all_goals first
    | exact isTold_of_word h
    | exact isTold_of_number h

/-! ### Collections -/

/-- A reading with some fuel ends only with errors that are told of. -/
structure FailsAsTold (fuel : Nat) : Prop where
  value {cs : List Char} {e : ReadError} (h : value fuel cs = .error e) : IsTold e
  elements {acc : List Value} {cs : List Char} {e : ReadError}
    (h : elements fuel acc cs = .error e) : IsTold e
  members {entries : List (Value × Value)} {cs : List Char} {e : ReadError}
    (h : members fuel entries cs = .error e) : IsTold e

theorem failsAsTold (fuel : Nat) : FailsAsTold fuel
  := by
  induction fuel with
  | zero =>
      constructor
      · rintro cs e ⟨⟩
        exact .malformed
      · rintro acc cs e ⟨⟩
        exact .malformed
      · rintro entries cs e ⟨⟩
        exact .malformed
  | succ fuel ih =>
      constructor
      case value =>
        intro cs e h
        unfold value at h
        split at h
        · exact isTold_of_string (map_eq_error_iff.mp h)
        · split at h
          · cases h
          · exact ih.elements h
        · split at h
          · cases h
          · exact ih.members h
        · exact isTold_of_atom h
      case elements =>
        intro acc cs e h
        unfold elements at h
        split at h
        · rename_i e' hvalue
          cases h
          exact ih.value hvalue
        · split at h
          · exact ih.elements h
          · cases h
          · cases h
            exact .malformed
      case members =>
        intro entries cs e h
        unfold members at h
        split at h
        · split at h
          · rename_i e' hstring
            cases h
            exact isTold_of_string hstring
          · split at h
            · split at h
              · rename_i e' hvalue
                cases h
                exact ih.value hvalue
              · split at h
                · exact ih.members h
                · cases h
                · cases h
                  exact .malformed
            · cases h
              exact .malformed
        · cases h
          exact .malformed

/-- A text without a value is malformed, or has an integer that is too long or half of a pair. -/
theorem isTold_of_parse {s : String} (h : parse s = .error e) :
  IsTold e
  := by
  rw [parse] at h
  split at h
  · rename_i e' hvalue
    cases h
    exact (failsAsTold _).value hvalue
  · split at h
    · cases h
    · cases h
      exact .malformed

end Json

end MessagePlacement
