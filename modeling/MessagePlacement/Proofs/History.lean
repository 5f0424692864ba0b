import Mathlib.Data.List.Basic
import Mathlib.Data.List.Induction
import MessagePlacement.Attempt

/-!
# Histories of attempts

Calls are made one after another on a state, the next one also when one has failed.
`stateAfterAll` is the state that they leave behind, and `history` lists them with what they
gave.  What holds of the empty history and is kept by every call holds of all histories.

`Since p q history` says that `p` has happened in a history and `q` has not happened since.
-/

namespace MessagePlacement

namespace Attempt

variable {ε σ α ι : Type}

/-- The state after calls that are made one after another. -/
def stateAfterAll (f : ι → Attempt ε σ α) (s : σ) (calls : List ι) : σ :=
  calls.foldl (fun s c => (f c).stateAfter s) s

/-- Calls that are made one after another with what they give. -/
def history (f : ι → Attempt ε σ α) : σ → List ι → List (ι × Except ε α)
  | _, [] => []
  | s, c :: calls => (c, (f c).outcome s) :: history f ((f c).stateAfter s) calls

variable (f : ι → Attempt ε σ α)

theorem stateAfterAll_concat (s : σ) (calls : List ι) (c : ι) :
  stateAfterAll f s (calls ++ [c]) = (f c).stateAfter (stateAfterAll f s calls)
  := List.foldl_concat ..

/-- The last call of a history is made on the state that the others have left behind. -/
theorem history_concat (s : σ) (calls : List ι) (c : ι) :
  history f s (calls ++ [c])
    = history f s calls ++ [(c, (f c).outcome (stateAfterAll f s calls))]
  := by
  induction calls generalizing s with
  | nil => rfl
  | cons b calls ih =>
      rw [List.cons_append, history, ih, history, List.cons_append]
      rfl

/-- What holds at the start and is kept by every call holds after all of them. -/
theorem history_induction {f : ι → Attempt ε σ α} {s : σ}
    {P : List (ι × Except ε α) → σ → Prop} (start : P [] s)
    (step : ∀ past t c, P past t → P (past ++ [(c, (f c).outcome t)]) ((f c).stateAfter t))
    (calls : List ι) :
  P (history f s calls) (stateAfterAll f s calls)
  := by
  induction calls using List.reverseRecOn with
  | nil => apply start
  | append_singleton calls c ih =>
      rw [history_concat, stateAfterAll_concat]
      apply step _ _ c ih

theorem outcome_of_ok {x : Attempt ε σ α} {s t : σ} {a : α} (h : x.run s = .ok a t) :
  x.outcome s = .ok a ∧ x.stateAfter s = t
  := by
  rw [outcome, stateAfter, h]
  exact ⟨rfl, rfl⟩

theorem outcome_of_error {x : Attempt ε σ α} {s t : σ} {e : ε} (h : x.run s = .error e t) :
  x.outcome s = .error e ∧ x.stateAfter s = t
  := by
  rw [outcome, stateAfter, h]
  exact ⟨rfl, rfl⟩

end Attempt

/-! ### What has happened since -/

variable {β : Type}

/-- `Since p q history`: some member of the history satisfies `p`, and no later one `q`. -/
def Since (p q : β → Prop) (history : List β) : Prop :=
  ∃ before b after, history = before ++ b :: after ∧ p b ∧ ∀ c ∈ after, ¬ q c

theorem not_since_nil (p q : β → Prop) :
  ¬ Since p q []
  := by
  rintro ⟨before, b, after, h, -⟩
  apply List.append_ne_nil_of_right_ne_nil before (List.cons_ne_nil b after) h.symm

/-- Whether `p` has happened and `q` has not since changes with the last member only. -/
theorem since_concat_iff {p q : β → Prop} {history : List β} {b : β} :
  Since p q (history ++ [b]) ↔ p b ∨ Since p q history ∧ ¬ q b
  := by
  constructor
  · rintro ⟨before, c, after, h, hp, hq⟩
    rcases List.eq_nil_or_concat' after with rfl | ⟨after, d, rfl⟩
    · left
      obtain ⟨-, heq⟩ := List.append_inj' h rfl
      rw [List.singleton_inj.mp heq]
      apply hp
    · right
      rw [← List.cons_append, ← List.append_assoc] at h
      obtain ⟨rfl, heq⟩ := List.append_inj' h rfl
      obtain rfl := List.singleton_inj.mp heq
      constructor
      · refine ⟨before, c, after, rfl, hp, ?_⟩
        intro e he
        apply hq e (List.mem_append_left _ he)
      · apply hq b (List.mem_append_right _ (List.mem_singleton_self b))
  · rintro (hp | ⟨⟨before, c, after, rfl, hp, hq⟩, hqb⟩)
    · use history, b, [], rfl, hp
      intro c hc
      cases hc
    · refine ⟨before, c, after ++ [b], ?_, hp, ?_⟩
      · rw [List.append_assoc, List.cons_append]
      · intro d hd
        rcases List.mem_append.mp hd with hd | hd
        · apply hq d hd
        · rw [List.mem_singleton.mp hd]
          apply hqb

end MessagePlacement
