/-!
# Attempts

An `Attempt` is an operation on a state that is changed in place and may fail: what it has
changed by then stays changed.  `outcome` is what an attempt gives and `stateAfter` the state
that it leaves behind, whether or not it fails.
-/

namespace MessagePlacement

/-- An operation on a state that may fail, without undoing what it has changed. -/
abbrev Attempt (ε σ α : Type) := EStateM ε σ α

namespace Attempt

variable {ε σ α : Type}

/-- What an attempt gives. -/
def outcome (x : Attempt ε σ α) (s : σ) : Except ε α :=
  match x.run s with
  | .ok a _ => .ok a
  | .error e _ => .error e

/-- The state that an attempt leaves behind. -/
def stateAfter (x : Attempt ε σ α) (s : σ) : σ :=
  match x.run s with
  | .ok _ t => t
  | .error _ t => t

end Attempt

end MessagePlacement
