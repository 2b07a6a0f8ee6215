import Mathlib.Tactic.Common

/-!
# Outcomes in sequence

A sequence of steps succeeds if every one of them does.
-/

namespace SlotClient

variable {Fault First Second : Type}

@[simp]
theorem ok_bind (first : First) (next : First → Except Fault Second) :
    (Except.ok first >>= next) = next first := rfl

@[simp]
theorem error_bind (fault : Fault) (next : First → Except Fault Second) :
    (Except.error fault >>= next) = .error fault := rfl

theorem bind_eq_ok_iff {outcome : Except Fault First} {next : First → Except Fault Second}
    {result : Second} :
    (outcome >>= next) = .ok result ↔ ∃ first, outcome = .ok first ∧ next first = .ok result := by
  cases outcome with
  | error fault => simp
  | ok first => simp

theorem map_eq_ok_iff {outcome : Except Fault First} {change : First → Second} {result : Second} :
    outcome.map change = .ok result ↔ ∃ first, outcome = .ok first ∧ change first = result := by
  cases outcome with
  | error fault => simp [Except.map]
  | ok first => simp [Except.map]

end SlotClient
