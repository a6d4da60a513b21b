import Mathlib.Tactic.Common

namespace Except

variable {ε α β : Type}

-- What a computation returns was returned by each of its steps.
theorem bind_eq_ok {first : Except ε α} {rest : α → Except ε β} {value : β} :
    first >>= rest = .ok value ↔ ∃ between, first = .ok between ∧ rest between = .ok value := by
  cases first with
  | error error => simp [bind, Except.bind]
  | ok between => simp [bind, Except.bind]

theorem pure_eq_ok {result value : α} :
    (pure result : Except ε α) = .ok value ↔ result = value := by
  simp [pure, Except.pure]

theorem map_eq_ok {computation : Except ε α} {change : α → β} {value : β} :
    change <$> computation = .ok value ↔ ∃ result, computation = .ok result ∧ change result = value
    := by
  cases computation with
  | error error => simp [Functor.map, Except.map]
  | ok result => simp [Functor.map, Except.map]

end Except
