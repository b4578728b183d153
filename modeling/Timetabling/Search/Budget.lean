/-!
# Budgets

A search may be stopped by a bound on its steps or by a deadline. The clock is a parameter: a
deadline answers, for the n-th time it is asked, whether it has passed.
-/

namespace Timetabling

/-- Whether the time is up when the clock is read for the n-th time. -/
abbrev Deadline := Nat → Bool

namespace Deadline

def never : Deadline := fun _ => false

def passed : Deadline := fun _ => true

end Deadline

structure Budget where
  maxSteps : Nat
  deadline : Deadline := .never

end Timetabling
