import Timetabling.Validation.Fault

/-!
# Validated values

The result of reading a value: what it stands for, or all the faults in it. Independent parts of a
value are read side by side, and the faults of all of them are kept in order; a check that needs a
whole part is made only where that part has no fault.
-/

namespace Timetabling

inductive Validated (α : Type) where
  | valid (a : α)
  | invalid (faults : List Fault)
deriving DecidableEq, Repr

namespace Validated

variable {α β : Type}

def refuse (cause : Cause) : Validated α :=
  invalid [⟨[], cause⟩]

def map (f : α → β) : Validated α → Validated β
  | valid a => valid (f a)
  | invalid faults => invalid faults

/-- Two independent readings, with the faults of both. -/
def apply (f : Validated (α → β)) (x : Validated α) : Validated β :=
  match f, x with
  | valid f, valid a => valid (f a)
  | valid _, invalid faults => invalid faults
  | invalid faults, valid _ => invalid faults
  | invalid first, invalid second => invalid (first ++ second)

instance : Applicative Validated where
  pure := valid
  map := map
  seq f x := apply f (x ())

/-- A further check, made only where there is no fault so far. -/
def andThen (x : Validated α) (check : α → Validated β) : Validated β :=
  match x with
  | valid a => check a
  | invalid faults => invalid faults

def under (step : PathStep) : Validated α → Validated α
  | valid a => valid a
  | invalid faults => invalid (faults.map fun fault => { fault with path := step :: fault.path })

theorem map_eq_valid_iff {f : α → β} {x : Validated α} {b : β} :
    x.map f = valid b ↔ ∃ a, x = valid a ∧ f a = b := by
  cases x <;> simp [map]

theorem apply_eq_valid_iff {f : Validated (α → β)} {x : Validated α} {b : β} :
    f.apply x = valid b ↔ ∃ g a, f = valid g ∧ x = valid a ∧ g a = b := by
  cases f <;> cases x <;> simp [apply]

theorem andThen_eq_valid_iff {x : Validated α} {check : α → Validated β} {b : β} :
    x.andThen check = valid b ↔ ∃ a, x = valid a ∧ check a = valid b := by
  cases x <;> simp [andThen]

@[simp] theorem under_eq_valid_iff {step : PathStep} {x : Validated α} {a : α} :
    x.under step = valid a ↔ x = valid a := by
  cases x <;> simp [under]

end Validated

end Timetabling
