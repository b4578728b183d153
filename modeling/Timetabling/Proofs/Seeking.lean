import Timetabling.Proofs.DepthFirst
import Timetabling.Proofs.Occupancy
import Timetabling.Search.Frame

/-!
# Looking for the next candidate

What a frame does with its candidates: it skips those that do not fit, one step for each, and stops
at one that fits, at the end of its list or when the budget is used up. The recursive search skips
the same candidates.
-/

namespace Timetabling

/-- Whether a number of steps and of clock readings exceeds the budget: the steps are spent, or one
of the readings found the time to be up. -/
def Budget.UsedUp (budget : Budget) (steps readings : Nat) : Prop :=
  budget.maxSteps ≤ steps ∨ ∃ reading < readings, budget.deadline reading = true

namespace Progress

theorem checkBudget_false {budget : Budget} {p q : Progress}
    (checked : p.checkBudget budget = (false, q)) :
    p.steps < budget.maxSteps ∧ q = { p with readings := p.readings + 1 } := by
  unfold checkBudget at checked
  split at checked
  next => simp at checked
  next left =>
    simp only [Prod.mk.injEq] at checked
    exact ⟨by omega, checked.2.symm⟩

theorem checkBudget_true {budget : Budget} {p q : Progress}
    (checked : p.checkBudget budget = (true, q)) :
    ∃ readings, q = { p with readings := readings } ∧ budget.UsedUp p.steps readings := by
  unfold checkBudget at checked
  split at checked
  next spent =>
    simp only [Prod.mk.injEq, true_and] at checked
    exact ⟨p.readings, checked.symm, .inl spent⟩
  next =>
    simp only [Prod.mk.injEq] at checked
    exact ⟨p.readings + 1, checked.2.symm, .inr ⟨p.readings, by omega, checked.1⟩⟩

/-- How looking for a session's next candidate can end. Every candidate tried costs one step, and
while candidates are skipped the budget is not yet used up. -/
inductive Sought (budget : Budget) (session : Session) (p : Progress) :
    List Placement → Option Placement × List Placement × Progress → Prop where
  | fitting (skipped rest : List Placement) (c : Placement) (readings : Nat)
      (blocked : ∀ d ∈ skipped, fits session d p.reservations = false)
      (fitting : fits session c p.reservations = true)
      (within : p.steps < budget.maxSteps → p.steps + skipped.length < budget.maxSteps) :
      Sought budget session p (skipped ++ c :: rest)
        (some c, rest, { p with steps := p.steps + (skipped.length + 1), readings := readings })
  | exhausted (skipped : List Placement) (readings : Nat)
      (blocked : ∀ d ∈ skipped, fits session d p.reservations = false)
      (within : p.steps < budget.maxSteps → p.steps + skipped.length < budget.maxSteps) :
      Sought budget session p skipped
        (none, [], { p with steps := p.steps + skipped.length, readings := readings })
  | stopped (skipped rest : List Placement) (readings : Nat)
      (blocked : ∀ d ∈ skipped, fits session d p.reservations = false)
      (within : p.steps < budget.maxSteps → p.steps + skipped.length ≤ budget.maxSteps)
      (usedUp : budget.UsedUp (p.steps + skipped.length) readings) :
      Sought budget session p (skipped ++ rest)
        (none, rest,
          { p with steps := p.steps + skipped.length, readings := readings, stopped := true })

theorem sought_seek (budget : Budget) (session : Session) (p : Progress) (cs : List Placement) :
    Sought budget session p cs (p.seek budget session cs) := by
  induction cs generalizing p with
  | nil => exact .exhausted [] p.readings (by simp) (by simp)
  | cons c rest ih =>
    unfold seek
    split
    next fitting => exact .fitting [] rest c p.readings (by simp) fitting (by simp)
    next blocked =>
      have blocked : fits session c p.reservations = false := by simpa using blocked
      split
      next q checked =>
        obtain ⟨readings, rfl, usedUp⟩ := checkBudget_true checked
        exact .stopped [c] rest readings (by simpa using blocked) (fun within => within) usedUp
      next q checked =>
        obtain ⟨within, rfl⟩ := checkBudget_false checked
        -- The rest is looked through with one more step, so a step count moves into the length.
        have shift : ∀ skipped : List Placement,
            p.steps + 1 + skipped.length = p.steps + (c :: skipped).length := by
          intro skipped
          simp only [List.length_cons]
          omega
        generalize result : seek budget session _ rest = outcome
        have later := ih { p.count with readings := p.count.readings + 1 }
        rw [result] at later
        cases later with
        | fitting skipped rest d readings skippedBlocked fitting skippedWithin =>
          have both : Sought budget session p (c :: skipped ++ d :: rest) _ :=
            .fitting (c :: skipped) rest d readings
              (List.forall_mem_cons.mpr ⟨blocked, skippedBlocked⟩) fitting
              (fun _ => shift skipped ▸ skippedWithin within)
          rw [← Nat.add_assoc, ← shift] at both
          exact both
        | exhausted skipped readings skippedBlocked skippedWithin =>
          have both : Sought budget session p (c :: rest) _ :=
            .exhausted (c :: rest) readings
              (List.forall_mem_cons.mpr ⟨blocked, skippedBlocked⟩)
              (fun _ => shift rest ▸ skippedWithin within)
          rw [← shift] at both
          exact both
        | stopped skipped rest readings skippedBlocked skippedWithin usedUp =>
          have both : Sought budget session p (c :: skipped ++ rest) _ :=
            .stopped (c :: skipped) rest readings
              (List.forall_mem_cons.mpr ⟨blocked, skippedBlocked⟩)
              (fun _ => shift skipped ▸ skippedWithin within) (shift skipped ▸ usedUp)
          rw [← shift] at both
          exact both

end Progress

section Skipping

variable {descend : List Lesson → Finding} {placed : List Lesson} {session : Session}
  {skipped : List Placement}

/-- The recursive search passes over candidates that clash, one step for each. -/
theorem tryEach_append (rest : List Placement)
    (clashing : ∀ d ∈ skipped, ¬ ∀ other ∈ placed, ¬ (⟨session, d⟩ : Lesson).Clash other) :
    tryEach descend placed session (skipped ++ rest) =
      (tryEach descend placed session rest).after skipped.length := by
  induction skipped with
  | nil => simp
  | cons d skipped ih =>
    obtain ⟨first, others⟩ := List.forall_mem_cons.mp clashing
    rw [List.cons_append, tryEach, if_neg first, ih others, Finding.after_after, List.length_cons,
      Nat.add_comm]

variable {r : Reservations} {problem : Problem}

theorem clashing_of_blocked (books : r.Books placed)
    (offered : ∀ d ∈ skipped, problem.Offers ⟨session, d⟩)
    (blocked : ∀ d ∈ skipped, fits session d r = false) :
    ∀ d ∈ skipped, ¬ ∀ other ∈ placed, ¬ (⟨session, d⟩ : Lesson).Clash other := by
  intro d membership separate
  have fitting := books.fits_iff.mpr ⟨separate, (offered d membership).capacity_le⟩
  rw [blocked d membership] at fitting
  exact Bool.false_ne_true fitting

/-- Up to the first candidate that fits, the recursive search does what the frame does. -/
theorem tryEach_fitting {rest : List Placement} {c : Placement} (books : r.Books placed)
    (offered : ∀ d ∈ skipped, problem.Offers ⟨session, d⟩)
    (blocked : ∀ d ∈ skipped, fits session d r = false) (fitting : fits session c r = true) :
    tryEach descend placed session (skipped ++ c :: rest) =
      ((descend (⟨session, c⟩ :: placed)).orElse (tryEach descend placed session rest)).after
        (skipped.length + 1) := by
  rw [tryEach_append _ (clashing_of_blocked books offered blocked), tryEach,
    if_pos (books.fits_iff.mp fitting).1, Finding.after_after]

end Skipping

end Timetabling
