import Timetabling.Proofs.Position

/-!
# The exact search as a whole

What a fresh exact solver answers. It decides whether the problem has a schedule as long as its
budget does not stop it; it makes the choices of the recursive search and counts the same steps; and
a bound on the steps does nothing but cut that search short, at a boundary that differs by one
between success and failure.
-/

namespace Timetabling

namespace Finding

def verdict (f : Finding) : Verdict :=
  if f.lessons.isSome then .complete else .exhausted

def assignments (f : Finding) : List Assignment :=
  (f.lessons.getD []).reverse.map Lesson.assignment

end Finding

/-- Without a deadline only spent steps use up a budget. -/
theorem Budget.UsedUp.of_never {maxSteps steps readings : Nat}
    (usedUp : Budget.UsedUp ⟨maxSteps, .never⟩ steps readings) : maxSteps ≤ steps := by
  rcases usedUp with spent | ⟨reading, -, passed⟩
  · exact spent
  · cases passed

namespace ExactSolver

/-- A solver that has not searched yet. -/
def fresh (p : Problem) (budget : Budget) : ExactSolver :=
  { problem := p, budget := budget }

open Position (Concludes)

/-- The search of a fresh solver changes its progress only, and ends as the recursive search does
unless its budget stops it. -/
theorem exists_search (p : Problem) (budget : Budget) :
    ∃ verdict progress,
      (fresh p budget).search = (verdict, { fresh p budget with progress := progress }) ∧
        Concludes budget p.exploration 0 verdict progress := by
  have agenda : (fresh p budget).order = p.agenda := rfl
  unfold search Problem.exploration
  rw [agenda]
  cases p.agenda with
  | nil => exact ⟨_, _, rfl, .complete _ [] rfl Progress.holds_empty rfl (Nat.zero_le _) rfl⟩
  | cons first later =>
    refine ⟨_, _, rfl, ?_⟩
    rw [← Position.prospect_initial]
    exact Position.concludes_run (Position.coherent_initial p first later)
      ⟨Nat.zero_le _, fun empty => absurd empty (List.cons_ne_nil _ _)⟩

/-- What a fresh solver gives is what the recursive search has found, and where it gives nothing
there is nothing to be found or its budget is used up. -/
theorem exists_solve (p : Problem) (budget : Budget) :
    match (fresh p budget).solve with
    | (some timetable, _) => ∃ lessons, p.exploration.lessons = some lessons ∧
        timetable.assignments = lessons.reverse.map Lesson.assignment ∧
        timetable.statistics.usage = averageUsage p.classrooms timetable.assignments
    | (none, after) =>
        (after.progress.stopped = false ∧ p.exploration.lessons = none) ∨
          (after.progress.stopped = true ∧
            budget.UsedUp after.progress.steps after.progress.readings) := by
  obtain ⟨verdict, progress, searched, concludes⟩ := exists_search p budget
  unfold solve
  rw [searched]
  cases concludes with
  | complete _ lessons found holds =>
    refine ⟨lessons, found, ?_, rfl⟩
    simp [holds.placed]
  | exhausted _ nothing _ running => exact .inl ⟨running, nothing⟩
  | outOfBudget _ stopped usedUp => exact .inr ⟨stopped, usedUp⟩

/-- The solver gives a complete schedule that places the sections by priority, or has none because
there is none, unless its budget has stopped the search. -/
theorem solve_decides (p : Problem) (budget : Budget) :
    match (fresh p budget).solve with
    | (some timetable, _) => ∃ lessons, p.IsSchedule lessons ∧
        lessons.map Lesson.session = p.agenda ∧
        timetable.assignments = lessons.map Lesson.assignment
    | (none, after) => after.progress.stopped = false → ∀ lessons, ¬ p.IsSchedule lessons := by
  have solved := exists_solve p budget
  split at solved
  next timetable after answered =>
    obtain ⟨lessons, found, assignments, -⟩ := solved
    obtain ⟨schedule, sessions⟩ := p.exploration_sound found
    exact ⟨lessons.reverse, schedule.perm (List.reverse_perm lessons).symm, sessions, assignments⟩
  next after answered =>
    intro running
    rcases solved with ⟨-, nothing⟩ | ⟨stopped, -⟩
    · exact p.exploration_complete nothing
    · exact absurd (stopped.symm.trans running) (by decide)

/-- The recursive search and the solver agree: a bound on the steps that the recursive search does
not reach does not stop the solver, and a search that is not stopped comes to the same verdict with
the same assignments in the same number of steps. -/
theorem search_follows_recursion (p : Problem) (maxSteps : Nat) :
    let ended := (fresh p ⟨maxSteps, .never⟩).search
    (p.exploration.steps < maxSteps → ended.2.progress.stopped = false) ∧
      (ended.2.progress.stopped = false →
        ended.1 = p.exploration.verdict ∧
          ended.2.progress.placed.reverse = p.exploration.assignments ∧
          ended.2.progress.steps = p.exploration.steps) := by
  obtain ⟨verdict, progress, searched, concludes⟩ := exists_search p ⟨maxSteps, .never⟩
  rw [searched]
  simp only
  cases concludes with
  | complete _ lessons found holds running _ steps =>
    refine ⟨fun _ => running, fun _ => ⟨?_, ?_, ?_⟩⟩
    · simp [Finding.verdict, found]
    · simp [Finding.assignments, found, holds.placed]
    · simpa using steps
  | exhausted _ nothing holds running _ steps =>
    refine ⟨fun _ => running, fun _ => ⟨?_, ?_, ?_⟩⟩
    · simp [Finding.verdict, nothing]
    · simp [Finding.assignments, nothing, holds.placed]
    · simpa using steps
  | outOfBudget _ stopped usedUp _ steps =>
    have reached := usedUp.of_never
    refine ⟨fun spare => ?_, fun running => absurd (stopped.symm.trans running) (by decide)⟩
    omega

/-- What a fresh solver without a deadline answers: its timetable, its steps, and whether its budget
has stopped it. -/
structure Report where
  timetable : Option Timetable
  steps : Nat
  stopped : Bool
deriving DecidableEq

def report (p : Problem) (maxSteps : Nat) : Report :=
  let (timetable, after) := (fresh p ⟨maxSteps, .never⟩).solve
  ⟨timetable, after.progress.steps, after.progress.stopped⟩

/-- The report of a search that is not stopped. -/
def unlimited (p : Problem) : Report where
  timetable := p.exploration.lessons.map fun _ =>
    ⟨p.exploration.assignments,
      { p.statistics p.exploration.assignments .backtracking with
        steps := some p.exploration.steps }⟩
  steps := p.exploration.steps
  stopped := false

/-- Whether a bound on the steps lets a search come to its end: the last step of a success may use
up the budget, that of a failure may not. -/
def Report.Fits (r : Report) (maxSteps : Nat) : Prop :=
  if r.timetable.isSome then r.steps ≤ maxSteps else r.steps < maxSteps

instance (r : Report) (maxSteps : Nat) : Decidable (r.Fits maxSteps) :=
  inferInstanceAs (Decidable (if r.timetable.isSome then r.steps ≤ maxSteps
    else r.steps < maxSteps))

theorem Report.Fits.le {r : Report} {maxSteps : Nat} (fits : r.Fits maxSteps) :
    r.steps ≤ maxSteps := by
  unfold Fits at fits
  split at fits <;> omega

theorem Report.Fits.mono {r : Report} {maxSteps more : Nat} (fits : r.Fits maxSteps)
    (grown : maxSteps ≤ more) : r.Fits more := by
  unfold Fits at fits ⊢
  split at fits
  next found => rw [if_pos found]; omega
  next nothing => rw [if_neg nothing]; omega

/-- A bound on the steps leaves a search as it is, or stops it exactly at the bound. -/
theorem report_eq (p : Problem) (maxSteps : Nat) :
    report p maxSteps =
      if (unlimited p).Fits maxSteps then unlimited p else ⟨none, maxSteps, true⟩ := by
  obtain ⟨verdict, progress, searched, concludes⟩ := exists_search p ⟨maxSteps, .never⟩
  unfold report solve
  rw [searched]
  cases concludes with
  | complete _ lessons found holds running within steps =>
    have steps : progress.steps = p.exploration.steps := steps.trans (Nat.zero_add _)
    have fits : (unlimited p).Fits maxSteps := by
      simpa [unlimited, Report.Fits, found, ← steps] using within
    have placed : progress.placed.reverse = p.exploration.assignments := by
      simp [Finding.assignments, found, holds.placed]
    rw [if_pos fits]
    simp [unlimited, found, fresh, placed, steps, running]
  | exhausted _ nothing holds running within steps =>
    have steps : progress.steps = p.exploration.steps := steps.trans (Nat.zero_add _)
    have fits : (unlimited p).Fits maxSteps := by
      simpa [unlimited, Report.Fits, nothing, ← steps] using within
    rw [if_pos fits]
    simp [unlimited, nothing, steps, running]
  | outOfBudget _ stopped usedUp within steps more =>
    have reached : progress.steps = maxSteps := Nat.le_antisymm within usedUp.of_never
    have exceeds : ¬ (unlimited p).Fits maxSteps := by
      unfold Report.Fits unlimited
      split
      next found =>
        have more := more (by simpa using found)
        simp only
        omega
      next =>
        simp only
        omega
    rw [if_neg exceeds]
    simp [reached, stopped]

/-- A bound on the steps only cuts a search short. There is one report that every bound above its
steps leads to; a bound that it fits leads to the same one, and any other bound is used up exactly,
without a timetable. So the steps stay within the bound, and a report that was not stopped is the
report for every larger bound. -/
theorem budget_truncates (p : Problem) :
    ∃ whole : Report, whole.stopped = false ∧
      (∀ maxSteps, whole.steps < maxSteps → report p maxSteps = whole) ∧
      ∀ maxSteps,
        (report p maxSteps = if whole.Fits maxSteps then whole else ⟨none, maxSteps, true⟩) ∧
          (report p maxSteps).steps ≤ maxSteps ∧
          ∀ more, maxSteps ≤ more → (report p maxSteps).stopped = false →
            report p more = report p maxSteps := by
  refine ⟨unlimited p, rfl, ?_, fun maxSteps => ⟨report_eq p maxSteps, ?_, ?_⟩⟩
  · intro maxSteps spare
    rw [report_eq, if_pos]
    unfold Report.Fits
    split <;> omega
  · rw [report_eq]
    split
    next fits => exact fits.le
    next => exact Nat.le_refl _
  · intro more grown running
    rw [report_eq] at running
    split at running
    next fits => rw [report_eq, report_eq, if_pos fits, if_pos (fits.mono grown)]
    next => cases running

end ExactSolver

end Timetabling
