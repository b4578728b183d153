import Timetabling.Problem.Audit
import Timetabling.Problem.Validity
import Timetabling.Random.MersenneTwister
import Timetabling.Search.Exact
import Timetabling.Search.Genetic

/-!
# Solving

A problem with many sections is given to the genetic search first. The exact search follows where
that was not tried or found nothing, so only the exact search decides that there is no timetable.
Every timetable is audited before it is returned.
-/

namespace Timetabling

/-- What a solve without a result has tried. -/
structure Attempt where
  sections : Nat
  methods : List Method
  budgetExhausted : Bool
deriving DecidableEq, Repr

def Attempt.details (a : Attempt) : List (String × Value) :=
  [("total_sections", .int a.sections),
    ("solvers_attempted", .list (a.methods.map fun method => .text method.name)),
    ("budget_exhausted", .bool a.budgetExhausted)]

inductive SolveFault where
  | invalid (fault : ProblemFault)
  | infeasible (attempt : Attempt)
  | outOfBudget (attempt : Attempt)
  | unsound (method : Method) (violations : List Violation) (unassigned : List Section)
  | arithmetic (fault : ArithmeticFault)

namespace SolveFault

def failure : SolveFault → Except ArithmeticFault Failure
  | invalid fault => .ok fault.failure
  | infeasible attempt => .ok (.of .infeasible "" attempt.details)
  | outOfBudget attempt => .ok (.of .budgetExceeded "" attempt.details)
  | unsound method violations unassigned =>
    .ok (.of .scheduling "Solver produced an invalid schedule"
      [("algorithm", .text method.name),
        ("violations", .list (violations.map fun v => .text v.description)),
        ("unassigned_section_ids", .list (unassigned.map fun sec => .text sec.id))])
  | arithmetic fault => .error fault

end SolveFault

/-- When the two searches run out of time, for a solve with a time budget. -/
structure Deadlines where
  heuristic : Deadline
  exact : Deadline

namespace Deadlines

def never : Deadlines :=
  ⟨.never, .never⟩

def passed : Deadlines :=
  ⟨.passed, .passed⟩

/-- Deadlines by a clock that ticks once in a microsecond and stands still in between: a shorter
budget is used up at once, any other never. -/
def ofBudget (seconds : Binary64) : Deadlines :=
  if seconds.lt (.ofRatio false 1 1000000) then passed else never

def within (deadlines : Deadlines) (settings : Settings) : Deadlines :=
  if settings.timeBudget.isSome then deadlines else never

end Deadlines

namespace Settings

/-- The generator that the settings ask for. Where they give no seed the fallback is taken. -/
def generator (s : Settings) (fallback : Nat) : MersenneTwister :=
  .ofSeed (s.randomSeed.getD fallback)

def deadlines (s : Settings) : Deadlines :=
  match s.timeBudget with
  | none => .never
  | some seconds => .ofBudget seconds

end Settings

namespace Problem

/-- The timetable itself, if it places every section and the audit finds nothing. -/
def verify (p : Problem) (t : Timetable) : Except SolveFault Timetable :=
  let violations := p.violations t.assignments
  let unassigned := p.unassigned t.assignments
  if violations.isEmpty && unassigned.isEmpty then .ok t
  else .error (.unsound t.statistics.method violations unassigned)

/-- The exact search, after the given methods have found nothing. -/
def solveExactly (p : Problem) (settings : Settings) (deadline : Deadline) (tried : List Method) :
    Except SolveFault Timetable :=
  let solver : ExactSolver := { problem := p, budget := ⟨settings.maxSteps, deadline⟩ }
  match solver.solve with
  | (some t, _) => p.verify t
  | (none, after) =>
    let attempt : Attempt :=
      ⟨p.sections.length, tried ++ [.backtracking], after.progress.stopped⟩
    .error (if after.progress.stopped then .outOfBudget attempt else .infeasible attempt)

def solve {σ : Type} [RandomSource σ] (p : Problem) (settings : Settings) (source : σ)
    (deadlines : Deadlines) : Except SolveFault Timetable :=
  let limits := deadlines.within settings
  match p.fault? with
  | some fault => .error (.invalid fault)
  | none =>
    if settings.heuristicThreshold < p.sections.length then
      let solver : GeneticSolver σ :=
        { problem := p, settings := settings, source := source, deadline := limits.heuristic }
      match solver.solve.1 with
      | .error fault => .error (.arithmetic fault)
      | .ok (_, some t) => p.verify t
      | .ok (_, none) => p.solveExactly settings limits.exact [.genetic]
    else p.solveExactly settings limits.exact []

end Problem

end Timetabling
