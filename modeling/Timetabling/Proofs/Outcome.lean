import Timetabling.Proofs.Auditing
import Timetabling.Proofs.Evolution
import Timetabling.Proofs.ExactSearch
import Timetabling.Solve

/-!
# The outcome of a solve

An accepted problem is solved in one of three ways: with a timetable of a schedule, with the proof
that there is none, or because the budget of the exact search ran out. The audit that stands between
the searches and the answer never rejects a timetable, and no quotient is without a value. A
timetable has statistics, whose numbers are finite, and a failure says how many sections there were,
which searches have been tried and whether a budget ran out.
-/

namespace Timetabling

/-! ### The usage of the classrooms -/

theorem length_classroomUses_le (classrooms : List Classroom) (assignments : List Assignment) :
    (classroomUses classrooms assignments).length ≤ classrooms.length * assignments.length := by
  induction classrooms with
  | nil => exact Nat.zero_le _
  | cons room rest ih =>
    have first : (assignments.filter fun a => a.classroomId == room.id).length ≤
        assignments.length := List.length_filter_le _ _
    have uses : (classroomUses (room :: rest) assignments).length =
        (assignments.filter fun a => a.classroomId == room.id).length +
          (classroomUses rest assignments).length := List.length_append
    rw [uses, List.length_cons, Nat.succ_mul]
    omega

theorem isFinite_averageUsage {classrooms : List Classroom} {assignments : List Assignment}
    (bounded : assignments.length ≤ pow2 1022) :
    (averageUsage classrooms assignments).isFinite = true := by
  unfold averageUsage
  split
  next => rfl
  next =>
    have uses := length_classroomUses_le classrooms assignments
    apply Binary64.isFinite_ofRatio _ (Nat.le_refl 1022)
    exact uses.trans (Nat.mul_le_mul_left _ bounded)

/-! ### The range of a fitness -/

/-- What a gene earns is between the penalty for none and a reward with both bonuses. -/
theorem Locus.score_bounds {l : Locus} {gene : Option Placement} {r : Reservations}
    {e : Evaluation} (scored : l.score gene r = .ok e) : -50 ≤ e.fitness ∧ e.fitness ≤ 130 := by
  cases gene with
  | none =>
    cases scored
    decide
  | some c =>
    cases divided : quotient l.session.capacity c.classroom.capacity with
    | error fault => simp [score, divided, bind, Except.bind] at scored
    | ok ratio =>
      simp only [score, divided, bind, Except.bind, pure, Except.pure, Except.ok.injEq] at scored
      rw [← scored]
      simp only [Evaluation.assignedReward, Evaluation.violationPenalty,
        Evaluation.preferenceBonus, Evaluation.fillBonus]
      constructor <;> (split <;> split <;> split <;> decide)

theorem Genome.evaluateFrom_bounds {loci : List Locus} {genome : Genome} {r : Reservations}
    {e : Evaluation} (evaluated : evaluateFrom loci genome r = .ok e) :
    -50 * (loci.length : Int) ≤ e.fitness ∧ e.fitness ≤ 130 * (loci.length : Int) := by
  induction loci generalizing genome r e with
  | nil =>
    cases evaluated
    decide
  | cons l loci ih =>
    cases genome with
    | nil =>
      cases evaluated
      simp only [Evaluation.zero, List.length_cons]
      omega
    | cons gene genome =>
      obtain ⟨head, tail, scored, replayed, rfl⟩ := evaluateFrom_cons.mp evaluated
      have first := Locus.score_bounds scored
      have rest := ih replayed
      simp only [Evaluation.add, List.length_cons]
      omega

theorem Binary64.isFinite_ofInt {i : Int} (small : i.natAbs < overflow) :
    (ofInt i).isFinite = true := by
  apply (isFinite_ofRatio_iff Nat.one_pos).mpr
  rw [Nat.one_mul]
  exact small

/-! ### Timetables -/

namespace Problem

variable {p : Problem}

theorem IsSchedule.verify_eq (accepted : p.Accepted)
    (once : ∀ sectionId, (p.studentsOf sectionId).Nodup) {lessons : List Lesson}
    (schedule : p.IsSchedule lessons) {t : Timetable}
    (assignments : t.assignments = lessons.map Lesson.assignment) : p.verify t = .ok t := by
  simp [verify, assignments, schedule.violations_eq_nil accepted once, schedule.unassigned_eq_nil]

/-- A timetable of a schedule, with the usage of the classrooms, the search that has found it, and
the fitness of an individual where that was the genetic one. -/
structure IsTimetable (p : Problem) (t : Timetable) : Prop where
  schedule : ∃ lessons, p.IsSchedule lessons ∧ t.assignments = lessons.map Lesson.assignment
  usage : t.statistics.usage = averageUsage p.classrooms t.assignments
  method : t.statistics.method = .genetic ∨ t.statistics.method = .backtracking
  fitness : ∀ x ∈ t.statistics.fitness, ∃ earned : Int, x = .ofInt earned ∧
    -50 * (p.sections.length : Int) ≤ earned ∧ earned ≤ 130 * (p.sections.length : Int)

theorem IsTimetable.length_eq {t : Timetable} (sound : p.IsTimetable t) :
    t.assignments.length = p.sections.length := by
  obtain ⟨lessons, schedule, assignments⟩ := sound.schedule
  rw [assignments, List.length_map, schedule.length_eq]

theorem IsTimetable.verify_eq {t : Timetable} (sound : p.IsTimetable t) (accepted : p.Accepted)
    (once : ∀ sectionId, (p.studentsOf sectionId).Nodup) : p.verify t = .ok t := by
  obtain ⟨lessons, schedule, assignments⟩ := sound.schedule
  exact schedule.verify_eq accepted once assignments

theorem IsTimetable.isFinite_usage {t : Timetable} (sound : p.IsTimetable t)
    (bounded : p.sections.length ≤ pow2 1022) : t.statistics.usage.isFinite = true := by
  rw [sound.usage]
  apply isFinite_averageUsage
  rw [sound.length_eq]
  exact bounded

theorem IsTimetable.isFinite_fitness {t : Timetable} (sound : p.IsTimetable t)
    (bounded : 130 * p.sections.length < Binary64.overflow) :
    ∀ x ∈ t.statistics.fitness, x.isFinite = true := by
  intro x reported
  obtain ⟨earned, rfl, atLeast, atMost⟩ := sound.fitness x reported
  apply Binary64.isFinite_ofInt
  omega

end Problem

theorem GeneticSolver.Serves.isTimetable {σ : Type} {p : Problem} {settings : Settings}
    {after : GeneticSolver σ} (serves : after.Serves p settings) {x : Individual}
    (sound : x.Sound p) (feasible : x.feasible = true) : p.IsTimetable (after.timetable x) where
  schedule := by
    refine ⟨_, sound.isSchedule feasible, ?_⟩
    rw [← Genome.decode_eq, ← serves.problem_eq]
    rfl
  usage := by
    rw [← serves.problem_eq]
    rfl
  method := .inl rfl
  fitness := by
    intro y reported
    obtain rfl := Option.some.inj reported
    have bounds := Genome.evaluateFrom_bounds sound.evaluated
    rw [Problem.loci, List.length_map] at bounds
    exact ⟨x.fitness, rfl, bounds⟩

/-- A genetic solver for an accepted problem gives a timetable of a schedule or nothing. -/
theorem GeneticSolver.Serves.solve {σ : Type} [RandomSource σ] {p : Problem} {settings : Settings}
    {solver : GeneticSolver σ} (accepted : p.Accepted) (valid : settings.Valid)
    (serves : solver.Serves p settings) :
    ∃ evolution found, solver.solve.1 = .ok (evolution, found) ∧ ∀ t ∈ found, p.IsTimetable t := by
  obtain ⟨evolution, after, evolved, kept, sound⟩ := serves.evolve accepted valid
  refine ⟨evolution, evolution.best.map after.timetable, ?_, ?_⟩
  · simp only [GeneticSolver.solve, evolved]
  · intro t found
    obtain ⟨x, best, rfl⟩ := Option.map_eq_some_iff.mp found
    obtain ⟨right, feasible⟩ := sound.best x best
    exact kept.isTimetable right feasible

theorem ExactSolver.statistics_of_solve {solver after : ExactSolver} {t : Timetable}
    (solved : solver.solve = (some t, after)) :
    t.statistics.method = .backtracking ∧ t.statistics.fitness = none := by
  unfold solve at solved
  split at solved
  next =>
    cases solved
    exact ⟨rfl, rfl⟩
  next => cases solved

theorem ExactSolver.isTimetable {p : Problem} {budget : Budget} {t : Timetable} {after : ExactSolver}
    (solved : (fresh p budget).solve = (some t, after)) : p.IsTimetable t := by
  have given := exists_solve p budget
  rw [solved] at given
  obtain ⟨lessons, found, assignments, usage⟩ := given
  have schedule := (p.exploration_sound found).1
  obtain ⟨method, unrated⟩ := statistics_of_solve solved
  refine ⟨⟨_, schedule.perm (List.reverse_perm lessons).symm, assignments⟩, usage, .inr method, ?_⟩
  rw [unrated]
  nofun

/-! ### Outcomes -/

namespace Problem

variable {p : Problem}

/-- The exact search with a budget ends without a timetable because the budget is used up. -/
def Exhausts (p : Problem) (budget : Budget) : Prop :=
  ∃ after, (ExactSolver.fresh p budget).solve = (none, after) ∧
    budget.UsedUp after.progress.steps after.progress.readings

/-- What a solve comes to when these methods have been tried one after another, the last of them
with the given budget. -/
inductive Concludes (p : Problem) (budget : Budget) (tried : List Method) :
    Except SolveFault Timetable → Prop where
  | scheduled (t : Timetable) (sound : p.IsTimetable t) : Concludes p budget tried (.ok t)
  | infeasible (nothing : ∀ lessons, ¬ p.IsSchedule lessons) :
      Concludes p budget tried (.error (.infeasible ⟨p.sections.length, tried, false⟩))
  | outOfBudget (exhausts : p.Exhausts budget) :
      Concludes p budget tried (.error (.outOfBudget ⟨p.sections.length, tried, true⟩))

def methods (p : Problem) (settings : Settings) : List Method :=
  if settings.heuristicThreshold < p.sections.length then [.genetic, .backtracking]
  else [.backtracking]

theorem concludes_solveExactly (accepted : p.Accepted)
    (once : ∀ sectionId, (p.studentsOf sectionId).Nodup) (settings : Settings) (deadline : Deadline)
    (tried : List Method) :
    p.Concludes ⟨settings.maxSteps, deadline⟩ (tried ++ [.backtracking])
      (p.solveExactly settings deadline tried) := by
  have asked : ({ problem := p, budget := ⟨settings.maxSteps, deadline⟩ } : ExactSolver) =
      ExactSolver.fresh p ⟨settings.maxSteps, deadline⟩ := rfl
  have solved := ExactSolver.exists_solve p ⟨settings.maxSteps, deadline⟩
  unfold solveExactly
  simp only [asked]
  cases ended : (ExactSolver.fresh p ⟨settings.maxSteps, deadline⟩).solve with
  | mk found after =>
    cases found with
    | some t =>
      have right := ExactSolver.isTimetable ended
      simp only [right.verify_eq accepted once]
      exact .scheduled t right
    | none =>
      rw [ended] at solved
      rcases solved with ⟨running, nothing⟩ | ⟨stopped, usedUp⟩
      · simp only [running, Bool.false_eq_true, if_false]
        exact .infeasible (p.exploration_complete nothing)
      · simp only [stopped, if_true]
        exact .outOfBudget ⟨after, ended, usedUp⟩

theorem concludes_solve {σ : Type} [RandomSource σ] {settings : Settings} (accepted : p.Accepted)
    (once : ∀ sectionId, (p.studentsOf sectionId).Nodup) (valid : settings.Valid) (source : σ)
    (deadlines : Deadlines) :
    p.Concludes ⟨settings.maxSteps, (deadlines.within settings).exact⟩ (p.methods settings)
      (p.solve settings source deadlines) := by
  unfold solve methods
  simp only [fault?_eq_none_iff.mpr accepted]
  split
  next many =>
    have serves : GeneticSolver.Serves p settings
        { problem := p, settings := settings, source := source,
          deadline := (deadlines.within settings).heuristic } :=
      ⟨rfl, rfl, EvaluationCache.sound_empty⟩
    obtain ⟨evolution, found, solved, sound⟩ := serves.solve accepted valid
    rw [solved]
    cases found with
    | none => exact concludes_solveExactly accepted once settings _ [.genetic]
    | some t =>
      have right := sound t rfl
      simp only [right.verify_eq accepted once]
      exact .scheduled t right
  next few => exact concludes_solveExactly accepted once settings _ []

/-- Only accepted problems are solved, and a timetable is one of a schedule. -/
theorem exists_schedule_of_solve {σ : Type} [RandomSource σ] {settings : Settings} {source : σ}
    {deadlines : Deadlines} {t : Timetable} (once : ∀ sectionId, (p.studentsOf sectionId).Nodup)
    (valid : settings.Valid) (solved : p.solve settings source deadlines = .ok t) :
    p.Accepted ∧
      ∃ lessons, p.IsSchedule lessons ∧ t.assignments = lessons.map Lesson.assignment := by
  have accepted : p.Accepted := by
    apply fault?_eq_none_iff.mp
    unfold solve at solved
    split at solved
    next => cases solved
    next faultless => exact faultless
  refine ⟨accepted, ?_⟩
  have concludes := concludes_solve accepted once valid source deadlines
  rw [solved] at concludes
  cases concludes with
  | scheduled _ sound => exact sound.schedule

/-- What a solve of an accepted problem can come to, where the exact search has the given budget. -/
inductive Settled (p : Problem) (budget : Budget) : Except SolveFault Timetable → Prop where
  | scheduled (t : Timetable) (lessons : List Lesson) (schedule : p.IsSchedule lessons)
      (assignments : t.assignments = lessons.map Lesson.assignment)
      (usage : p.sections.length ≤ pow2 1022 → t.statistics.usage.isFinite = true) :
      Settled p budget (.ok t)
  | infeasible (a : Attempt) (exhausted : a.budgetExhausted = false)
      (nothing : ∀ lessons, ¬ p.IsSchedule lessons) :
      Settled p budget (.error (.infeasible a))
  | outOfBudget (a : Attempt) (exhausted : a.budgetExhausted = true) (after : ExactSolver)
      (ended : (ExactSolver.fresh p budget).solve = (none, after))
      (usedUp : budget.UsedUp after.progress.steps after.progress.readings) :
      Settled p budget (.error (.outOfBudget a))

theorem Concludes.settled {budget : Budget} {tried : List Method}
    {outcome : Except SolveFault Timetable} (concludes : p.Concludes budget tried outcome) :
    p.Settled budget outcome := by
  cases concludes with
  | scheduled t sound =>
    obtain ⟨lessons, schedule, assignments⟩ := sound.schedule
    exact .scheduled t lessons schedule assignments sound.isFinite_usage
  | infeasible nothing => exact .infeasible _ rfl nothing
  | outOfBudget exhausts =>
    obtain ⟨after, ended, usedUp⟩ := exhausts
    exact .outOfBudget _ rfl after ended usedUp

/-- Whatever the source of random words and the deadlines do, a problem without a fault is given a
schedule, or has none, or has used up the budget of its exact search. -/
theorem solve_settles {σ : Type} [RandomSource σ] (sections : List Section)
    (classrooms : List Classroom) (slots : List TimeSlot)
    (preferences enrollments : List (String × List String)) (settings : Settings) (source : σ)
    (deadlines : Deadlines)
    (accepted : (build sections classrooms slots preferences enrollments).fault? = none)
    (valid : settings.Valid) :
    let p := build sections classrooms slots preferences enrollments
    p.Settled ⟨settings.maxSteps, (deadlines.within settings).exact⟩
      (p.solve settings source deadlines) := by
  have once := nodup_students_build sections classrooms slots preferences enrollments
  exact (concludes_solve (fault?_eq_none_iff.mp accepted) once valid source deadlines).settled

/-- Two lectures of one person and a seminar, which a student of the first lecture attends. -/
def morning : Problem :=
  build [⟨"algebra", "ada", 20, true⟩, ⟨"logic", "ada", 20, true⟩, ⟨"seminar", "emmy", 8, true⟩]
    [⟨"hall", 30, []⟩, ⟨"attic", 10, []⟩]
    [⟨"Monday", "09:00", "10:00"⟩, ⟨"Monday", "10:00", "11:00"⟩, ⟨"Monday", "11:00", "12:00"⟩]
    [("ada", ["Monday_10:00_11:00"])] [("zoe", ["algebra", "seminar"])]

end Problem

/-- Settings for an evolution of a few small generations. -/
def Settings.brief : Settings where
  heuristicThreshold := 2
  populationSize := 4
  generations := 3
  mutationRate := .ofRatio false 1 2
  eliteCount := 1
  tournamentSize := 2

theorem Settings.valid_brief : brief.Valid := by
  constructor <;> decide +kernel

/-- A generator whose words are the multiples of one number. -/
def MersenneTwister.multiples : MersenneTwister :=
  ⟨((List.range size).map fun i => .ofNat (2654450663 * i)).toArray, 0⟩

/-- The only generation of the evolution has nothing feasible, so the exact search follows. -/
theorem Problem.solve_settles_morning :
    let settings : Settings := { Settings.brief with generations := 1 }
    let outcome := morning.solve settings MersenneTwister.multiples .never
    morning.fault? = none ∧ settings.Valid ∧
      settings.heuristicThreshold < morning.sections.length ∧
      morning.Settled ⟨250000, .never⟩ outcome ∧
      outcome.toOption.map (fun t => (t.statistics.method, t.assignments)) =
        some (.backtracking,
          [⟨"algebra", "hall", ⟨"Monday", "09:00", "10:00"⟩⟩,
            ⟨"logic", "hall", ⟨"Monday", "10:00", "11:00"⟩⟩,
            ⟨"seminar", "attic", ⟨"Monday", "10:00", "11:00"⟩⟩]) := by
  intro settings outcome
  have accepted : morning.fault? = none := by decide +kernel
  have valid : settings.Valid :=
    { Settings.valid_brief with
      generations_pos := Nat.le_refl 1
      generations_le := by decide }
  have settled := solve_settles _ _ _ _ _ settings MersenneTwister.multiples .never accepted valid
  exact ⟨accepted, valid, by decide, settled, by decide +kernel⟩

end Timetabling
