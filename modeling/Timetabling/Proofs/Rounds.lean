import Timetabling.Proofs.Outcome

/-!
# Searching again

A solver that is asked again keeps what it has placed. The lessons of earlier searches are seen as
frames at the bottom of the stack that have nothing left to try: a search above them makes the steps
of the search alone, and finds what the recursive search finds on top of these lessons.
-/

namespace Timetabling

/-- A frame that keeps a lesson and tries nothing else. -/
def Frame.kept (l : Lesson) : Frame :=
  ⟨l.session, some [], some l.placement⟩

theorem Frame.lessons_kept (base : List Lesson) : lessons (base.map kept) = base := by
  induction base with
  | nil => rfl
  | cons l rest ih =>
    rw [List.map_cons, lessons, List.filterMap_cons]
    exact congrArg (l :: ·) ih

namespace Position

/-- A position with further frames below all others. -/
def above (base : List Frame) (s : Position) : Position :=
  { s with frames := s.frames ++ base }

def Outcome.above (base : List Frame) : Outcome → Outcome
  | ended verdict p => ended verdict p
  | continued t => continued (t.above base)

variable {problem : Problem} {budget : Budget} {agenda : List Session}

theorem settle_above (base below : List Frame) (pending : List Session)
    (looked : Option Placement × Frame × Progress) :
    settle (below ++ base) pending looked = (settle below pending looked).above base := by
  obtain ⟨found, f, p⟩ := looked
  simp only [settle]
  split
  next => rfl
  next => cases found <;> cases pending <;> rfl

/-- What lies below does not matter as long as there is a frame above it. -/
theorem step_above (base : List Frame) {s : Position} (busy : s.frames ≠ []) :
    (s.above base).step problem budget = (s.step problem budget).above base := by
  obtain ⟨frames, pending, progress⟩ := s
  cases frames with
  | nil => exact absurd rfl busy
  | cons top below =>
    change step problem budget ⟨top :: (below ++ base), pending, progress⟩ = _
    cases checked : progress.checkBudget budget with
    | mk spent p =>
      cases spent with
      | true =>
        rw [step_stopped checked, step_stopped checked]
        rfl
      | false => rw [step_settle checked, step_settle checked, settle_above]

theorem ahead_kept (base : List Lesson) (pending : List Session) :
    ahead problem (base.map Frame.kept) pending = ⟨none, 0⟩ := by
  induction base generalizing pending with
  | nil => rfl
  | cons l rest ih =>
    rw [List.map_cons, ahead, ih]
    rfl

/-- How a search above lessons that stay can end, where the given lessons are to be found. -/
inductive Ends (budget : Budget) (base : List Lesson) (found : Option (List Lesson)) :
    Verdict → Progress → Prop where
  | complete (p : Progress) (lessons : List Lesson) (given : found = some lessons)
      (holds : p.Holds lessons) (running : p.stopped = false)
      (within : p.steps ≤ budget.maxSteps) : Ends budget base found .complete p
  | exhausted (p : Progress) (nothing : found = none) (holds : p.Holds base)
      (running : p.stopped = false) (within : p.steps ≤ budget.maxSteps) :
      Ends budget base found .exhausted p
  | outOfBudget (p : Progress) (stopped : p.stopped = true) :
      Ends budget base found .outOfBudget p

theorem ends_run {base : List Lesson} {s : Position}
    (coherent : (s.above (base.map Frame.kept)).Coherent problem agenda)
    (within : (s.above (base.map Frame.kept)).Within budget) :
    Ends budget base ((s.above (base.map Frame.kept)).prospect problem).lessons
      (run problem budget s).1 (run problem budget s).2 := by
  -- The induction is on the iterations of the search alone; the invariant is that of the search
  -- above the kept frames, which goes the same way until its own frames are used up.
  fun_induction run problem budget s with
  | case1 s verdict p ended =>
    by_cases idle : s.frames = []
    · obtain ⟨frames, pending, progress⟩ := s
      cases idle
      cases ended
      have nothing :
          ((above (base.map Frame.kept) ⟨[], pending, progress⟩).prospect problem).lessons = none :=
        congrArg Finding.lessons (ahead_kept base pending)
      have holds := coherent.holds
      change progress.Holds (Frame.lessons (base.map Frame.kept)) at holds
      rw [Frame.lessons_kept] at holds
      exact .exhausted _ nothing holds coherent.running within.1
    · have advance := advance_step coherent within
      rw [step_above _ idle, ended] at advance
      cases advance with
      | complete _ lessons tried holds running within steps prospect =>
        exact .complete _ lessons (congrArg Finding.lessons prospect) holds running within
      | exhausted empty => exact absurd (List.append_eq_nil_iff.mp empty).1 idle
      | outOfBudget _ rest tried stopped => exact .outOfBudget _ stopped
  | case2 s t continued ih =>
    have busy : s.frames ≠ [] := by
      obtain ⟨frames, pending, progress⟩ := s
      rintro rfl
      cases continued
    have advance := advance_step coherent within
    rw [step_above _ busy, continued] at advance
    cases advance with
    | continued _ tried coherent within steps prospect =>
      rw [prospect]
      exact ih coherent within

section Initial

variable {first : Session} {later : List Session} {progress : Progress} {base : List Lesson}

theorem coherent_above (holds : progress.Holds base) (running : progress.stopped = false) :
    (above (base.map Frame.kept) ⟨[{ session := first }], later, progress⟩).Coherent problem
      ((base.map Lesson.session).reverse ++ first :: later) where
  agenda_eq := by simp [above, Frame.kept, Function.comp_def]
  placed_below := by simp [above, Frame.kept]
  holds := by
    change progress.Holds (Frame.lessons (base.map Frame.kept))
    rwa [Frame.lessons_kept]
  offered := by simp [above, Frame.kept]
  running := running

theorem prospect_above :
    (prospect problem
      (above (base.map Frame.kept) ⟨[{ session := first }], later, progress⟩)).lessons =
      (problem.depthFirst (first :: later) base).lessons := by
  change (Finding.orElse (tryEach (problem.depthFirst later) (Frame.lessons (base.map Frame.kept))
    first (problem.placementsAfter (Frame.lessons (base.map Frame.kept)) first))
    (ahead problem (base.map Frame.kept) (first :: later))).lessons = _
  rw [ahead_kept, Frame.lessons_kept, Finding.lessons_orElse, Option.or_none]
  rfl

end Initial

end Position

theorem Frame.stopped_next (problem : Problem) (budget : Budget) (f : Frame) {p : Progress}
    (stopped : p.stopped = true) : (f.next problem budget p).2.2.stopped = true := by
  have sought := Progress.sought_seek budget f.session p (f.candidates problem p.reservations)
  unfold Frame.next
  generalize f.candidates problem p.reservations = cs at sought ⊢
  generalize p.seek budget f.session cs = result at sought ⊢
  cases sought with
  | fitting => exact stopped
  | exhausted => exact stopped
  | stopped => rfl

namespace Position

variable (problem : Problem) (budget : Budget) (top : Frame) (below : List Frame)
  (pending : List Session) {progress : Progress}

theorem step_of_stopped (stopped : progress.stopped = true) :
    ∃ p, step problem budget ⟨top :: below, pending, progress⟩ = .ended .outOfBudget p ∧
      p.stopped = true := by
  cases checked : progress.checkBudget budget with
  | mk spent p =>
    cases spent with
    | true => exact ⟨p.stop, step_stopped checked, rfl⟩
    | false =>
      obtain ⟨-, rfl⟩ := Progress.checkBudget_false checked
      rw [step_settle checked]
      have given := (top.progress_unplace { progress with readings := progress.readings + 1 }).2.2
      have still := (top.unplace { progress with readings := progress.readings + 1 }).1.stopped_next
        problem budget (given.trans stopped)
      refine ⟨_, ?_, still⟩
      simp only [settle, still, if_true]

theorem run_of_stopped (stopped : progress.stopped = true) :
    ∃ p, run problem budget ⟨top :: below, pending, progress⟩ = (.outOfBudget, p) ∧
      p.stopped = true := by
  obtain ⟨p, ended, still⟩ := step_of_stopped problem budget top below pending stopped
  refine ⟨p, ?_, still⟩
  unfold run
  split
  next verdict q ended' =>
    cases ended.symm.trans ended'
    rfl
  next t continued => cases ended.symm.trans continued

end Position

namespace ExactSolver

def again (solver : ExactSolver) : Nat → ExactSolver
  | 0 => solver
  | n + 1 => (solver.again n).solve.2

/-- What is given by the solve that follows a number of others. -/
def answer (solver : ExactSolver) (n : Nat) : Option Timetable :=
  (solver.again n).solve.1

/-- The solver holds the schedules of earlier searches on top of each other, the latest first. -/
structure Stacked (p : Problem) (rounds : List (List Lesson)) (solver : ExactSolver) : Prop where
  problem_eq : solver.problem = p
  schedules : ∀ round ∈ rounds, p.IsSchedule round
  holds : solver.progress.Holds rounds.flatten
  running : solver.progress.stopped = false
  within : solver.progress.steps ≤ solver.budget.maxSteps

inductive Stuck (p : Problem) (solver : ExactSolver) : Prop where
  | stopped (problem_eq : solver.problem = p) (busy : p.agenda ≠ [])
      (stopped : solver.progress.stopped = true)
  | exhausted (rounds : List (List Lesson)) (stacked : Stacked p rounds solver)
      (nothing : (p.depthFirst p.agenda rounds.flatten).lessons = none)

variable {p : Problem} {solver : ExactSolver} {rounds : List (List Lesson)}

theorem Stacked.search (stacked : Stacked p rounds solver) :
    ∃ verdict progress, solver.search = (verdict, { solver with progress := progress }) ∧
      Position.Ends solver.budget rounds.flatten (p.depthFirst p.agenda rounds.flatten).lessons
        verdict progress ∧ (verdict = .outOfBudget → p.agenda ≠ []) := by
  obtain ⟨rfl, schedules, holds, running, within⟩ := stacked
  unfold ExactSolver.search
  rw [show solver.order = solver.problem.agenda from rfl]
  cases solver.problem.agenda with
  | nil => exact ⟨_, _, rfl, .complete _ _ rfl holds running within, by simp⟩
  | cons first later =>
    refine ⟨_, _, rfl, ?_, by simp⟩
    rw [← Position.prospect_above]
    exact Position.ends_run (Position.coherent_above holds running)
      ⟨within, by simp [Position.above]⟩

/-- A solve puts one more schedule on top of the others, or gives nothing from then on. -/
theorem Stacked.solve (stacked : Stacked p rounds solver) :
    (∃ round t, (p.depthFirst p.agenda rounds.flatten).lessons = some (round :: rounds).flatten ∧
      solver.solve.1 = some t ∧ Stacked p (round :: rounds) solver.solve.2 ∧
      t.assignments = (round :: rounds).flatten.reverse.map Lesson.assignment) ∨
    (solver.solve.1 = none ∧ Stuck p solver.solve.2) := by
  obtain ⟨verdict, progress, searched, ends, busy⟩ := stacked.search
  unfold ExactSolver.solve
  rw [searched]
  cases ends with
  | complete _ lessons given holds running within =>
    obtain ⟨added, rfl, sessions, offered, apart⟩ := Problem.depthFirst_sound given
    refine .inl ⟨added, _, given, rfl, ⟨stacked.problem_eq, ?_, holds, running, within⟩, ?_⟩
    · refine List.forall_mem_cons.mpr ⟨⟨?_, offered, ?_⟩, stacked.schedules⟩
      · rw [sessions]
        exact (List.reverse_perm _).trans p.agenda_perm
      · exact (List.pairwise_append.mp holds.apart).1
    · simp [holds.placed]
  | exhausted _ nothing holds running within =>
    exact .inr ⟨rfl, .exhausted rounds
      ⟨stacked.problem_eq, stacked.schedules, holds, running, within⟩ nothing⟩
  | outOfBudget _ stopped => exact .inr ⟨rfl, .stopped stacked.problem_eq (busy rfl) stopped⟩

theorem Stuck.solve (stuck : Stuck p solver) : solver.solve.1 = none ∧ Stuck p solver.solve.2 := by
  cases stuck with
  | stopped problem_eq busy stopped =>
    subst problem_eq
    unfold ExactSolver.solve ExactSolver.search
    rw [show solver.order = solver.problem.agenda from rfl]
    cases agenda : solver.problem.agenda with
    | nil => exact absurd agenda busy
    | cons first later =>
      obtain ⟨q, ran, still⟩ := Position.run_of_stopped solver.problem solver.budget
        { session := first } [] later stopped
      simp only [ran]
      exact ⟨trivial, .stopped rfl busy still⟩
  | exhausted rounds stacked nothing =>
    rcases stacked.solve with ⟨round, t, found, -⟩ | stays
    · cases nothing.symm.trans found
    · exact stays

theorem stacked_fresh (p : Problem) (budget : Budget) : Stacked p [] (fresh p budget) where
  problem_eq := rfl
  schedules := by simp
  holds := Progress.holds_empty
  running := rfl
  within := Nat.zero_le _

theorem again_spec (p : Problem) (budget : Budget) (n : Nat) :
    (∃ rounds, rounds.length = n ∧ Stacked p rounds ((fresh p budget).again n)) ∨
      Stuck p ((fresh p budget).again n) := by
  induction n with
  | zero => exact .inl ⟨[], rfl, stacked_fresh p budget⟩
  | succ n ih =>
    rcases ih with ⟨rounds, length, stacked⟩ | stuck
    · rcases stacked.solve with ⟨round, t, -, -, later, -⟩ | ⟨-, stuck⟩
      · exact .inl ⟨round :: rounds, congrArg (· + 1) length, later⟩
      · exact .inr stuck
    · exact .inr stuck.solve.2

/-- What is given after a number of solves are as many schedules and one more, in the order in which
they were found. -/
theorem rounds_of_answer {budget : Budget} {n : Nat} {t : Timetable}
    (given : (fresh p budget).answer n = some t) :
    ∃ rounds : List (List Lesson), rounds.length = n + 1 ∧ (∀ round ∈ rounds, p.IsSchedule round) ∧
      Lesson.Apart rounds.flatten ∧ t.assignments = rounds.flatten.map Lesson.assignment := by
  rcases again_spec p budget n with ⟨rounds, length, stacked⟩ | stuck
  · rcases stacked.solve with ⟨round, t', -, solved, later, assignments⟩ | ⟨nothing, -⟩
    · cases solved.symm.trans given
      refine ⟨((round :: rounds).map List.reverse).reverse, ?_, ?_, ?_, ?_⟩
      · simp [length]
      · intro listed membership
        obtain ⟨kept, known, rfl⟩ := List.mem_map.mp (List.mem_reverse.mp membership)
        exact (later.schedules kept known).perm (List.reverse_perm kept).symm
      · rw [← List.reverse_flatten]
        exact later.holds.apart.perm (List.reverse_perm _).symm
      · rw [← List.reverse_flatten, assignments]
    · cases nothing.symm.trans given
  · cases stuck.solve.1.symm.trans given

theorem answer_eq_none_of_le {budget : Budget} {n m : Nat}
    (nothing : (fresh p budget).answer n = none) (later : n ≤ m) :
    (fresh p budget).answer m = none := by
  have stuck : Stuck p ((fresh p budget).again (n + 1)) := by
    rcases again_spec p budget n with ⟨rounds, -, stacked⟩ | stuck
    · rcases stacked.solve with ⟨round, t, -, solved, -⟩ | ⟨-, stuck⟩
      · cases solved.symm.trans nothing
      · exact stuck
    · exact stuck.solve.2
  have stays (k : Nat) : Stuck p ((fresh p budget).again (n + 1 + k)) := by
    induction k with
    | zero => exact stuck
    | succ k ih => exact ih.solve.2
  obtain ⟨k, rfl⟩ := Nat.exists_eq_add_of_le later
  cases k with
  | zero => exact nothing
  | succ k =>
    have still := (stays k).solve.1
    rwa [Nat.add_right_comm] at still

end ExactSolver

namespace Problem

variable {p : Problem} {rounds : List (List Lesson)}

theorem clean_rounds_iff (accepted : p.Accepted) (once : ∀ id, (p.studentsOf id).Nodup)
    (schedules : ∀ round ∈ rounds, p.IsSchedule round) (searched : rounds ≠ []) :
    p.violations (rounds.flatten.map Lesson.assignment) = [] ↔
      rounds.length = 1 ∨ p.sections = [] := by
  have announced (round) (listed : round ∈ rounds) (l) (placed : l ∈ round) :
      p.lesson? l.assignment = some l :=
    accepted.lesson?_assignment ((schedules round listed).known placed)
      ((schedules round listed).offered l placed).classroom_mem
  constructor
  · intro clean
    match rounds, searched with
    | [first], _ => exact .inl rfl
    | first :: second :: others, _ =>
      right
      by_contra taught
      obtain ⟨sec, listed⟩ := List.exists_mem_of_ne_nil _ taught
      -- The lessons of one section in the first two rounds bear the same identifier.
      obtain ⟨l, placed, session⟩ := (schedules first (by simp)).exists_lesson listed
      obtain ⟨m, placed', session'⟩ := (schedules second (by simp)).exists_lesson listed
      have apart := ((violations_eq_nil_iff once).mp clean).2
      rw [List.flatten_cons, List.map_append, List.pairwise_append] at apart
      have later : m.assignment ∈ (second :: others).flatten.map Lesson.assignment :=
        List.mem_map_of_mem (List.mem_flatten_of_mem List.mem_cons_self placed')
      have separate := apart.2.2 _ (List.mem_map_of_mem placed) _ later l
        (announced first (by simp) l placed) m (announced second (by simp) m placed')
      rw [session, session'] at separate
      exact separate.1 rfl
  · rintro (single | nothing)
    · obtain ⟨round, rfl⟩ := List.length_eq_one_iff.mp single
      rw [List.flatten_singleton]
      exact (schedules round (by simp)).violations_eq_nil accepted once
    · have idle : ∀ round ∈ rounds, round = [] := by
        intro round listed
        have sessions := (schedules round listed).complete.length_eq
        rw [Problem.sessions, nothing, List.length_map] at sessions
        exact List.eq_nil_of_length_eq_zero sessions
      rw [List.flatten_eq_nil_iff.mpr idle]
      rfl

end Problem

namespace ExactSolver

/-- Only the first of consecutive solves gives a timetable that passes the audit: every further one
gives the sections once more, next to all that has been given before, until there is no room left.
-/
theorem answer_stacks_schedules (sections : List Section) (classrooms : List Classroom)
    (slots : List TimeSlot) (preferences enrollments : List (String × List String))
    (budget : Budget)
    (accepted : (Problem.build sections classrooms slots preferences enrollments).fault? = none)
    (n : Nat) :
    let p := Problem.build sections classrooms slots preferences enrollments
    let solver := fresh p budget
    (∀ t, solver.answer n = some t → ∃ rounds : List (List Lesson), rounds.length = n + 1 ∧
      (∀ round ∈ rounds, p.IsSchedule round) ∧ Lesson.Apart rounds.flatten ∧
      t.assignments = rounds.flatten.map Lesson.assignment ∧ p.unassigned t.assignments = [] ∧
      (p.violations t.assignments = [] ↔ n = 0 ∨ p.sections = [])) ∧
    (solver.answer n = none → ∀ m, n ≤ m → solver.answer m = none) := by
  intro p solver
  have once := Problem.nodup_students_build sections classrooms slots preferences enrollments
  refine ⟨?given, fun nothing m later => answer_eq_none_of_le nothing later⟩
  case given =>
    intro t given
    obtain ⟨rounds, length, schedules, apart, assignments⟩ := rounds_of_answer given
    obtain ⟨first, others, rfl⟩ := List.exists_cons_of_length_eq_add_one length
    refine ⟨first :: others, length, schedules, apart, assignments, ?complete, ?clean⟩
    case complete =>
      apply Problem.unassigned_eq_nil_iff.mpr
      intro sec listed
      obtain ⟨l, placed, session⟩ := (schedules first List.mem_cons_self).exists_lesson listed
      have named : l.assignment.sectionId = sec.id := congrArg (fun s : Session => s.id) session
      rw [← named, assignments, List.flatten_cons]
      exact List.mem_map_of_mem (List.mem_map_of_mem (List.mem_append_left _ placed))
    case clean =>
      rw [assignments, Problem.clean_rounds_iff (Problem.fault?_eq_none_iff.mp accepted) once
        schedules (List.cons_ne_nil _ _), length, Nat.add_eq_right]

/-- One section, and two hours for it. -/
def repetition : Problem :=
  .build [⟨"algebra", "ada", 20, true⟩] [⟨"hall", 30, []⟩]
    [⟨"Monday", "09:00", "10:00"⟩, ⟨"Monday", "10:00", "11:00"⟩] [] []

theorem answer_stacks_schedules_repetition :
    repetition.fault? = none ∧ ∃ t, (fresh repetition ⟨250000, .never⟩).answer 1 = some t ∧
      (∃ rounds : List (List Lesson), rounds.length = 2 ∧
        (∀ round ∈ rounds, repetition.IsSchedule round) ∧
        t.assignments = rounds.flatten.map Lesson.assignment) ∧
      repetition.violations t.assignments ≠ [] := by
  have accepted : repetition.fault? = none := by decide +kernel
  have given : ((fresh repetition ⟨250000, .never⟩).answer 1).isSome = true := by decide +kernel
  obtain ⟨t, answered⟩ := Option.isSome_iff_exists.mp given
  have twice := answer_stacks_schedules [⟨"algebra", "ada", 20, true⟩] [⟨"hall", 30, []⟩]
    [⟨"Monday", "09:00", "10:00"⟩, ⟨"Monday", "10:00", "11:00"⟩] [] [] ⟨250000, .never⟩ accepted 1
  obtain ⟨rounds, length, schedules, -, assignments, -, clean⟩ := twice.1 t answered
  refine ⟨accepted, t, answered, ⟨rounds, length, schedules, assignments⟩, fun found => ?_⟩
  exact absurd (clean.mp found) (by decide)

/-- The second solve gives the section twice. -/
theorem answers_of_repetition :
    ∃ t, (fresh repetition ⟨250000, .never⟩).answer 1 = some t ∧
      t.assignments = [⟨"algebra", "hall", ⟨"Monday", "09:00", "10:00"⟩⟩,
        ⟨"algebra", "hall", ⟨"Monday", "10:00", "11:00"⟩⟩] ∧
      (repetition.violations t.assignments).map Violation.kind = ["duplicate_section"] := by
  have found : ((fresh repetition ⟨250000, .never⟩).answer 1).map (fun t =>
      (t.assignments, (repetition.violations t.assignments).map Violation.kind)) =
      some ([⟨"algebra", "hall", ⟨"Monday", "09:00", "10:00"⟩⟩,
        ⟨"algebra", "hall", ⟨"Monday", "10:00", "11:00"⟩⟩], ["duplicate_section"]) := by
    decide +kernel
  obtain ⟨t, answered, both⟩ := Option.map_eq_some_iff.mp found
  obtain ⟨assignments, reported⟩ := Prod.mk.inj both
  exact ⟨t, answered, assignments, reported⟩

end ExactSolver

end Timetabling
