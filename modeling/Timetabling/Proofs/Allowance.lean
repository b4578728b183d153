import Mathlib.Algebra.Ring.GeomSum
import Timetabling.Proofs.Enrollment
import Timetabling.Proofs.Iterations

/-!
# The steps that an exact search can take

A search ends by itself. Its allowance is the number of steps that the candidates still to be tried
can lead to, counted over the whole stack, with all that the sessions without a frame can add. An
iteration takes from the allowance the steps that it makes. Iterations without a step only drop a
frame, so there are no more of them than of frames that have been put up.
-/

namespace Timetabling

theorem Frame.exists_tried_next (problem : Problem) (budget : Budget) (f : Frame) (p : Progress) :
    let looked := f.next problem budget p
    ∃ tried, looked.2.2.steps = p.steps + tried ∧
      looked.2.1.width problem + tried ≤ f.width problem ∧
      (looked.1.isSome = true → 0 < tried) ∧
      (looked.2.2.stopped = true →
        p.stopped = true ∨ budget.UsedUp looked.2.2.steps looked.2.2.readings) := by
  have sought := Progress.sought_seek budget f.session p (f.candidates problem p.reservations)
  have bounded := f.length_candidates_le problem p.reservations
  unfold Frame.next
  simp only
  generalize f.candidates problem p.reservations = cs at sought bounded ⊢
  generalize p.seek budget f.session cs = result at sought ⊢
  cases sought with
  | fitting skipped rest c readings =>
    rw [List.length_append, List.length_cons] at bounded
    refine ⟨skipped.length + 1, rfl, ?_, fun _ => Nat.succ_pos _, .inl⟩
    change rest.length + (skipped.length + 1) ≤ _
    omega
  | exhausted _ readings =>
    refine ⟨cs.length, rfl, ?_, nofun, .inl⟩
    change 0 + cs.length ≤ _
    omega
  | stopped skipped rest readings _ _ usedUp =>
    rw [List.length_append] at bounded
    refine ⟨skipped.length, rfl, ?_, nofun, fun _ => .inr usedUp⟩
    change rest.length + skipped.length ≤ _
    omega

namespace Position

/-- The steps that one candidate can cost when the given number of sessions has no frame yet: its
own, and those of a new frame for the next session. -/
def stepCost (width : Nat) : Nat → Nat
  | 0 => 1
  | later + 1 => 1 + width * stepCost width later

theorem stepCost_pos (width later : Nat) : 0 < stepCost width later := by
  cases later with
  | zero => exact Nat.one_pos
  | succ later => exact Nat.add_pos_left Nat.one_pos _

theorem stepCost_eq (width later : Nat) :
    stepCost width later = ∑ d ∈ Finset.range (later + 1), width ^ d := by
  induction later with
  | zero => simp [stepCost]
  | succ later ih => rw [stepCost, ih, Nat.add_comm, ← geom_sum_succ]

theorem mul_stepCost (width later : Nat) :
    width * stepCost width later = ∑ d ∈ Finset.Icc 1 (later + 1), width ^ d := by
  calc
    width * stepCost width later = ∑ d ∈ Finset.Ico 0 (later + 1), width ^ (d + 1) := by
      rw [stepCost_eq, Finset.mul_sum, Finset.range_eq_Ico]
      exact Finset.sum_congr rfl fun d _ => (pow_succ' width d).symm
    _ = ∑ d ∈ Finset.Ico 1 (later + 1 + 1), width ^ d := Finset.sum_Ico_add' (width ^ ·) 0 _ 1
    _ = ∑ d ∈ Finset.Icc 1 (later + 1), width ^ d := by
      rw [Finset.Ico_add_one_right_eq_Icc]

def stepsLeft (problem : Problem) : List Frame → Nat → Nat
  | [], _ => 0
  | f :: below, later =>
    f.width problem * stepCost (problem.classrooms.length * problem.slots.length) later +
      stepsLeft problem below (later + 1)

/-- The steps that a search can still take from a position. -/
def allowance (problem : Problem) (s : Position) : Nat :=
  stepsLeft problem s.frames s.pending.length

/-- What an iteration does to the stack and to the steps. -/
inductive Moves (problem : Problem) (budget : Budget) (s : Position) : Outcome → Prop where
  | idle (empty : s.frames = []) : Moves problem budget s (.ended .exhausted s.progress)
  | ended (top : Frame) (below : List Frame) (verdict : Verdict) (p : Progress) (tried : Nat)
      (frames : s.frames = top :: below) (few : tried ≤ top.width problem)
      (steps : p.steps = s.progress.steps + tried)
      (cause : verdict = .outOfBudget →
        s.progress.stopped = true ∨ budget.UsedUp p.steps p.readings) :
      Moves problem budget s (.ended verdict p)
  | dropped (top : Frame) (below : List Frame) (session : Session) (p : Progress) (tried : Nat)
      (frames : s.frames = top :: below) (few : tried ≤ top.width problem)
      (steps : p.steps = s.progress.steps + tried) (running : p.stopped = false) :
      Moves problem budget s (.continued ⟨below, session :: s.pending, p⟩)
  | pushed (top f : Frame) (below : List Frame) (next : Session) (later : List Session)
      (p : Progress) (tried : Nat) (frames : s.frames = top :: below)
      (pending : s.pending = next :: later) (someTried : 0 < tried)
      (fewer : f.width problem + tried ≤ top.width problem)
      (steps : p.steps = s.progress.steps + tried) (running : p.stopped = false) :
      Moves problem budget s (.continued ⟨{ session := next } :: f :: below, later, p⟩)

theorem moves_step (problem : Problem) (budget : Budget) (s : Position) :
    s.Moves problem budget (s.step problem budget) := by
  obtain ⟨frames, pending, progress⟩ := s
  cases frames with
  | nil => exact .idle rfl
  | cons top below =>
    cases checked : progress.checkBudget budget with
    | mk spent p =>
      cases spent with
      | true =>
        rw [step_stopped checked]
        obtain ⟨readings, rfl, usedUp⟩ := Progress.checkBudget_true checked
        exact .ended top below _ _ 0 rfl (Nat.zero_le _) rfl fun _ => .inr usedUp
      | false =>
        rw [step_settle checked]
        obtain ⟨-, rfl⟩ := Progress.checkBudget_false checked
        obtain ⟨steps, -, stopped⟩ :=
          top.progress_unplace { progress with readings := progress.readings + 1 }
        have width := top.width_unplace problem { progress with readings := progress.readings + 1 }
        generalize top.unplace { progress with readings := progress.readings + 1 } = freed
          at steps stopped width ⊢
        obtain ⟨f, q⟩ := freed
        obtain ⟨tried, counted, fewer, some, cause⟩ := f.exists_tried_next problem budget q
        generalize f.next problem budget q = looked at counted fewer some cause ⊢
        obtain ⟨found, g, r⟩ := looked
        simp only at steps stopped width counted fewer some cause
        rw [width] at fewer
        rw [steps] at counted
        rw [stopped] at cause
        simp only [settle]
        split
        next halted =>
          exact .ended top below _ r tried rfl (by omega) counted fun _ => cause halted
        next running =>
          rw [Bool.not_eq_true] at running
          cases found with
          | none => exact .dropped top below g.session r tried rfl (by omega) counted running
          | some c =>
            cases pending with
            | nil =>
              refine .ended top below _ _ tried rfl (by omega) counted ?_
              intro complete
              cases complete
            | cons next later =>
              exact .pushed top _ below next later _ tried rfl rfl (some rfl) fewer counted running

section Step

variable {problem : Problem} {budget : Budget} {s t : Position}

theorem steps_le_of_ended {verdict : Verdict} {p : Progress}
    (ended : s.step problem budget = .ended verdict p) :
    s.progress.steps ≤ p.steps ∧ p.steps ≤ s.progress.steps + s.allowance problem := by
  have moves := s.moves_step problem budget
  rw [ended] at moves
  cases moves with
  | idle => exact ⟨Nat.le_refl _, Nat.le_add_right _ _⟩
  | ended top below _ _ tried frames few steps =>
    have worth := Nat.le_mul_of_pos_right (top.width problem)
      (stepCost_pos (problem.classrooms.length * problem.slots.length) s.pending.length)
    rw [allowance, frames, stepsLeft]
    omega

/-- An iteration takes from the allowance the steps that it makes. -/
theorem allowance_step (continued : s.step problem budget = .continued t) :
    s.progress.steps ≤ t.progress.steps ∧
      t.progress.steps + t.allowance problem ≤ s.progress.steps + s.allowance problem := by
  have moves := s.moves_step problem budget
  rw [continued] at moves
  cases moves with
  | dropped top below session p tried frames few steps =>
    have worth := Nat.le_mul_of_pos_right (top.width problem)
      (stepCost_pos (problem.classrooms.length * problem.slots.length) s.pending.length)
    simp only [allowance, frames, stepsLeft, List.length_cons, steps]
    omega
  | pushed top f below next later p tried frames pending someTried fewer steps =>
    have fresh : Frame.width problem { session := next } =
        problem.classrooms.length * problem.slots.length := rfl
    simp only [allowance, frames, pending, stepsLeft, List.length_cons, steps, fresh]
    generalize problem.classrooms.length * problem.slots.length = width
    -- A candidate that is followed pays for itself and for the frame of the next session.
    have paid : (f.width problem + tried) * stepCost width (later.length + 1) ≤
        top.width problem * stepCost width (later.length + 1) := Nat.mul_le_mul_right _ fewer
    have cost : stepCost width (later.length + 1) = 1 + width * stepCost width later.length := rfl
    obtain ⟨skipped, rfl⟩ := Nat.exists_eq_succ_of_ne_zero (Nat.ne_of_gt someTried)
    have worth := Nat.le_mul_of_pos_right skipped (stepCost_pos width (later.length + 1))
    rw [Nat.add_mul, Nat.succ_mul] at paid
    omega

theorem length_frames_step (continued : s.step problem budget = .continued t) :
    t.frames.length + 1 + 2 * s.progress.steps ≤ s.frames.length + 2 * t.progress.steps := by
  have moves := s.moves_step problem budget
  rw [continued] at moves
  cases moves with
  | dropped _ _ _ _ _ frames _ steps =>
    simp only [frames, List.length_cons, steps]
    omega
  | pushed _ _ _ _ _ _ _ frames _ someTried _ steps =>
    simp only [frames, List.length_cons, steps]
    omega

theorem running_of_step (continued : s.step problem budget = .continued t) :
    t.progress.stopped = false := by
  have moves := s.moves_step problem budget
  rw [continued] at moves
  cases moves with
  | dropped _ _ _ _ _ _ _ _ running => exact running
  | pushed _ _ _ _ _ _ _ _ _ _ _ _ running => exact running

theorem step_of_no_classroom {top : Frame} {below : List Frame} (frames : s.frames = top :: below)
    (fresh : top.remaining = none)
    (noClassroom : eligibleClassrooms problem.classrooms top.session.toSection = [])
    (running : s.progress.stopped = false) (spare : s.progress.steps < budget.maxSteps)
    (inTime : budget.deadline s.progress.readings = false) :
    ∃ t, s.step problem budget = .continued t ∧ t.frames = below ∧
      t.progress.steps = s.progress.steps := by
  obtain ⟨_, pending, progress⟩ := s
  obtain rfl := frames
  have checked : progress.checkBudget budget =
      (false, { progress with readings := progress.readings + 1 }) := by
    rw [Progress.checkBudget, if_neg (Nat.not_le_of_lt spare), inTime]
  have nothing : ∀ r, problem.candidates top.session.toSection r = [] := by
    intro r
    simp [Problem.candidates, Problem.candidateClassrooms, noClassroom, stableSort_eq_mergeSort]
  rw [step_settle checked, Frame.unplace_fst]
  obtain ⟨steps, -, stopped⟩ :=
    top.progress_unplace { progress with readings := progress.readings + 1 }
  generalize (top.unplace { progress with readings := progress.readings + 1 }).2 = p
    at steps stopped ⊢
  have still : ¬ p.stopped = true := by
    rw [stopped]
    simpa using running
  have looked : Frame.next problem budget { top with placement := none } p =
      (none, { top with placement := none, remaining := some [] }, p) := by
    simp [Frame.next, Frame.candidates, fresh, nothing, Progress.seek]
  rw [looked]
  simp only [settle, if_neg still]
  exact ⟨_, rfl, rfl, steps⟩

end Step

end Position

namespace ExactSolver

inductive Iterates (solver : ExactSolver) : Nat → Position → Prop
  | start {first : Session} {later : List Session} (order : solver.order = first :: later) :
      Iterates solver 0 ⟨[{ session := first }], later, solver.progress⟩
  | next {k : Nat} {s t : Position} (iterates : Iterates solver k s)
      (continued : s.step solver.problem solver.budget = .continued t) : Iterates solver (k + 1) t

/-- The most steps that a search can take: those of all candidates, for the first section, for the
first two, and so on. -/
def mostSteps (p : Problem) : Nat :=
  ∑ d ∈ Finset.Icc 1 p.sections.length, (p.classrooms.length * p.slots.length) ^ d

theorem length_order (solver : ExactSolver) :
    solver.order.length = solver.problem.sections.length := by
  simp [order, priorityOrder, stableSort_eq_mergeSort]

namespace Iterates

variable {solver : ExactSolver} {k : Nat} {s : Position}

/-- What has been spent and what may still be spent stay within the steps of all candidates, and
each iteration but the dropping of a frame has made a step. -/
theorem spends (iterates : solver.Iterates k s) :
    solver.progress.steps ≤ s.progress.steps ∧
      s.progress.steps + s.allowance solver.problem ≤
        solver.progress.steps + mostSteps solver.problem ∧
      k + s.frames.length + 2 * solver.progress.steps ≤ 2 * s.progress.steps + 1 := by
  induction iterates with
  | @start first later order =>
    have sections : later.length + 1 = solver.problem.sections.length := by
      rw [← solver.length_order, order, List.length_cons]
    have fresh : Frame.width solver.problem { session := first } =
        solver.problem.classrooms.length * solver.problem.slots.length := rfl
    have whole : Position.allowance solver.problem
        ⟨[{ session := first }], later, solver.progress⟩ = mostSteps solver.problem := by
      rw [Position.allowance, Position.stepsLeft, Position.stepsLeft, fresh,
        Position.mul_stepCost, sections, Nat.add_zero, mostSteps]
    simp only [whole, List.length_singleton]
    omega
  | next _ continued ih =>
    obtain ⟨started, within, counted⟩ := ih
    obtain ⟨more, taken⟩ := Position.allowance_step continued
    have changed := Position.length_frames_step continued
    omega

theorem running (iterates : solver.Iterates k s) (running : solver.progress.stopped = false) :
    s.progress.stopped = false := by
  cases iterates with
  | start => exact running
  | next _ continued => exact Position.running_of_step continued

end Iterates

theorem Visits.exists_iterates {solver : ExactSolver} {s : Position} (visited : solver.Visits s) :
    ∃ k, solver.Iterates k s := by
  induction visited with
  | start order => exact ⟨0, .start order⟩
  | next _ continued ih =>
    obtain ⟨k, iterates⟩ := ih
    exact ⟨k + 1, iterates.next continued⟩

/-- A search of some sections comes to an end after a number of iterations, and its verdict and its
progress are those of the last one. -/
theorem exists_iterates_ended {solver : ExactSolver} (busy : solver.problem.sections ≠ []) :
    ∃ k s verdict p, solver.Iterates k s ∧
      s.step solver.problem solver.budget = .ended verdict p ∧
      solver.search = (verdict, { solver with progress := p }) := by
  unfold search
  cases order : solver.order with
  | nil =>
    have sections := solver.length_order
    rw [order] at sections
    exact absurd (List.length_eq_zero_iff.mp sections.symm) busy
  | cons first later =>
    obtain ⟨s, visited, ended⟩ := (Visits.start order).exists_ended
    obtain ⟨k, iterates⟩ := visited.exists_iterates
    exact ⟨k, s, _, _, iterates, ended, rfl⟩

theorem mostSteps_build (sections : List Section) (classrooms : List Classroom)
    (slots : List TimeSlot) (preferences enrollments : List (String × List String)) :
    mostSteps (.build sections classrooms slots preferences enrollments) =
      ∑ d ∈ Finset.Icc 1 sections.length, (classrooms.length * slots.toFinset.card) ^ d := by
  have distinct : slots.eraseDups.length = slots.toFinset.card := by
    rw [← List.toFinset_card_of_nodup (nodup_eraseDups slots)]
    congr 1
    ext slot
    simp only [List.mem_toFinset, List.mem_eraseDups]
  rw [← distinct]
  rfl

/-- However large its bound on the steps is, a search without a deadline ends, and its bound has no
part in that once it exceeds the number of all candidates. At the head of each iteration there have
been no more iterations than two for each step and one, whatever earlier searches have left behind
and although an iteration makes no step where the top frame is for a session without an eligible
classroom. -/
theorem search_ends_unaided (sections : List Section) (classrooms : List Classroom)
    (slots : List TimeSlot) (preferences enrollments : List (String × List String))
    (maxSteps : Nat) (progress : Progress) :
    let p := Problem.build sections classrooms slots preferences enrollments
    let solver : ExactSolver := ⟨p, ⟨maxSteps, .never⟩, progress⟩
    let bound :=
      ∑ d ∈ Finset.Icc 1 sections.length, (classrooms.length * slots.toFinset.card) ^ d
    (∃ verdict after, solver.search = (verdict, { solver with progress := after }) ∧
      after.steps ≤ progress.steps + bound ∧
      (sections ≠ [] → ∃ k s, solver.Iterates k s ∧ k + 1 ≤ 2 * bound + 2 ∧
        s.step p solver.budget = .ended verdict after) ∧
      (progress.stopped = false → progress.steps + bound < maxSteps → verdict ≠ .outOfBudget)) ∧
    ∀ k s, solver.Iterates k s →
      s.progress.steps ≤ progress.steps + bound ∧
      k + 1 + 2 * progress.steps ≤ 2 * s.progress.steps + 2 ∧
      ∀ top below, s.frames = top :: below → top.remaining = none →
        eligibleClassrooms classrooms top.session.toSection = [] → progress.stopped = false →
        s.progress.steps < maxSteps → ∃ t, s.step p solver.budget = .continued t ∧
          t.frames = below ∧ t.progress.steps = s.progress.steps := by
  intro p solver bound
  have most : mostSteps p = bound := mostSteps_build ..
  have spends {k : Nat} {s : Position} (iterates : solver.Iterates k s) :
      s.progress.steps + s.allowance p ≤ progress.steps + bound ∧
        k + s.frames.length + 2 * progress.steps ≤ 2 * s.progress.steps + 1 := by
    rw [← most]
    exact iterates.spends.2
  constructor
  · by_cases busy : sections = []
    · subst busy
      refine ⟨.complete, progress, rfl, Nat.le_add_right _ _, ?_, fun _ _ => nofun⟩
      exact fun some => absurd rfl some
    · obtain ⟨k, s, verdict, after, iterates, ended, searched⟩ :=
        exists_iterates_ended (show solver.problem.sections ≠ [] from busy)
      obtain ⟨within, counted⟩ := spends iterates
      obtain ⟨more, last⟩ := Position.steps_le_of_ended ended
      have taken : after.steps ≤ progress.steps + bound := last.trans within
      refine ⟨verdict, after, searched, taken, ?_, ?_⟩
      · exact fun _ => ⟨k, s, iterates, by omega, ended⟩
      · rintro running spare rfl
        have moves := s.moves_step p solver.budget
        rw [ended] at moves
        cases moves with
        | ended _ _ _ _ _ _ _ _ cause =>
          rcases cause rfl with stopped | usedUp
          · rw [iterates.running running] at stopped
            cases stopped
          · have reached := usedUp.of_never
            omega
  · intro k s iterates
    obtain ⟨within, counted⟩ := spends iterates
    refine ⟨by omega, by omega, ?_⟩
    intro top below frames fresh noClassroom running spare
    exact Position.step_of_no_classroom frames fresh noClassroom (iterates.running running) spare rfl

end ExactSolver

end Timetabling
