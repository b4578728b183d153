import Timetabling.Search.Frame
import Timetabling.Problem.Statistics

/-!
# The exact search

Depth-first search over the sessions in priority order. The search keeps its own stack of frames, so
its depth is not bounded by anything but the number of sessions, and it can be stopped between two
steps. It ends for every budget: `potential` bounds the iterations still possible and falls in each
of them.
-/

namespace Timetabling

/-- Where a search stands: the frames, the deepest first, the sessions that have no frame yet, and
the progress. -/
structure Position where
  frames : List Frame
  pending : List Session
  progress : Progress

inductive Verdict where
  | complete
  | exhausted
  | outOfBudget
deriving DecidableEq, Repr

namespace Position

/-- The iterations that one candidate can cost when the given number of sessions has no frame yet:
its own, and those of a new frame for the next session. -/
def candidateCost (width : Nat) : Nat → Nat
  | 0 => 1
  | later + 1 => 2 + width * candidateCost width later

/-- The iterations that frames can still cost, when the given number of sessions has no frame yet.
-/
def potential (problem : Problem) : List Frame → Nat → Nat
  | [], _ => 0
  | f :: below, later =>
    1 + f.width problem * candidateCost (problem.classrooms.length * problem.slots.length) later +
      potential problem below (later + 1)

inductive Outcome where
  | ended (verdict : Verdict) (progress : Progress)
  | continued (position : Position)

/-- One iteration: the top frame gives up its placement and looks for its next candidate. A
candidate is put in force and the next session gets a frame; without one the frame is dropped. -/
def step (problem : Problem) (budget : Budget) (s : Position) : Outcome :=
  match s.frames with
  | [] => .ended .exhausted s.progress
  | top :: below =>
    match s.progress.checkBudget budget with
    | (true, p) => .ended .outOfBudget p.stop
    | (false, p) =>
      let (freed, p₁) := top.unplace p
      match freed.next problem budget p₁ with
      | (found, f, p₂) =>
        if p₂.stopped then .ended .outOfBudget p₂
        else
          match found with
          | none => .continued ⟨below, f.session :: s.pending, p₂⟩
          | some c =>
            let (f', p₃) := f.place c p₂
            match s.pending with
            | [] => .ended .complete p₃
            | next :: later => .continued ⟨{ session := next } :: f' :: below, later, p₃⟩

theorem potential_step {problem : Problem} {budget : Budget} {s t : Position}
    (h : s.step problem budget = .continued t) :
    potential problem t.frames t.pending.length < potential problem s.frames s.pending.length := by
  obtain ⟨frames, pending, progress⟩ := s
  cases frames with
  | nil => simp [step] at h
  | cons top below =>
    simp only [step] at h
    cases hb : progress.checkBudget budget with
    | mk isOver p =>
    cases isOver with
    | true => simp [hb] at h
    | false =>
    cases hn : (top.unplace p).1.next problem budget (top.unplace p).2 with
    | mk found rest =>
    obtain ⟨f, p₂⟩ := rest
    simp only [hb, hn] at h
    cases hs : p₂.stopped with
    | true => simp [hs] at h
    | false =>
    cases found with
    | none =>
      simp only [hs, Bool.false_eq_true, if_false, Outcome.continued.injEq] at h
      subst h
      simp only [potential, List.length_cons]
      omega
    | some c =>
      have hw := Frame.width_next_lt hn
      rw [Frame.width_unplace] at hw
      cases pending with
      | nil => simp [hs] at h
      | cons next later =>
        simp only [hs, Bool.false_eq_true, if_false, Outcome.continued.injEq] at h
        subst h
        simp only [potential, List.length_cons, Frame.width_place]
        have fresh : Frame.width problem { session := next } =
            problem.classrooms.length * problem.slots.length := rfl
        rw [fresh]
        generalize problem.classrooms.length * problem.slots.length = width
        have key : (f.width problem + 1) * candidateCost width (later.length + 1) ≤
            top.width problem * candidateCost width (later.length + 1) :=
          Nat.mul_le_mul_right _ hw
        rw [Nat.add_mul, Nat.one_mul] at key
        have cost : candidateCost width (later.length + 1) =
            2 + width * candidateCost width later.length := rfl
        omega

def run (problem : Problem) (budget : Budget) (s : Position) : Verdict × Progress :=
  match _h : s.step problem budget with
  | .ended verdict p => (verdict, p)
  | .continued t => run problem budget t
termination_by potential problem s.frames s.pending.length
decreasing_by exact potential_step _h

end Position

/-- An exact solver: a problem, its budget, and the progress that consecutive searches share. -/
structure ExactSolver where
  problem : Problem
  budget : Budget
  progress : Progress := {}

namespace ExactSolver

def order (solver : ExactSolver) : List Session :=
  (priorityOrder solver.problem.sections).map solver.problem.session

def search (solver : ExactSolver) : Verdict × ExactSolver :=
  match solver.order with
  | [] => (.complete, solver)
  | first :: later =>
    let (verdict, p) :=
      Position.run solver.problem solver.budget ⟨[{ session := first }], later, solver.progress⟩
    (verdict, { solver with progress := p })

def solve (solver : ExactSolver) : Option Timetable × ExactSolver :=
  match solver.search with
  | (.complete, after) =>
    let assignments := after.progress.placed.reverse
    let statistics := solver.problem.statistics assignments .backtracking
    (some ⟨assignments, { statistics with steps := some after.progress.steps }⟩, after)
  | (_, after) => (none, after)

end ExactSolver

end Timetabling
