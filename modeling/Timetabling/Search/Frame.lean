import Timetabling.Search.Candidates
import Timetabling.Search.Budget

/-!
# Frames of the exact search

The exact search keeps one frame for each session under consideration. A frame holds the candidates
that are still to be tried, which are put in order when the first of them is drawn, and the
placement that is in force. What all frames share is the progress: reservations, assignments, steps,
clock readings, and whether the budget has stopped the search.
-/

namespace Timetabling

structure Progress where
  reservations : Reservations := {}
  /-- The assignments in force, the latest first. -/
  placed : List Assignment := []
  steps : Nat := 0
  readings : Nat := 0
  stopped : Bool := false

structure Frame where
  session : Session
  /-- The candidates still to be tried, once they have been put in order. -/
  remaining : Option (List Placement) := none
  placement : Option Placement := none

namespace Progress

/-- Whether the budget is used up. The clock is read only while steps are left. -/
def checkBudget (budget : Budget) (p : Progress) : Bool × Progress :=
  if budget.maxSteps ≤ p.steps then (true, p)
  else (budget.deadline p.readings, { p with readings := p.readings + 1 })

def count (p : Progress) : Progress :=
  { p with steps := p.steps + 1 }

def stop (p : Progress) : Progress :=
  { p with stopped := true }

/-- Tries candidates until one fits, none is left or the budget stops the search. The result is the
candidate that fits and the candidates left. -/
def seek (budget : Budget) (session : Session) (p : Progress) :
    List Placement → Option Placement × List Placement × Progress
  | [] => (none, [], p)
  | c :: rest =>
    if fits session c p.reservations then (some c, rest, p.count)
    else
      match p.count.checkBudget budget with
      | (true, p') => (none, rest, p'.stop)
      | (false, p') => seek budget session p' rest

theorem seek_some {budget : Budget} {session : Session} {cs rest : List Placement}
    {p p' : Progress} {c : Placement} (h : p.seek budget session cs = (some c, rest, p')) :
    rest.length < cs.length := by
  induction cs generalizing p with
  | nil => simp [seek] at h
  | cons d ds ih =>
    unfold seek at h
    split at h
    next => simp_all
    next =>
      split at h
      next => simp at h
      next => exact Nat.lt_succ_of_lt (ih h)

end Progress

namespace Frame

def candidates (problem : Problem) (r : Reservations) (f : Frame) : List Placement :=
  f.remaining.getD (problem.candidates f.session.toSection r)

/-- An upper bound on the number of candidates still to be tried. -/
def width (problem : Problem) (f : Frame) : Nat :=
  match f.remaining with
  | some cs => cs.length
  | none => problem.classrooms.length * problem.slots.length

def next (problem : Problem) (budget : Budget) (f : Frame) (p : Progress) :
    Option Placement × Frame × Progress :=
  let (found, rest, p') := p.seek budget f.session (f.candidates problem p.reservations)
  (found, { f with remaining := some rest }, p')

def place (f : Frame) (c : Placement) (p : Progress) : Frame × Progress :=
  ({ f with placement := some c },
    { p with
      reservations := p.reservations.place f.session c
      placed := Assignment.place f.session.toSection c :: p.placed })

/-- Takes back the placement in force, which is the latest one. -/
def unplace (f : Frame) (p : Progress) : Frame × Progress :=
  match f.placement with
  | none => (f, p)
  | some c =>
    ({ f with placement := none },
      { p with
        reservations := p.reservations.unplace f.session c
        placed := p.placed.tail })

theorem length_candidates_le (problem : Problem) (r : Reservations) (f : Frame) :
    (f.candidates problem r).length ≤ f.width problem := by
  unfold candidates width
  cases f.remaining with
  | some cs => simp
  | none => exact problem.length_candidates_le f.session.toSection r

@[simp] theorem width_unplace (problem : Problem) (f : Frame) (p : Progress) :
    (f.unplace p).1.width problem = f.width problem := by
  unfold unplace
  split <;> rfl

@[simp] theorem width_place (problem : Problem) (f : Frame) (c : Placement) (p : Progress) :
    (f.place c p).1.width problem = f.width problem :=
  rfl

theorem width_next_lt {problem : Problem} {budget : Budget} {f f' : Frame} {p p' : Progress}
    {c : Placement} (h : f.next problem budget p = (some c, f', p')) :
    f'.width problem < f.width problem := by
  unfold next at h
  cases hs : p.seek budget f.session (f.candidates problem p.reservations) with
  | mk found r =>
    obtain ⟨rest, q⟩ := r
    rw [hs] at h
    simp only [Prod.mk.injEq] at h
    obtain ⟨rfl, rfl, -⟩ := h
    exact Nat.lt_of_lt_of_le (Progress.seek_some hs) (f.length_candidates_le problem p.reservations)

end Frame

end Timetabling
