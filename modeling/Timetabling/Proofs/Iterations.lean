import Timetabling.Proofs.ExactSearch

/-!
# Iterations of the exact search

The positions that a search takes at the head of its loop. Each of them is faithful: its frames are
for the first sections in the order of priority, and the assignments in force and the reservations
are what the frames have placed and nothing else. So a search that has tried everything leaves
nothing behind.
-/

namespace Timetabling

namespace Frame

def Takes (f : Frame) (resource : Resource) (key : String) : Prop :=
  ∃ c ∈ f.placement, c.slot.key = key ∧
    resource ∈ Reservations.occupied f.session.instructor c.classroom.id f.session.students

theorem takes_iff {f : Frame} {resource : Resource} {key : String} :
    f.Takes resource key ↔ ∃ l ∈ f.lesson?, l.slotKey = key ∧ resource ∈ l.resources := by
  obtain ⟨session, remaining, placement⟩ := f
  cases placement <;> simp [Takes, lesson?, Lesson.slotKey, Lesson.resources]

theorem exists_mem_lessons {frames : List Frame} {resource : Resource} {key : String} :
    (∃ l ∈ lessons frames, l.slotKey = key ∧ resource ∈ l.resources) ↔
      ∃ f ∈ frames, f.Takes resource key := by
  simp only [lessons, List.mem_filterMap, takes_iff, Option.mem_def]
  constructor
  · rintro ⟨l, ⟨f, membership, placed⟩, taken⟩
    exact ⟨f, membership, l, placed, taken⟩
  · rintro ⟨f, membership, l, placed, taken⟩
    exact ⟨l, ⟨f, membership, placed⟩, taken⟩

theorem pruned_unplace {f : Frame} {p : Progress} (pruned : p.reservations.Pruned) :
    (f.unplace p).2.reservations.Pruned := by
  unfold unplace
  split
  next => exact pruned
  next c _ => exact pruned.unplace f.session c

theorem reservations_next (problem : Problem) (budget : Budget) (f : Frame) (p : Progress) :
    (f.next problem budget p).2.2.reservations = p.reservations := by
  change (p.seek budget f.session (f.candidates problem p.reservations)).2.2.reservations = _
  generalize f.candidates problem p.reservations = cs
  have sought := Progress.sought_seek budget f.session p cs
  generalize p.seek budget f.session cs = result at sought ⊢
  cases sought <;> rfl

theorem pairwise_takes {frames : List Frame} (apart : Lesson.Apart (lessons frames))
    (resource : Resource) (key : String) :
    frames.Pairwise fun f g => ¬ (f.Takes resource key ∧ g.Takes resource key) := by
  refine (List.pairwise_filterMap.mp apart).imp ?_
  rintro f g separate ⟨first, second⟩
  obtain ⟨l, placed, key₁, ofFirst⟩ := takes_iff.mp first
  obtain ⟨m, placed', key₂, ofSecond⟩ := takes_iff.mp second
  exact separate l placed m placed'
    (Lesson.clash_iff.mpr ⟨key₁.trans key₂.symm, resource, ofFirst, ofSecond⟩)

end Frame

namespace Position

/-- A position holds no more and no less than what its frames have placed. -/
structure Faithful (problem : Problem) (s : Position) : Prop where
  /-- Counted from the bottom, each frame is for the section with its number in the order of
  priority. -/
  agenda_getElem? : ∀ (i : Nat) (f : Frame), s.frames.reverse[i]? = some f →
    problem.agenda[i]? = some f.session
  placed_below : ∀ f ∈ s.frames.tail, f.placement.isSome = true
  placed_eq : s.progress.placed.reverse =
    s.frames.reverse.filterMap fun f => f.placement.map (Assignment.place f.session.toSection)
  mem_usedKeys : ∀ resource key, key ∈ s.progress.reservations.usedKeys resource ↔
    ∃ f ∈ s.frames, f.Takes resource key
  /-- What is reserved has one owner. -/
  owners : ∀ resource key,
    s.frames.Pairwise fun f g => ¬ (f.Takes resource key ∧ g.Takes resource key)

theorem Coherent.faithful {problem : Problem} {s : Position}
    (coherent : s.Coherent problem problem.agenda) : s.Faithful problem where
  agenda_getElem? i f here := by
    have session : ((s.frames.map Frame.session).reverse)[i]? = some f.session := by
      rw [← List.map_reverse, List.getElem?_map, here, Option.map_some]
    have bound := (List.getElem?_eq_some_iff.mp session).1
    rw [← coherent.agenda_eq, List.getElem?_append_left bound, session]
  placed_below := coherent.placed_below
  placed_eq := by
    rw [coherent.holds.placed, Frame.lessons, List.map_filterMap, ← List.filterMap_reverse]
    congr 1
    funext f
    cases placed : f.placement <;> simp [Frame.lesson?, placed, Lesson.assignment]
  mem_usedKeys resource key :=
    (coherent.holds.books.mem_usedKeys resource key).trans Frame.exists_mem_lessons
  owners := Frame.pairwise_takes coherent.holds.apart

/-- Only a position without frames ends a search that has not been stopped and has not succeeded. -/
theorem frames_of_step_exhausted {problem : Problem} {budget : Budget} {agenda : List Session}
    {s : Position} {p : Progress} (coherent : s.Coherent problem agenda) (within : s.Within budget)
    (ended : s.step problem budget = .ended .exhausted p) : s.frames = [] ∧ s.progress = p := by
  have advance := advance_step coherent within
  rw [ended] at advance
  cases advance with
  | exhausted empty => exact ⟨empty, rfl⟩

def Outcome.progress : Outcome → Progress
  | .ended _ p => p
  | .continued t => t.progress

theorem pruned_settle {below : List Frame} {pending : List Session}
    {result : Option Placement × Frame × Progress} (pruned : result.2.2.reservations.Pruned) :
    (settle below pending result).progress.reservations.Pruned := by
  obtain ⟨found, f, p⟩ := result
  by_cases stopped : p.stopped = true
  · simp only [settle, if_pos stopped]
    exact pruned
  · simp only [settle, if_neg stopped]
    cases found with
    | none => exact pruned
    | some c => cases pending <;> exact pruned.place f.session c

theorem pruned_step {problem : Problem} {budget : Budget} {s : Position}
    (pruned : s.progress.reservations.Pruned) :
    (s.step problem budget).progress.reservations.Pruned := by
  obtain ⟨frames, pending, progress⟩ := s
  cases frames with
  | nil => exact pruned
  | cons top below =>
    cases checked : progress.checkBudget budget with
    | mk spent p =>
      cases spent with
      | true =>
        rw [step_stopped checked]
        obtain ⟨readings, rfl, -⟩ := Progress.checkBudget_true checked
        exact pruned
      | false =>
        rw [step_settle checked]
        obtain ⟨-, rfl⟩ := Progress.checkBudget_false checked
        apply pruned_settle
        exact (Frame.reservations_next problem budget _ _).symm ▸ Frame.pruned_unplace pruned

end Position

namespace ExactSolver

/-- The positions that a search takes at the head of its loop. -/
inductive Visits (solver : ExactSolver) : Position → Prop
  | start {first : Session} {later : List Session} (order : solver.order = first :: later) :
      Visits solver ⟨[{ session := first }], later, solver.progress⟩
  | next {s t : Position} (visited : Visits solver s)
      (continued : s.step solver.problem solver.budget = .continued t) : Visits solver t

/-- From a visited position a run ends at a visited one. -/
theorem Visits.exists_ended {solver : ExactSolver} {s : Position} (visited : solver.Visits s) :
    ∃ t, solver.Visits t ∧ t.step solver.problem solver.budget =
      .ended (Position.run solver.problem solver.budget s).1
        (Position.run solver.problem solver.budget s).2 := by
  fun_induction Position.run solver.problem solver.budget s with
  | case1 s verdict p ended => exact ⟨s, visited, ended⟩
  | case2 s t continued ih => exact ih (visited.next continued)

variable {p : Problem} {budget : Budget} {s : Position}

theorem Visits.coherent (visited : (fresh p budget).Visits s) :
    s.Coherent p p.agenda ∧ s.Within budget ∧ s.progress.reservations.Pruned := by
  induction visited with
  | start order =>
    have agenda : p.agenda = _ := order
    rw [agenda]
    exact ⟨Position.coherent_initial p _ _,
      ⟨Nat.zero_le _, fun empty => absurd empty (List.cons_ne_nil _ _)⟩, Reservations.pruned_empty⟩
  | next visited continued ih =>
    obtain ⟨coherent, within, pruned⟩ := ih
    have advance := Position.advance_step coherent within
    have kept := @Position.pruned_step p budget _ pruned
    change Position.step p budget _ = _ at continued
    rw [continued] at advance kept
    cases advance with
    | continued _ _ coherent within => exact ⟨coherent, within, kept⟩

/-- A search that has tried everything has come to a position without frames. -/
theorem exists_visits_of_exhausted {after : ExactSolver}
    (ended : (fresh p budget).search = (.exhausted, after)) :
    ∃ s, (fresh p budget).Visits s ∧ s.frames = [] ∧ s.progress = after.progress := by
  unfold search at ended
  split at ended
  next => cases ended
  next first later order =>
    obtain ⟨s, visited, last⟩ := (Visits.start order).exists_ended
    obtain ⟨verdict, rfl⟩ := Prod.mk.inj ended
    rw [verdict] at last
    obtain ⟨coherent, within, -⟩ := visited.coherent
    obtain ⟨empty, same⟩ := Position.frames_of_step_exhausted coherent within last
    exact ⟨s, visited, empty, same⟩

/-- Every position that a fresh solver visits is faithful, whatever its budget; and if the search
ends because everything has been tried, reservations and assignments are as they were before it. -/
theorem search_keeps_books (p : Problem) (budget : Budget) :
    (∀ s, (fresh p budget).Visits s → s.Faithful p) ∧
      ∀ after, (fresh p budget).search = (.exhausted, after) →
        after.progress.reservations.size = 0 ∧
          after.progress.reservations = (fresh p budget).progress.reservations ∧
          after.progress.placed = [] := by
  refine ⟨fun s visited => visited.coherent.1.faithful, fun after ended => ?_⟩
  obtain ⟨s, visited, empty, same⟩ := exists_visits_of_exhausted ended
  obtain ⟨coherent, -, pruned⟩ := visited.coherent
  have holds := coherent.holds
  rw [empty, same] at holds
  rw [same] at pruned
  have nothing : after.progress.reservations = {} := by
    apply pruned.eq_empty
    intro resource
    apply List.eq_nil_iff_forall_not_mem.mpr
    intro key reserved
    obtain ⟨l, membership, -⟩ := (holds.books.mem_usedKeys resource key).mp reserved
    cases membership
  exact ⟨by rw [nothing]; rfl, nothing, holds.placed⟩

end ExactSolver

end Timetabling
