import Timetabling.Proofs.ExactSearch
import Timetabling.Proofs.Renaming.Basic

/-!
# The exact search under new names

The depth-first search tries the same placements in the same order under the new names, and follows
the same ones, since it asks nothing but which lessons clash and how often a classroom is in use. So
the exact solver reports the same timetable under the new names after the same steps.
-/

namespace Timetabling.Renaming

variable (ρ : Renaming)

def finding (q : Problem) (f : Finding) : Finding :=
  { f with lessons := f.lessons.map (List.map (ρ.lesson q)) }

def report (r : ExactSolver.Report) : ExactSolver.Report :=
  { r with timetable := r.timetable.map ρ.timetable }

variable {ρ} {p q : Problem} {placed : List Lesson} {session : Session}

theorem finding_after (f : Finding) (earlier : Nat) :
    ρ.finding q (f.after earlier) = (ρ.finding q f).after earlier := rfl

theorem finding_orElse (first second : Finding) :
    ρ.finding q (first.orElse second) = (ρ.finding q first).orElse (ρ.finding q second) := by
  obtain ⟨lessons | lessons, steps⟩ := first <;> rfl

theorem prefers_map (q : Problem) (placed : List Lesson) (a b : Classroom) :
    Lesson.prefers (placed.map (ρ.lesson q)) (ρ.room a) (ρ.room b) =
      Lesson.prefers placed a b := by
  have used (r : Classroom) : Lesson.keysIn (placed.map (ρ.lesson q)) (ρ.room r).id =
      Lesson.keysIn placed r.id := keysIn_map q placed r.id
  unfold Lesson.prefers
  rw [used, used]
  rfl

/-- Where the descents find the same, and the same placements clash, the trials find the same. -/
theorem tryEach_map {descend descend' : List Lesson → Finding}
    (separate : ∀ c, (∀ other ∈ placed.map (ρ.lesson q), ¬ (ρ.lesson q ⟨session, c⟩).Clash other) ↔
      ∀ other ∈ placed, ¬ (⟨session, c⟩ : Lesson).Clash other)
    (descends : ∀ c, descend' ((⟨session, c⟩ :: placed).map (ρ.lesson q)) =
      ρ.finding q (descend (⟨session, c⟩ :: placed))) (cs : List Placement) :
    tryEach descend' (placed.map (ρ.lesson q)) (ρ.session q session) (cs.map ρ.placement) =
      ρ.finding q (tryEach descend placed session cs) := by
  induction cs with
  | nil => rfl
  | cons c rest ih =>
    have here : (⟨ρ.session q session, ρ.placement c⟩ : Lesson) = ρ.lesson q ⟨session, c⟩ := rfl
    rw [List.map_cons, tryEach, tryEach, here]
    by_cases free : ∀ other ∈ placed, ¬ (⟨session, c⟩ : Lesson).Clash other
    · rw [if_pos ((separate c).mpr free), if_pos free, ih, finding_after, finding_orElse,
        ← descends c, List.map_cons]
    · rw [if_neg fun free' => free ((separate c).mp free'), if_neg free, ih, finding_after]

namespace Carries

variable (carries : ρ.Carries p q)

include carries

theorem placementsAfter_eq (placed : List Lesson) (session : Session) :
    q.placementsAfter (placed.map (ρ.lesson q)) (ρ.session q session) =
      (p.placementsAfter placed session).map ρ.placement := by
  have section_eq : (ρ.session q session).toSection = ρ.sec session.toSection := rfl
  unfold Problem.placementsAfter
  rw [carries.classrooms_eq, carries.slots_eq, section_eq, eligibleClassrooms_map,
    stableSort_map (prefers_map q placed), List.flatMap_map, List.map_flatMap]
  simp only [List.map_map]
  rfl

theorem depthFirst_eq {sessions : List Session}
    (listed : p.Listed (sessions ++ placed.map Lesson.session)) :
    q.depthFirst (sessions.map (ρ.session q)) (placed.map (ρ.lesson q)) =
      ρ.finding q (p.depthFirst sessions placed) := by
  induction sessions generalizing placed with
  | nil => rfl
  | cons session later ih =>
    rw [List.map_cons, Problem.depthFirst, Problem.depthFirst, carries.placementsAfter_eq]
    apply tryEach_map
    · intro c
      exact listed.separate_iff carries c
    · intro c
      exact ih (listed.place c)

theorem agenda_eq : q.agenda = p.agenda.map (ρ.session q) := by
  unfold Problem.agenda
  rw [carries.sections_eq, priorityOrder_map, List.map_map, List.map_map]
  rfl

theorem exploration_eq (nodup : p.sectionIds.Nodup) :
    q.exploration = ρ.finding q p.exploration := by
  have listed : p.Listed (p.agenda ++ ([] : List Lesson).map Lesson.session) := by
    rw [List.map_nil, List.append_nil]
    exact (Problem.listed_sessions nodup).perm p.agenda_perm.symm
  unfold Problem.exploration
  rw [carries.agenda_eq]
  exact carries.depthFirst_eq listed

theorem unlimited_eq (nodup : p.sectionIds.Nodup) :
    ExactSolver.unlimited q = ρ.report (ExactSolver.unlimited p) := by
  have found := carries.exploration_eq nodup
  have assignments : q.exploration.assignments = p.exploration.assignments.map ρ.assignment := by
    rw [found]
    unfold Finding.assignments finding
    cases p.exploration.lessons with
    | none => rfl
    | some lessons =>
      simp only [Option.map_some, Option.getD_some, ← List.map_reverse, List.map_map]
      rfl
  unfold ExactSolver.unlimited report
  rw [assignments, carries.statistics_eq, found]
  simp only [finding, Option.map_map]
  rfl

theorem report_eq (nodup : p.sectionIds.Nodup) (maxSteps : Nat) :
    ExactSolver.report q maxSteps = ρ.report (ExactSolver.report p maxSteps) := by
  have fits : (ExactSolver.unlimited q).Fits maxSteps ↔
      (ExactSolver.unlimited p).Fits maxSteps := by
    rw [carries.unlimited_eq nodup]
    unfold ExactSolver.Report.Fits report
    rw [Option.isSome_map]
  rw [ExactSolver.report_eq, ExactSolver.report_eq]
  by_cases within : (ExactSolver.unlimited p).Fits maxSteps
  · rw [if_pos within, if_pos (fits.mpr within), carries.unlimited_eq nodup]
  · rw [if_neg within, if_neg fun within' => within (fits.mp within')]
    rfl

end Carries

end Timetabling.Renaming
