import Timetabling.Proofs.Outcome
import Timetabling.Proofs.Renaming.ExactSearch
import Timetabling.Proofs.Renaming.Genomes
import Timetabling.Proofs.Stages

/-!
# Solves under new names

Two evolutions from one source, of a problem and of the same problem under new names, go through
stages that `Renaming.Follows` relates: the same numbers have been drawn, and what one holds is what
the other holds under the new names. Together with the exact search this makes the outcome of a
solve the same under the new names.
-/

namespace Timetabling

namespace Renaming

open GeneticSolver (Serves Stage)

variable (ρ : Renaming)

def generation (g : Generation) : Generation :=
  g.map ρ.individual

def evolution (e : Evolution) : Evolution :=
  ⟨e.best.map ρ.individual, e.generations.map ρ.generation⟩

variable {ρ} {p q : Problem}

theorem ranked_map (g : Generation) : (ρ.generation g).ranked = g.ranked.map ρ.individual :=
  stableSort_map (fun _ _ => rfl) g

theorem champion?_map (g : Generation) :
    (ρ.generation g).champion? = g.champion?.map ρ.individual := by
  unfold Generation.champion?
  rw [ranked_map, List.find?_map]
  rfl

theorem betterOf_map (best champion : Option Individual) :
    betterOf (best.map ρ.individual) (champion.map ρ.individual) =
      (betterOf best champion).map ρ.individual := by
  cases best with
  | none => rfl
  | some x =>
    cases champion with
    | none => rfl
    | some y =>
      have beats : (ρ.individual y).beats (ρ.individual x) = y.beats x := rfl
      unfold betterOf
      simp only [Option.map_some, beats]
      split <;> rfl

theorem reachesThreshold_map (settings : Settings) (best : Option Individual) :
    GeneticSolver.reachesThreshold settings (best.map ρ.individual) =
      GeneticSolver.reachesThreshold settings best := by
  cases best <;> rfl

variable {σ : Type}

/-- Two solvers that have gone the same way, one with a problem and the other with the same problem
under new names. Their caches may know different genomes, as long as they know nothing wrong. -/
structure Parallel (p q : Problem) (solver solver' : GeneticSolver σ) : Prop where
  before : solver.Serves p solver.settings
  after : solver'.Serves q solver.settings
  source_eq : solver'.source = solver.source
  deadline_eq : solver'.deadline = solver.deadline
  generationsRun_eq : solver'.generationsRun = solver.generationsRun
  readings_eq : solver'.readings = solver.readings

namespace Parallel

variable {solver solver' : GeneticSolver σ}

theorem startGeneration (parallel : Parallel p q solver solver') :
    Parallel p q solver.startGeneration solver'.startGeneration where
  before := parallel.before.startGeneration
  after := parallel.after.startGeneration
  source_eq := parallel.source_eq
  deadline_eq := parallel.deadline_eq
  generationsRun_eq := congrArg Nat.succ parallel.generationsRun_eq
  readings_eq := parallel.readings_eq

theorem readClock (parallel : Parallel p q solver solver') :
    solver'.readClock.1 = solver.readClock.1 ∧
      Parallel p q solver.readClock.2 solver'.readClock.2 := by
  constructor
  · unfold GeneticSolver.readClock
    rw [parallel.deadline_eq, parallel.readings_eq]
  · exact ⟨parallel.before.readClock, parallel.after.readClock, parallel.source_eq,
      parallel.deadline_eq, parallel.generationsRun_eq, congrArg Nat.succ parallel.readings_eq⟩

theorem draw {α β : Type} {f : α → β} {operation : σ → α × σ} {operation' : σ → β × σ}
    (parallel : Parallel p q solver solver')
    (same : ∀ s, operation' s = Prod.map f id (operation s)) :
    (solver'.draw operation').1 = f (solver.draw operation).1 ∧
      Parallel p q (solver.draw operation).2 (solver'.draw operation').2 := by
  obtain ⟨before, after, source_eq, deadline_eq, generationsRun_eq, readings_eq⟩ := parallel
  unfold GeneticSolver.draw
  rw [source_eq, same]
  refine ⟨rfl, ?_, ?_, rfl, deadline_eq, generationsRun_eq, readings_eq⟩
  · exact ⟨before.problem_eq, rfl, before.cache_sound⟩
  · exact ⟨after.problem_eq, after.settings_eq, after.cache_sound⟩

end Parallel

namespace Carries

variable (carries : ρ.Carries p q) {solver solver' : GeneticSolver σ}

include carries

theorem timetable_eq (parallel : Parallel p q solver solver') (x : Individual) :
    solver'.timetable (ρ.individual x) = ρ.timetable (solver.timetable x) := by
  unfold GeneticSolver.timetable timetable
  simp only [parallel.before.problem_eq, parallel.after.problem_eq, parallel.generationsRun_eq,
    carries.sections_eq, individual, decode_map, carries.statistics_eq]
  rfl

theorem evaluate_parallel (nodup : p.sectionIds.Nodup) (parallel : Parallel p q solver solver')
    (genome : Genome) :
    (solver'.evaluate q.loci (ρ.genome genome)).1 = (solver.evaluate p.loci genome).1 ∧
      Parallel p q (solver.evaluate p.loci genome).2
        (solver'.evaluate q.loci (ρ.genome genome)).2 := by
  obtain ⟨evaluated, served⟩ := parallel.before.evaluate genome
  obtain ⟨evaluated', served'⟩ := parallel.after.evaluate (ρ.genome genome)
  constructor
  · -- Only one cache may hold the genome; either way both answer what it evaluates to.
    rw [evaluated, evaluated', carries.evaluate_eq nodup]
  · exact ⟨served, served', parallel.source_eq, parallel.deadline_eq,
      parallel.generationsRun_eq, parallel.readings_eq⟩

theorem evaluateAll_parallel (nodup : p.sectionIds.Nodup) (population : List Genome)
    (parallel : Parallel p q solver solver') :
    (solver'.evaluateAll q.loci (population.map ρ.genome)).1 =
        (solver.evaluateAll p.loci population).1.map ρ.generation ∧
      Parallel p q (solver.evaluateAll p.loci population).2
        (solver'.evaluateAll q.loci (population.map ρ.genome)).2 := by
  induction population generalizing solver solver' with
  | nil => exact ⟨rfl, parallel⟩
  | cons genome rest ih =>
    obtain ⟨evaluated, next⟩ := carries.evaluate_parallel nodup parallel genome
    rw [List.map_cons, GeneticSolver.evaluateAll, GeneticSolver.evaluateAll]
    generalize solver.evaluate p.loci genome = first at evaluated next ⊢
    generalize solver'.evaluate q.loci (ρ.genome genome) = first' at evaluated next ⊢
    obtain ⟨result, solver₁⟩ := first
    obtain ⟨result', solver₁'⟩ := first'
    obtain rfl : result' = result := evaluated
    cases result' with
    | error fault => exact ⟨rfl, next⟩
    | ok e =>
      obtain ⟨evaluatedRest, last⟩ := ih next
      simp only at evaluatedRest last ⊢
      generalize solver₁.evaluateAll p.loci rest = later at evaluatedRest last ⊢
      generalize solver₁'.evaluateAll q.loci (rest.map ρ.genome) = later' at evaluatedRest last ⊢
      obtain ⟨others, solver₂⟩ := later
      obtain ⟨others', solver₂'⟩ := later'
      obtain rfl : others' = others.map ρ.generation := evaluatedRest
      cases others with
      | error fault => exact ⟨rfl, last⟩
      | ok others => exact ⟨rfl, last⟩

variable [RandomSource σ]

theorem initialPopulation_parallel (nodup : p.sectionIds.Nodup)
    (parallel : Parallel p q solver solver') :
    solver'.initialPopulation.1 = solver.initialPopulation.1.map ρ.genome ∧
      Parallel p q solver.initialPopulation.2 solver'.initialPopulation.2 := by
  unfold GeneticSolver.initialPopulation
  apply parallel.draw
  intro s
  rw [parallel.before.problem_eq, parallel.after.problem_eq, parallel.after.settings_eq,
    carries.slots_eq]
  exact carries.randomPopulation_eq nodup _ _ s

theorem nextPopulation_parallel (parallel : Parallel p q solver solver') (g : Generation) :
    (solver'.nextPopulation q.loci (ρ.generation g)).1 =
        (solver.nextPopulation p.loci g).1.map ρ.genome ∧
      Parallel p q (solver.nextPopulation p.loci g).2
        (solver'.nextPopulation q.loci (ρ.generation g)).2 := by
  have elite : ((ρ.generation g).ranked.take solver.settings.eliteCount).map Individual.genome =
      ((g.ranked.take solver.settings.eliteCount).map Individual.genome).map ρ.genome := by
    rw [ranked_map, ← List.map_take, List.map_map, List.map_map]
    rfl
  have drawn : ∀ (missing : Nat) (s : σ), GeneticSolver.breed q.slots q.loci solver.settings
      (ρ.generation g).ranked missing s = Prod.map (List.map ρ.genome) id
        (GeneticSolver.breed p.slots p.loci solver.settings g.ranked missing s) := by
    intro missing s
    rw [ranked_map, carries.loci_eq, carries.slots_eq, breed_map]
  unfold GeneticSolver.nextPopulation
  simp only [parallel.before.problem_eq, parallel.after.problem_eq, parallel.after.settings_eq,
    elite, List.length_map]
  obtain ⟨bred, later⟩ := parallel.draw (drawn _)
  refine ⟨?_, later⟩
  rw [bred, List.map_append]

end Carries

variable [RandomSource σ]

variable (ρ) in
/-- Two stages on the same way. -/
structure Follows (p q : Problem) (s t : Stage σ) : Prop where
  solver : Parallel p q s.solver t.solver
  best_eq : t.best = s.best.map ρ.individual
  population_eq : t.population = s.population.map ρ.genome
  remaining_eq : t.remaining = s.remaining

variable (ρ) in
inductive Outcomes (p q : Problem) : Stage.Outcome σ → Stage.Outcome σ → Prop
  | finished : Outcomes p q .finished .finished
  | failed (fault : ArithmeticFault) (after after' : GeneticSolver σ)
      (parallel : Parallel p q after after') :
      Outcomes p q (.failed fault after) (.failed fault after')
  | ended (g : Generation) (best : Option Individual) (after after' : GeneticSolver σ)
      (parallel : Parallel p q after after') :
      Outcomes p q (.ended g best after)
        (.ended (ρ.generation g) (best.map ρ.individual) after')
  | continued (g : Generation) (next next' : Stage σ) (follows : ρ.Follows p q next next') :
      Outcomes p q (.continued g next) (.continued (ρ.generation g) next')

section Stages

variable (carries : ρ.Carries p q) (nodup : p.sectionIds.Nodup)

include carries nodup

theorem Follows.step {s t : Stage σ} (follows : ρ.Follows p q s t) :
    ρ.Outcomes p q (s.step p.loci) (t.step q.loci) := by
  obtain ⟨evaluated, next⟩ :=
    carries.evaluateAll_parallel nodup s.population follows.solver.startGeneration
  rw [← follows.population_eq] at evaluated next
  unfold Stage.step
  rw [follows.remaining_eq]
  cases s.remaining with
  | zero => exact .finished
  | succ remaining =>
    generalize s.solver.startGeneration.evaluateAll p.loci s.population = result
      at evaluated next ⊢
    generalize t.solver.startGeneration.evaluateAll q.loci t.population = result'
      at evaluated next ⊢
    obtain ⟨g, waiting⟩ := result
    obtain ⟨g', waiting'⟩ := result'
    obtain rfl : g' = g.map ρ.generation := evaluated
    cases g with
    | error fault => exact .failed fault waiting waiting' next
    | ok g =>
      have best_eq : t.bestAfter (ρ.generation g) = (s.bestAfter g).map ρ.individual := by
        unfold Stage.bestAfter
        rw [follows.best_eq, champion?_map, betterOf_map]
      have threshold :
          GeneticSolver.reachesThreshold t.solver.settings (t.bestAfter (ρ.generation g)) =
            GeneticSolver.reachesThreshold s.solver.settings (s.bestAfter g) := by
        rw [best_eq, follows.solver.after.settings_eq, reachesThreshold_map]
      simp only [Except.map]
      rw [threshold, best_eq]
      split
      next => exact .ended g _ waiting waiting' next
      next =>
        obtain ⟨sameTime, later⟩ := next.readClock
        simp only at sameTime later
        generalize waiting.readClock = clock at sameTime later ⊢
        generalize waiting'.readClock = clock' at sameTime later ⊢
        obtain ⟨timeUp, waiting₁⟩ := clock
        obtain ⟨timeUp', waiting₁'⟩ := clock'
        obtain rfl : timeUp' = timeUp := sameTime
        cases timeUp' with
        | true => exact .ended g _ waiting₁ waiting₁' later
        | false =>
          obtain ⟨population_eq, last⟩ := carries.nextPopulation_parallel later g
          exact .continued g _ _ ⟨last, rfl, population_eq, rfl⟩

theorem Follows.run {s t : Stage σ} (follows : ρ.Follows p q s t) :
    (t.run q.loci).1 = (s.run p.loci).1.map ρ.evolution ∧
      Parallel p q (s.run p.loci).2 (t.run q.loci).2 := by
  -- The induction follows the first stage; the second one keeps up with it.
  induction s using Stage.stepInduction (σ := σ) p.loci generalizing t with
  | round s ih =>
    have outcomes := follows.step carries nodup
    rw [Stage.run_eq, Stage.run_eq]
    generalize s.step p.loci = outcome at outcomes ih ⊢
    generalize t.step q.loci = outcome' at outcomes ⊢
    cases outcomes with
    | finished =>
      refine ⟨?_, follows.solver⟩
      rw [follows.best_eq]
      rfl
    | failed fault after after' parallel => exact ⟨rfl, parallel⟩
    | ended g best after after' parallel => exact ⟨rfl, parallel⟩
    | continued g next next' follows =>
      obtain ⟨sameEnd, parallel⟩ := ih g next rfl follows
      simp only
      generalize next.run p.loci = ending at sameEnd parallel ⊢
      generalize next'.run q.loci = ending' at sameEnd parallel ⊢
      obtain ⟨result, after⟩ := ending
      obtain ⟨result', after'⟩ := ending'
      obtain rfl : result' = result.map ρ.evolution := sameEnd
      cases result with
      | error fault => exact ⟨rfl, parallel⟩
      | ok later => exact ⟨rfl, parallel⟩

theorem Parallel.solve {solver solver' : GeneticSolver σ}
    (parallel : Parallel p q solver solver') :
    (solver'.solve).1 =
      (solver.solve).1.map (Prod.map ρ.evolution (Option.map ρ.timetable)) := by
  obtain ⟨population_eq, drawn⟩ := carries.initialPopulation_parallel nodup parallel
  have first : ρ.Follows p q solver.firstStage solver'.firstStage := by
    obtain ⟨before, after, source_eq, deadline_eq, -, readings_eq⟩ := drawn
    refine ⟨⟨?_, ?_, source_eq, deadline_eq, rfl, readings_eq⟩, rfl, population_eq, ?_⟩
    · exact ⟨before.problem_eq, rfl, before.cache_sound⟩
    · exact ⟨after.problem_eq, after.settings_eq, after.cache_sound⟩
    · exact congrArg Settings.generations parallel.after.settings_eq
  obtain ⟨sameEnd, ended⟩ := first.run carries nodup
  unfold GeneticSolver.solve
  rw [GeneticSolver.evolve_eq_run, GeneticSolver.evolve_eq_run, parallel.before.problem_eq,
    parallel.after.problem_eq]
  generalize solver.firstStage.run p.loci = evolved at sameEnd ended ⊢
  generalize solver'.firstStage.run q.loci = evolved' at sameEnd ended ⊢
  obtain ⟨result, after⟩ := evolved
  obtain ⟨result', after'⟩ := evolved'
  obtain rfl : result' = result.map ρ.evolution := sameEnd
  cases result with
  | error fault => rfl
  | ok evolution =>
    have found : (ρ.evolution evolution).best.map after'.timetable =
        (evolution.best.map after.timetable).map ρ.timetable := by
      unfold Renaming.evolution
      rw [Option.map_map, Option.map_map]
      congr 1
      funext x
      exact carries.timetable_eq ended x
    simp only [Except.map, found]
    rfl

end Stages

end Renaming

namespace Problem

variable {p q : Problem}

/-- Without a deadline the exact search answers what its report says. -/
theorem Accepted.solveExactly_eq (accepted : p.Accepted)
    (once : ∀ sectionId, (p.studentsOf sectionId).Nodup) (settings : Settings)
    (tried : List Method) :
    p.solveExactly settings .never tried =
      let report := ExactSolver.report p settings.maxSteps
      match report.timetable with
      | some t => .ok t
      | none =>
        let attempt : Attempt :=
          ⟨p.sections.length, tried ++ [.backtracking], report.stopped⟩
        .error (if report.stopped then .outOfBudget attempt else .infeasible attempt) := by
  have solved := ExactSolver.exists_solve p ⟨settings.maxSteps, .never⟩
  have asked : ({ problem := p, budget := ⟨settings.maxSteps, .never⟩ } : ExactSolver) =
      ExactSolver.fresh p ⟨settings.maxSteps, .never⟩ := rfl
  unfold solveExactly ExactSolver.report
  simp only [asked]
  rcases ended : (ExactSolver.fresh p ⟨settings.maxSteps, .never⟩).solve with ⟨found, after⟩
  rw [ended] at solved
  cases found with
  | none => rfl
  | some t =>
    obtain ⟨lessons, found, assignments, -⟩ := solved
    have schedule := (p.exploration_sound found).1
    exact (schedule.perm (List.reverse_perm lessons).symm).verify_eq accepted once assignments

end Problem

namespace Renaming.Carries

variable {ρ : Renaming} {p q : Problem} (carries : ρ.Carries p q) (accepted : p.Accepted)
  (accepted' : q.Accepted) (once : ∀ sectionId, (p.studentsOf sectionId).Nodup)
  (once' : ∀ sectionId, (q.studentsOf sectionId).Nodup) (settings : Settings)

include carries accepted accepted' once once'

theorem solveExactly_eq (tried : List Method) :
    q.solveExactly settings .never tried =
      (p.solveExactly settings .never tried).map ρ.timetable := by
  have sections : q.sections.length = p.sections.length := by
    rw [carries.sections_eq, List.length_map]
  rw [accepted.solveExactly_eq once, accepted'.solveExactly_eq once',
    carries.report_eq accepted.sectionIds_nodup, sections]
  simp only [report]
  cases (ExactSolver.report p settings.maxSteps).timetable with
  | none => rfl
  | some t => rfl

/-- Without a time budget a solve has the same outcome under the new names, by whatever clocks. -/
theorem solve_eq {σ : Type} [RandomSource σ] (valid : settings.Valid)
    (unlimited : settings.timeBudget = none) (source : σ) (deadlines deadlines' : Deadlines) :
    q.solve settings source deadlines' =
      (p.solve settings source deadlines).map ρ.timetable := by
  have sections : q.sections.length = p.sections.length := by
    rw [carries.sections_eq, List.length_map]
  have limits (given : Deadlines) : given.within settings = .never := by
    simp [Deadlines.within, unlimited]
  have exhaustive := carries.solveExactly_eq accepted accepted' once once' settings
  unfold Problem.solve
  simp only [Problem.fault?_eq_none_iff.mpr accepted, Problem.fault?_eq_none_iff.mpr accepted',
    limits, sections]
  split
  next =>
    have parallel : Parallel p q
        ⟨p, settings, source, Deadlines.never.heuristic, {}, 0, 0⟩
        ⟨q, settings, source, Deadlines.never.heuristic, {}, 0, 0⟩ :=
      ⟨⟨rfl, rfl, EvaluationCache.sound_empty⟩, ⟨rfl, rfl, EvaluationCache.sound_empty⟩, rfl, rfl,
        rfl, rfl⟩
    have same := parallel.solve carries accepted.sectionIds_nodup
    obtain ⟨evolution, found, solved, sound⟩ := parallel.before.solve accepted valid
    obtain ⟨evolution', found', solved', sound'⟩ := parallel.after.solve accepted' valid
    rw [solved, solved'] at same
    obtain ⟨rfl, rfl⟩ := Prod.mk.inj (Except.ok.inj same)
    simp only [solved, solved']
    cases found with
    | none => exact exhaustive _
    | some t =>
      have right := sound t rfl
      have right' := sound' (ρ.timetable t) rfl
      simp only [Option.map_some]
      rw [right.verify_eq accepted once, right'.verify_eq accepted' once']
      rfl
  next => exact exhaustive _

end Renaming.Carries

end Timetabling
