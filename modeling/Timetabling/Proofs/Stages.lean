import Timetabling.Search.Genetic

/-!
# Evolutions generation by generation

An evolution is a loop over generations. A stage is where the loop stands, and `Stage.Advances` says
once what one round of it can come to. The stages of a solver are those that its evolution goes
through, also where it fails in the end.
-/

namespace Timetabling.GeneticSolver

variable {σ : Type}

/-- A population to be evaluated, by a solver that remembers its best individual, with the number of
generations left. -/
structure Stage (σ : Type) where
  solver : GeneticSolver σ
  best : Option Individual
  population : List Genome
  remaining : Nat

namespace Stage

inductive Outcome (σ : Type) where
  | finished
  | failed (fault : ArithmeticFault) (after : GeneticSolver σ)
  | ended (g : Generation) (best : Option Individual) (after : GeneticSolver σ)
  | continued (g : Generation) (next : Stage σ)

variable [RandomSource σ]

def bestAfter (s : Stage σ) (g : Generation) : Option Individual :=
  betterOf s.best g.champion?

/-- One round: the population is evaluated and, unless the loop ends here, the next one is bred. -/
def step (loci : List Locus) (s : Stage σ) : Outcome σ :=
  match s.remaining with
  | 0 => .finished
  | remaining + 1 =>
    match s.solver.startGeneration.evaluateAll loci s.population with
    | (.error fault, after) => .failed fault after
    | (.ok g, evaluated) =>
      if reachesThreshold s.solver.settings (s.bestAfter g) then .ended g (s.bestAfter g) evaluated
      else
        match evaluated.readClock with
        | (true, after) => .ended g (s.bestAfter g) after
        | (false, waiting) =>
          .continued g ⟨(waiting.nextPopulation loci g).2, s.bestAfter g,
            (waiting.nextPopulation loci g).1, remaining⟩

def run (loci : List Locus) (s : Stage σ) : Except ArithmeticFault Evolution × GeneticSolver σ :=
  s.solver.evolveFrom loci s.best s.population s.remaining

theorem run_eq (loci : List Locus) (s : Stage σ) :
    s.run loci =
      match s.step loci with
      | .finished => (.ok ⟨s.best, []⟩, s.solver)
      | .failed fault after => (.error fault, after)
      | .ended g best after => (.ok ⟨best, [g]⟩, after)
      | .continued g next =>
        match next.run loci with
        | (.error fault, after) => (.error fault, after)
        | (.ok later, after) => (.ok ⟨later.best, g :: later.generations⟩, after) := by
  obtain ⟨solver, best, population, remaining⟩ := s
  cases remaining with
  | zero => rfl
  | succ remaining =>
    unfold run step bestAfter
    simp only [evolveFrom]
    cases evaluated : solver.startGeneration.evaluateAll loci population with
    | mk result after =>
      cases result with
      | error fault => rfl
      | ok g =>
        simp only
        split
        next => rfl
        next =>
          cases clock : after.readClock with
          | mk timeUp waiting => cases timeUp <;> rfl

end Stage

theorem exists_cache_evaluateAll (loci : List Locus) (solver : GeneticSolver σ)
    (population : List Genome) :
    ∃ cache, (solver.evaluateAll loci population).2 = { solver with cache := cache } := by
  induction population generalizing solver with
  | nil => exact ⟨solver.cache, rfl⟩
  | cons genome rest ih =>
    unfold evaluateAll
    cases first : solver.evaluate loci genome with
    | mk result next =>
      have same : next = { solver with cache := (solver.cache.evaluate loci genome).2 } :=
        (congrArg Prod.snd first).symm
      cases result with
      | error fault => exact ⟨_, same⟩
      | ok e =>
        obtain ⟨cache, kept⟩ := ih next
        rw [same] at kept
        simp only [same]
        split
        next evaluated =>
          rw [evaluated] at kept
          exact ⟨cache, kept⟩
        next evaluated =>
          rw [evaluated] at kept
          exact ⟨cache, kept⟩

namespace Stage

variable [RandomSource σ] {loci : List Locus}

/-- What a round can come to. A generation is the evaluation of the population of its stage. -/
inductive Advances (loci : List Locus) (s : Stage σ) : Outcome σ → Prop
  | finished (none_left : s.remaining = 0) : Advances loci s .finished
  | failed (fault : ArithmeticFault) (after : GeneticSolver σ)
      (evaluated : s.solver.startGeneration.evaluateAll loci s.population = (.error fault, after)) :
      Advances loci s (.failed fault after)
  | ended (g : Generation) (cache : EvaluationCache) (readings : Nat)
      (evaluated : s.solver.startGeneration.evaluateAll loci s.population =
        (.ok g, { s.solver.startGeneration with cache := cache }))
      (stops : reachesThreshold s.solver.settings (s.bestAfter g) = true ∨
        s.solver.deadline s.solver.readings = true) :
      Advances loci s (.ended g (s.bestAfter g)
        { s.solver.startGeneration with cache := cache, readings := readings })
  | continued (g : Generation) (cache : EvaluationCache) (remaining : Nat)
      (left : s.remaining = remaining + 1)
      (evaluated : s.solver.startGeneration.evaluateAll loci s.population =
        (.ok g, { s.solver.startGeneration with cache := cache }))
      (unreached : reachesThreshold s.solver.settings (s.bestAfter g) = false)
      (inTime : s.solver.deadline s.solver.readings = false) (waiting : GeneticSolver σ)
      (clock : waiting = { s.solver.startGeneration with
        cache := cache, readings := s.solver.readings + 1 }) :
      Advances loci s (.continued g ⟨(waiting.nextPopulation loci g).2, s.bestAfter g,
        (waiting.nextPopulation loci g).1, remaining⟩)

theorem advances_step (loci : List Locus) (s : Stage σ) : s.Advances loci (s.step loci) := by
  obtain ⟨solver, best, population, remaining⟩ := s
  cases remaining with
  | zero => exact .finished rfl
  | succ remaining =>
    unfold step
    obtain ⟨cache, kept⟩ := exists_cache_evaluateAll loci solver.startGeneration population
    cases evaluated : solver.startGeneration.evaluateAll loci population with
    | mk result after =>
      rw [evaluated] at kept
      obtain rfl : after = _ := kept
      cases result with
      | error fault => exact .failed fault _ evaluated
      | ok g =>
        simp only
        split
        next reached => exact .ended g cache _ evaluated (.inl reached)
        next unreached =>
          split
          next clock =>
            obtain ⟨timeUp, rfl⟩ := Prod.mk.inj clock
            exact .ended g cache _ evaluated (.inr timeUp)
          next clock =>
            obtain ⟨inTime, rfl⟩ := Prod.mk.inj clock
            exact .continued g cache remaining rfl evaluated (Bool.eq_false_iff.mpr unreached)
              inTime _ rfl

theorem remaining_lt_of_step {s t : Stage σ} {g : Generation}
    (continued : s.step loci = .continued g t) : t.remaining < s.remaining := by
  have advances := s.advances_step loci
  rw [continued] at advances
  cases advances with
  | continued _ _ fewer left =>
    change fewer < s.remaining
    omega

/-- What holds of a stage as soon as it holds of the next one holds of every stage. -/
theorem stepInduction (loci : List Locus) {motive : Stage σ → Prop}
    (round : ∀ s, (∀ g next, s.step loci = .continued g next → motive next) → motive s)
    (s : Stage σ) : motive s := by
  -- The induction is on the generations left.
  induction left : s.remaining using Nat.strongRecOn generalizing s with
  | ind remaining ih =>
    apply round
    intro g next continued
    have fewer := remaining_lt_of_step continued
    rw [left] at fewer
    exact ih next.remaining fewer next rfl

/-- The generations that are evaluated from a stage on, up to the end or to a failure. -/
def course (loci : List Locus) (s : Stage σ) : List Generation :=
  match _ : s.step loci with
  | .finished => []
  | .failed _ _ => []
  | .ended g _ _ => [g]
  | .continued g t => g :: t.course loci
termination_by s.remaining
decreasing_by exact remaining_lt_of_step ‹_›

theorem course_eq (loci : List Locus) (s : Stage σ) :
    s.course loci =
      match s.step loci with
      | .finished => []
      | .failed _ _ => []
      | .ended g _ _ => [g]
      | .continued g t => g :: t.course loci := by
  rw [course]
  split <;> simp only [*]

theorem generations_eq_course {s : Stage σ} {evolution : Evolution} {after : GeneticSolver σ}
    (ran : s.run loci = (.ok evolution, after)) : evolution.generations = s.course loci := by
  induction s using stepInduction (σ := σ) loci generalizing evolution after with
  | round s ih =>
    rw [run_eq] at ran
    rw [course_eq]
    cases stepped : s.step loci with
    | finished =>
      rw [stepped] at ran
      cases ran
      rfl
    | failed fault failing =>
      rw [stepped] at ran
      cases ran
    | ended g best ending =>
      rw [stepped] at ran
      cases ran
      rfl
    | continued g t =>
      rw [stepped] at ran
      simp only at ran
      split at ran
      next => cases ran
      next later ending laterRan =>
        cases ran
        exact congrArg (g :: ·) (ih g t stepped laterRan)

end Stage

variable [RandomSource σ]

def firstStage (solver : GeneticSolver σ) : Stage σ where
  solver := { solver.initialPopulation.2 with generationsRun := 0 }
  best := none
  population := solver.initialPopulation.1
  remaining := solver.settings.generations

theorem evolve_eq_run (solver : GeneticSolver σ) :
    solver.evolve = solver.firstStage.run solver.problem.loci := rfl

theorem exists_evolution {solver : GeneticSolver σ} {α : Type} {view : Evolution → α} {a : α}
    (viewed : solver.evolve.1.map view = .ok a) :
    ∃ evolution after, solver.evolve = (.ok evolution, after) ∧ view evolution = a := by
  generalize solver.evolve = ran at viewed ⊢
  obtain ⟨result, after⟩ := ran
  cases result with
  | error fault => cases viewed
  | ok evolution => exact ⟨evolution, after, rfl, Except.ok.inj viewed⟩

/-- The stages that the evolution of a solver goes through. -/
inductive Visits (solver : GeneticSolver σ) : Stage σ → Prop
  | start : Visits solver solver.firstStage
  | next {s t : Stage σ} {g : Generation} (visited : Visits solver s)
      (continued : s.step solver.problem.loci = .continued g t) : Visits solver t

/-- Every generation of an evolution is the evaluation of a visited population, and an evolution
that fails does so on a visited population. -/
theorem Visits.run {solver : GeneticSolver σ} {s : Stage σ} (visited : solver.Visits s) :
    match s.run solver.problem.loci with
    | (.ok evolution, _) => ∀ g ∈ evolution.generations, ∃ t after, solver.Visits t ∧
        t.solver.startGeneration.evaluateAll solver.problem.loci t.population = (.ok g, after)
    | (.error fault, after) => ∃ t, solver.Visits t ∧
        t.solver.startGeneration.evaluateAll solver.problem.loci t.population =
          (.error fault, after) := by
  induction s using Stage.stepInduction (σ := σ) solver.problem.loci with
  | round s ih =>
    rw [Stage.run_eq]
    have advances := s.advances_step solver.problem.loci
    cases stepped : s.step solver.problem.loci with
    | finished => simp
    | failed fault after =>
      rw [stepped] at advances
      cases advances with
      | failed _ _ evaluated => exact ⟨s, visited, evaluated⟩
    | ended g best after =>
      rw [stepped] at advances
      cases advances with
      | ended _ _ _ evaluated =>
        intro g' membership
        obtain rfl := List.mem_singleton.mp membership
        exact ⟨s, _, visited, evaluated⟩
    | continued g next =>
      rw [stepped] at advances
      cases advances with
      | continued _ _ _ _ evaluated =>
        have later := ih g _ stepped (visited.next stepped)
        simp only
        split at later
        next ran =>
          rw [ran]
          intro g' membership
          rcases List.mem_cons.mp membership with rfl | inLater
          · exact ⟨s, _, visited, evaluated⟩
          · exact later g' inLater
        next ran =>
          rw [ran]
          exact later

end Timetabling.GeneticSolver
