import Timetabling.Proofs.Replay

/-!
# Evolutions of accepted problems

`Serves` is what a solver keeps from generation to generation: its problem, its settings and a cache
that knows only evaluations. With valid settings an evolution of an accepted problem never fails,
each of its generations is stocked and rightly evaluated, and its best individual is feasible.
-/

namespace Timetabling

/-- The evaluation of an individual is that of its genome, which is admissible. -/
structure Individual.Sound (p : Problem) (x : Individual) : Prop where
  admissible : x.genome.Admissible p.slots p.loci
  evaluated : x.genome.evaluate p.loci = .ok x.evaluation

theorem Individual.Sound.isSchedule {p : Problem} {x : Individual} (sound : x.Sound p)
    (feasible : x.feasible = true) : p.IsSchedule (x.genome.lessons p.loci) :=
  Problem.isSchedule_lessons sound.admissible sound.evaluated feasible

namespace Generation

structure Sound (p : Problem) (settings : Settings) (g : Generation) : Prop where
  stocked : GeneticSolver.Stocked p settings (g.map Individual.genome)
  evaluated : ∀ x ∈ g, x.genome.evaluate p.loci = .ok x.evaluation

variable {p : Problem} {settings : Settings} {g : Generation}

theorem Sound.individual (sound : g.Sound p settings) {x : Individual} (membership : x ∈ g) :
    x.Sound p where
  admissible := sound.stocked.admissible _ (List.mem_map_of_mem membership)
  evaluated := sound.evaluated x membership

theorem mem_of_champion? {x : Individual} (champion : x ∈ g.champion?) :
    x ∈ g ∧ x.feasible = true :=
  ⟨mem_ranked.mp (List.mem_of_find?_eq_some champion), List.find?_some champion⟩

end Generation

/-- Sound generations, and a best individual that is sound and feasible. -/
structure Evolution.Sound (p : Problem) (settings : Settings) (evolution : Evolution) : Prop where
  generations : ∀ g ∈ evolution.generations, g.Sound p settings
  best : ∀ x ∈ evolution.best, x.Sound p ∧ x.feasible = true

theorem Evolution.Sound.individual {p : Problem} {settings : Settings} {evolution : Evolution}
    (sound : evolution.Sound p settings) {x : Individual}
    (membership : x ∈ evolution.generations.flatten) : x.Sound p := by
  obtain ⟨g, listed, member⟩ := List.mem_flatten.mp membership
  exact (sound.generations g listed).individual member

theorem mem_of_betterOf {best champion : Option Individual} {x : Individual}
    (chosen : x ∈ betterOf best champion) : x ∈ best ∨ x ∈ champion := by
  cases best with
  | none => exact .inr chosen
  | some y =>
    cases champion with
    | none => exact .inl chosen
    | some z =>
      unfold betterOf at chosen
      simp only at chosen
      split at chosen
      next => exact .inr chosen
      next => exact .inl chosen

namespace GeneticSolver

variable {σ : Type} {p : Problem} {settings : Settings} {solver : GeneticSolver σ}

/-- The solver is at work on a problem with some settings, and its cache is sound. -/
structure Serves (p : Problem) (settings : Settings) (solver : GeneticSolver σ) : Prop where
  problem_eq : solver.problem = p
  settings_eq : solver.settings = settings
  cache_sound : solver.cache.Sound p.loci

theorem Serves.evaluate (serves : solver.Serves p settings) (genome : Genome) :
    (solver.evaluate p.loci genome).1 = genome.evaluate p.loci ∧
      (solver.evaluate p.loci genome).2.Serves p settings :=
  ⟨serves.cache_sound.evaluate_fst genome,
    ⟨serves.problem_eq, serves.settings_eq, serves.cache_sound.evaluate_snd genome⟩⟩

theorem Serves.evaluateAll (serves : solver.Serves p settings) {population : List Genome}
    (evaluable : ∀ genome ∈ population, ∃ e, genome.evaluate p.loci = .ok e) :
    ∃ g after, solver.evaluateAll p.loci population = (.ok g, after) ∧ after.Serves p settings ∧
      g.map Individual.genome = population ∧
      ∀ x ∈ g, x.genome.evaluate p.loci = .ok x.evaluation := by
  induction population generalizing solver with
  | nil => exact ⟨[], solver, rfl, serves, rfl, by simp⟩
  | cons genome rest ih =>
    obtain ⟨⟨e, evaluated⟩, evaluable⟩ := List.forall_mem_cons.mp evaluable
    obtain ⟨result, next⟩ := serves.evaluate genome
    obtain ⟨g, after, evaluatedAll, kept, genomes, right⟩ := ih next evaluable
    refine ⟨⟨genome, e⟩ :: g, after, ?_, kept, ?_, ?_⟩
    · rw [GeneticSolver.evaluateAll]
      cases first : solver.evaluate p.loci genome with
      | mk outcome next =>
        rw [first] at result evaluatedAll
        rw [evaluated] at result
        cases result
        simp only [evaluatedAll]
    · rw [List.map_cons, genomes]
    · exact List.forall_mem_cons.mpr ⟨evaluated, right⟩

theorem Serves.startGeneration (serves : solver.Serves p settings) :
    solver.startGeneration.Serves p settings :=
  ⟨serves.problem_eq, serves.settings_eq, serves.cache_sound⟩

theorem Serves.readClock (serves : solver.Serves p settings) :
    solver.readClock.2.Serves p settings :=
  ⟨serves.problem_eq, serves.settings_eq, serves.cache_sound⟩

variable [RandomSource σ]

theorem Serves.nextPopulation (serves : solver.Serves p settings) (g : Generation) :
    (solver.nextPopulation p.loci g).2.Serves p settings :=
  ⟨serves.problem_eq, serves.settings_eq, serves.cache_sound⟩

theorem Serves.stocked_nextPopulation (serves : solver.Serves p settings) (valid : settings.Valid)
    {g : Generation} (stocked : Stocked p settings (g.map Individual.genome)) :
    Stocked p settings (solver.nextPopulation p.loci g).1 := by
  obtain ⟨rfl, rfl, -⟩ := serves
  exact stocked.nextPopulation valid

/-- With valid settings a stocked population of an accepted problem evolves without a failure. -/
theorem Serves.evolveFrom (accepted : p.Accepted) (valid : settings.Valid)
    (serves : solver.Serves p settings) {population : List Genome}
    (stocked : Stocked p settings population) {best : Option Individual}
    (bestSound : ∀ x ∈ best, x.Sound p ∧ x.feasible = true) (remaining : Nat) :
    ∃ evolution after, solver.evolveFrom p.loci best population remaining = (.ok evolution, after) ∧
      after.Serves p settings ∧ evolution.Sound p settings := by
  -- The induction is on the generations left; it is carried by `Serves`, `Stocked` and the best
  -- individual being sound.
  induction remaining generalizing solver population best with
  | zero => exact ⟨⟨best, []⟩, solver, rfl, serves, by simp, bestSound⟩
  | succ remaining ih =>
    obtain ⟨g, solver₁, evaluated, serves₁, genomes, right⟩ :=
      serves.startGeneration.evaluateAll fun genome membership =>
        accepted.exists_evaluate (stocked.admissible genome membership)
    have sound : g.Sound p settings := ⟨genomes.symm ▸ stocked, right⟩
    have bestSound' : ∀ x ∈ betterOf best g.champion?, x.Sound p ∧ x.feasible = true := by
      intro x chosen
      rcases mem_of_betterOf chosen with former | champion
      · exact bestSound x former
      · obtain ⟨membership, feasible⟩ := Generation.mem_of_champion? champion
        exact ⟨sound.individual membership, feasible⟩
    have ended : Evolution.Sound p settings ⟨betterOf best g.champion?, [g]⟩ :=
      ⟨by simpa using sound, bestSound'⟩
    rw [GeneticSolver.evolveFrom]
    simp only [evaluated]
    by_cases reached : reachesThreshold solver.settings (betterOf best g.champion?) = true
    · rw [if_pos reached]
      exact ⟨_, solver₁, rfl, serves₁, ended⟩
    · rw [if_neg reached]
      have serves₂ := serves₁.readClock
      cases clock : solver₁.readClock with
      | mk timeUp solver₂ =>
        rw [clock] at serves₂
        cases timeUp with
        | true => exact ⟨_, solver₂, rfl, serves₂, ended⟩
        | false =>
          have stocked' := serves₂.stocked_nextPopulation valid sound.stocked
          obtain ⟨later, after, evolved, kept, laterSound⟩ :=
            ih (serves₂.nextPopulation g) stocked' bestSound'
          refine ⟨⟨later.best, g :: later.generations⟩, after, ?_, kept, ?_, laterSound.best⟩
          · simp only [evolved]
          · exact List.forall_mem_cons.mpr ⟨sound, laterSound.generations⟩

/-- A fresh solver for an accepted problem evolves soundly. -/
theorem Serves.evolve (accepted : p.Accepted) (valid : settings.Valid)
    (serves : solver.Serves p settings) :
    ∃ evolution after, solver.evolve = (.ok evolution, after) ∧ after.Serves p settings ∧
      evolution.Sound p settings := by
  obtain ⟨rfl, rfl, sound⟩ := serves
  have drawn : Serves solver.problem solver.settings
      { solver.initialPopulation.2 with generationsRun := 0 } := ⟨rfl, rfl, sound⟩
  have noBest : ∀ x ∈ (none : Option Individual), x.Sound solver.problem ∧ x.feasible = true := by
    simp
  exact drawn.evolveFrom accepted valid (stocked_initialPopulation solver) noBest
    solver.settings.generations

end GeneticSolver

end Timetabling
