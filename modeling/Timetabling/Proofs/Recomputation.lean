import Timetabling.Proofs.Elites

/-!
# Evolutions without a cache

The loop of an evolution takes the evaluation of a single genome as a parameter here. With the
solver's own evaluation it is the evolution itself, and with one that knows no cache it is an
evolution that evaluates every individual afresh. Both show the same in all rounds, and go on
showing the same however often the solvers evolve, because a cache never knows anything but
evaluations.
-/

namespace Timetabling.GeneticSolver

variable {σ : Type}

/-- A way for a solver to evaluate a genome. -/
abbrev Evaluator (σ : Type) :=
  List Locus → GeneticSolver σ → Genome → Except ArithmeticFault Evaluation × GeneticSolver σ

/-- Evaluates a genome without a look at the cache. -/
def afresh : Evaluator σ :=
  fun loci solver genome => (genome.evaluate loci, solver)

def evaluateAllBy (evaluator : Evaluator σ) (loci : List Locus) (solver : GeneticSolver σ) :
    List Genome → Except ArithmeticFault Generation × GeneticSolver σ
  | [] => (.ok [], solver)
  | genome :: rest =>
    match evaluator loci solver genome with
    | (.error fault, solver') => (.error fault, solver')
    | (.ok e, solver') =>
      match evaluateAllBy evaluator loci solver' rest with
      | (.error fault, solver'') => (.error fault, solver'')
      | (.ok others, solver'') => (.ok (⟨genome, e⟩ :: others), solver'')

theorem evaluateAllBy_evaluate (loci : List Locus) (solver : GeneticSolver σ)
    (population : List Genome) :
    solver.evaluateAllBy evaluate loci population = solver.evaluateAll loci population := by
  induction population generalizing solver with
  | nil => rfl
  | cons genome rest ih =>
    rw [evaluateAllBy, evaluateAll]
    cases solver.evaluate loci genome with
    | mk result next =>
      cases result with
      | error fault => rfl
      | ok e =>
        have later := ih next
        dsimp only
        generalize next.evaluateAllBy evaluate loci rest = outcome at later ⊢
        subst later
        rfl

def forget (solver : GeneticSolver σ) : GeneticSolver σ :=
  { solver with cache := {} }

theorem forget_evaluateAll (loci : List Locus) (solver : GeneticSolver σ)
    (population : List Genome) : (solver.evaluateAll loci population).2.forget = solver.forget := by
  obtain ⟨cache, kept⟩ := exists_cache_evaluateAll loci solver population
  rw [kept]
  rfl

theorem Serves.after_evaluateAll {p : Problem} {settings : Settings} {solver : GeneticSolver σ}
    (serves : solver.Serves p settings) (population : List Genome) :
    (solver.evaluateAll p.loci population).2.Serves p settings := by
  induction population generalizing solver with
  | nil => exact serves
  | cons genome rest ih =>
    obtain ⟨-, kept⟩ := serves.evaluate genome
    rw [GeneticSolver.evaluateAll]
    generalize solver.evaluate p.loci genome = first at kept ⊢
    obtain ⟨result, next⟩ := first
    cases result with
    | error fault => exact kept
    | ok e =>
      have last := ih kept
      simp only at last ⊢
      generalize next.evaluateAll p.loci rest = later at last ⊢
      obtain ⟨result, after⟩ := later
      cases result <;> exact last

theorem Serves.evaluateAllBy_afresh {p : Problem} {settings : Settings} {solver : GeneticSolver σ}
    (serves : solver.Serves p settings) (population : List Genome) (other : GeneticSolver σ) :
    other.evaluateAllBy afresh p.loci population =
      ((solver.evaluateAll p.loci population).1, other) := by
  induction population generalizing solver with
  | nil => rfl
  | cons genome rest ih =>
    obtain ⟨result, kept⟩ := serves.evaluate genome
    rw [evaluateAllBy, GeneticSolver.evaluateAll, afresh, ← result]
    generalize solver.evaluate p.loci genome = first at kept ⊢
    obtain ⟨result, next⟩ := first
    cases result with
    | error fault => rfl
    | ok e =>
      simp only [ih kept]
      generalize next.evaluateAll p.loci rest = later
      obtain ⟨result, after⟩ := later
      cases result <;> rfl

/-- What can be seen of a round: its population and, unless the evaluation fails, the generation,
its ranking, and the number of the generation with the evaluation that tops the ranking, as they are
logged. -/
structure Round where
  population : List Genome
  generation : Option Generation
  ranking : Option (List Individual)
  record : Option (Nat × Option Evaluation)

/-- What an evolution shows and what it leaves behind. -/
structure Transcript (σ : Type) where
  rounds : List Round
  best : Except ArithmeticFault (Option Individual)
  after : GeneticSolver σ

namespace Transcript

def forget (t : Transcript σ) : Transcript σ :=
  { t with after := t.after.forget }

def evolution (t : Transcript σ) : Except ArithmeticFault Evolution :=
  t.best.map fun best => ⟨best, t.rounds.filterMap Round.generation⟩

end Transcript

namespace Stage

variable [RandomSource σ]

def round (s : Stage σ) (generation : Option Generation) : Round where
  population := s.population
  generation := generation
  ranking := generation.map Generation.ranked
  record := generation.map fun g =>
    (s.solver.startGeneration.generationsRun, g.ranked.head?.map Individual.evaluation)

/-- One round with genomes evaluated in the given way. -/
def stepBy (evaluator : Evaluator σ) (loci : List Locus) (s : Stage σ) : Outcome σ :=
  match s.remaining with
  | 0 => .finished
  | remaining + 1 =>
    match s.solver.startGeneration.evaluateAllBy evaluator loci s.population with
    | (.error fault, after) => .failed fault after
    | (.ok g, evaluated) =>
      if reachesThreshold s.solver.settings (s.bestAfter g) then .ended g (s.bestAfter g) evaluated
      else
        match evaluated.readClock with
        | (true, after) => .ended g (s.bestAfter g) after
        | (false, waiting) =>
          .continued g ⟨(waiting.nextPopulation loci g).2, s.bestAfter g,
            (waiting.nextPopulation loci g).1, remaining⟩

theorem remaining_lt_of_stepBy {evaluator : Evaluator σ} {loci : List Locus} {s t : Stage σ}
    {g : Generation} (continued : s.stepBy evaluator loci = .continued g t) :
    t.remaining < s.remaining := by
  unfold stepBy at continued
  split at continued
  next => cases continued
  next remaining left =>
    split at continued
    next => cases continued
    next =>
      split at continued
      next => cases continued
      next =>
        split at continued
        next => cases continued
        next =>
          cases continued
          rw [left]
          exact Nat.lt_succ_self _

/-- The evolution from a stage on with genomes evaluated in the given way, round by round. -/
def transcript (evaluator : Evaluator σ) (loci : List Locus) (s : Stage σ) : Transcript σ :=
  match _ : s.stepBy evaluator loci with
  | .finished => ⟨[], .ok s.best, s.solver⟩
  | .failed fault after => ⟨[s.round none], .error fault, after⟩
  | .ended g best after => ⟨[s.round g], .ok best, after⟩
  | .continued g next =>
    let later := next.transcript evaluator loci
    ⟨s.round g :: later.rounds, later.best, later.after⟩
termination_by s.remaining
decreasing_by exact remaining_lt_of_stepBy ‹_›

theorem transcript_eq (evaluator : Evaluator σ) (loci : List Locus) (s : Stage σ) :
    s.transcript evaluator loci =
      match s.stepBy evaluator loci with
      | .finished => ⟨[], .ok s.best, s.solver⟩
      | .failed fault after => ⟨[s.round none], .error fault, after⟩
      | .ended g best after => ⟨[s.round g], .ok best, after⟩
      | .continued g next =>
        let later := next.transcript evaluator loci
        ⟨s.round g :: later.rounds, later.best, later.after⟩ := by
  rw [transcript]
  split <;> simp only [*]

theorem stepBy_evaluate (loci : List Locus) (s : Stage σ) :
    s.stepBy evaluate loci = s.step loci := by
  have evaluated := evaluateAllBy_evaluate loci s.solver.startGeneration s.population
  unfold stepBy step
  generalize s.solver.startGeneration.evaluateAllBy evaluate loci s.population = outcome
    at evaluated ⊢
  subst evaluated
  rfl

theorem run_eq_transcript (loci : List Locus) (s : Stage σ) :
    s.run loci = ((s.transcript evaluate loci).evolution, (s.transcript evaluate loci).after) := by
  induction s using stepInduction (σ := σ) loci with
  | round s ih =>
    rw [run_eq, transcript_eq, stepBy_evaluate]
    cases stepped : s.step loci with
    | finished => rfl
    | failed fault after => rfl
    | ended g best after => rfl
    | continued g next =>
      simp only
      rw [ih g next stepped]
      generalize next.transcript evaluate loci = later
      obtain ⟨rounds, best, after⟩ := later
      cases best <;> rfl

def forget (s : Stage σ) : Stage σ :=
  { s with solver := s.solver.forget }

def Outcome.forget : Outcome σ → Outcome σ
  | finished => finished
  | failed fault after => failed fault after.forget
  | ended g best after => ended g best after.forget
  | continued g next => continued g next.forget

def Outcome.Serves (p : Problem) (settings : Settings) : Outcome σ → Prop
  | finished => True
  | failed _ after => after.Serves p settings
  | ended _ _ after => after.Serves p settings
  | continued _ next => next.solver.Serves p settings

variable {p : Problem} {settings : Settings} {s : Stage σ}

theorem serves_step (serves : s.solver.Serves p settings) :
    (s.step p.loci).Serves p settings := by
  have kept := serves.startGeneration.after_evaluateAll s.population
  unfold step
  split
  next => trivial
  next =>
    split
    next evaluated =>
      rw [evaluated] at kept
      exact kept
    next g solver evaluated =>
      rw [evaluated] at kept
      split
      next => exact kept
      next =>
        have waits := kept.readClock
        split
        next clock =>
          rw [clock] at waits
          exact waits
        next clock =>
          rw [clock] at waits
          exact waits.nextPopulation g

/-- A round that evaluates afresh is the round with a cache, except for the cache. -/
theorem stepBy_afresh (serves : s.solver.Serves p settings) :
    s.forget.stepBy afresh p.loci = (s.step p.loci).forget := by
  have evaluated :
      s.forget.solver.startGeneration.evaluateAllBy afresh p.loci s.forget.population =
        ((s.solver.startGeneration.evaluateAll p.loci s.population).1,
          (s.solver.startGeneration.evaluateAll p.loci s.population).2.forget) := by
    rw [forget_evaluateAll]
    exact serves.startGeneration.evaluateAllBy_afresh s.population _
  have left : s.forget.remaining = s.remaining := rfl
  unfold stepBy step
  rw [evaluated, left]
  cases s.remaining with
  | zero => rfl
  | succ remaining =>
    generalize s.solver.startGeneration.evaluateAll p.loci s.population = outcome
    obtain ⟨result, after⟩ := outcome
    cases result with
    | error fault => rfl
    | ok g =>
      have best : s.forget.bestAfter g = s.bestAfter g := rfl
      have threshold : s.forget.solver.settings = s.solver.settings := rfl
      have clock : after.forget.readClock = (after.readClock.1, after.readClock.2.forget) := rfl
      simp only [best, threshold, clock]
      split
      next => rfl
      next =>
        generalize after.readClock = outcome
        obtain ⟨timeUp, waiting⟩ := outcome
        cases timeUp <;> rfl

/-- A run that evaluates afresh shows what the run with a cache shows, and the cache of that one
still knows nothing but evaluations. -/
theorem transcript_afresh (serves : s.solver.Serves p settings) :
    s.forget.transcript afresh p.loci = (s.transcript evaluate p.loci).forget ∧
      (s.transcript evaluate p.loci).after.Serves p settings := by
  induction s using stepInduction (σ := σ) p.loci with
  | round s ih =>
    have kept := serves_step serves
    have seen (generation : Option Generation) : s.forget.round generation = s.round generation :=
      rfl
    rw [transcript_eq, transcript_eq, stepBy_afresh serves, stepBy_evaluate]
    cases stepped : s.step p.loci with
    | finished => exact ⟨rfl, serves⟩
    | failed fault after =>
      rw [stepped] at kept
      exact ⟨rfl, kept⟩
    | ended g best after =>
      rw [stepped] at kept
      exact ⟨rfl, kept⟩
    | continued g next =>
      rw [stepped] at kept
      obtain ⟨same, keptLater⟩ := ih g next stepped kept
      simp only [Outcome.forget, seen, same]
      exact ⟨rfl, keptLater⟩

end Stage

variable [RandomSource σ]

def transcript (evaluator : Evaluator σ) (solver : GeneticSolver σ) : Transcript σ :=
  solver.firstStage.transcript evaluator solver.problem.loci

theorem evolve_eq_transcript (solver : GeneticSolver σ) :
    solver.evolve = ((solver.transcript evaluate).evolution, (solver.transcript evaluate).after) :=
  Stage.run_eq_transcript solver.problem.loci solver.firstStage

def again (solver : GeneticSolver σ) : Nat → GeneticSolver σ
  | 0 => solver
  | n + 1 => (solver.again n).evolve.2

/-- The solver after a number of evolutions that evaluate every individual afresh. -/
def againAfresh (solver : GeneticSolver σ) : Nat → GeneticSolver σ
  | 0 => solver
  | n + 1 => ((solver.againAfresh n).transcript afresh).after

theorem forget_transcript_afresh {p : Problem} {settings : Settings} {solver : GeneticSolver σ}
    (serves : solver.Serves p settings) :
    solver.forget.transcript afresh = (solver.transcript evaluate).forget ∧
      (solver.transcript evaluate).after.Serves p settings := by
  obtain ⟨rfl, rfl, sound⟩ := serves
  have drawn : solver.firstStage.solver.Serves solver.problem solver.settings := ⟨rfl, rfl, sound⟩
  exact Stage.transcript_afresh drawn

/-- After any number of evolutions the cache is sound and the only difference. -/
theorem Serves.again {p : Problem} {settings : Settings} {solver : GeneticSolver σ}
    (serves : solver.Serves p settings) (n : Nat) :
    (solver.again n).Serves p settings ∧ solver.forget.againAfresh n = (solver.again n).forget := by
  induction n with
  | zero => exact ⟨serves, rfl⟩
  | succ n ih =>
    obtain ⟨kept, same⟩ := ih
    obtain ⟨sameTranscript, keptAfter⟩ := forget_transcript_afresh kept
    rw [GeneticSolver.again, evolve_eq_transcript, againAfresh, same, sameTranscript]
    exact ⟨keptAfter, rfl⟩

/-- At every point of an evolution, also after any number of evolutions before it, the cache knows
nothing but what the evaluation of a genome gives. So an evolution shows the same rounds, with their
populations, rankings and records, as one that evaluates every individual afresh, as all evolutions
before it may have done. It also returns the same and leaves the solver behind in the same state,
with the same number of generations, but for the cache. -/
theorem evolve_recomputes (p : Problem) (settings : Settings) (source : σ) (deadline : Deadline)
    (earlier : List Genome) (generationsRun readings n : Nat) :
    let solver : GeneticSolver σ := again
      ⟨p, settings, source, deadline, .after p.loci earlier, generationsRun, readings⟩ n
    let plain : GeneticSolver σ := againAfresh
      ⟨p, settings, source, deadline, {}, generationsRun, readings⟩ n
    let cached := solver.transcript evaluate
    (∀ s, solver.Visits s → ∀ k,
        (s.solver.startGeneration.evaluateAll p.loci (s.population.take k)).2.cache.Sound p.loci) ∧
      cached.after.cache.Sound p.loci ∧
      solver.evolve = (cached.evolution, cached.after) ∧
      plain.transcript afresh = cached.forget := by
  intro solver plain cached
  have start : Serves p settings
      (⟨p, settings, source, deadline, .after p.loci earlier, generationsRun, readings⟩ :
        GeneticSolver σ) := ⟨rfl, rfl, EvaluationCache.sound_after earlier⟩
  obtain ⟨serves, same⟩ : solver.Serves p settings ∧ plain = solver.forget := start.again n
  obtain ⟨sameTranscript, keptAfter⟩ := forget_transcript_afresh serves
  refine ⟨?_, keptAfter.cache_sound, evolve_eq_transcript solver, ?_⟩
  · intro s visited k
    have sound : solver.cache.Sound solver.problem.loci := by
      rw [serves.problem_eq]
      exact serves.cache_sound
    have visitor := visited.serves sound
    rw [serves.problem_eq] at visitor
    exact (visitor.startGeneration.after_evaluateAll (s.population.take k)).cache_sound
  · rw [same]
    exact sameTranscript

end Timetabling.GeneticSolver
