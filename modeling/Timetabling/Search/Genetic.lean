import Timetabling.Problem.Statistics
import Timetabling.Search.Budget
import Timetabling.Search.Cache
import Timetabling.Search.Tournament
import Timetabling.Search.Variation
import Timetabling.Settings
import Timetabling.Sorting

/-!
# The genetic search

Evolves a population of genomes generation by generation. The best individuals pass into the next
generation unchanged and the rest of it is bred from parents chosen by tournament. The search
remembers the fittest feasible individual of all generations, the earliest one of several, and ends
when that one reaches the threshold, when the time is up, or after the given number of generations.
-/

namespace Timetabling

/-- A genome with its evaluation. -/
structure Individual where
  genome : Genome
  evaluation : Evaluation
deriving DecidableEq, Repr

namespace Individual

def fitness (x : Individual) : Int :=
  x.evaluation.fitness

def feasible (x : Individual) : Bool :=
  x.evaluation.feasible

def beats (x y : Individual) : Bool :=
  decide (y.fitness < x.fitness)

end Individual

/-- A population in which every genome has been evaluated. -/
abbrev Generation := List Individual

namespace Generation

/-- The individuals from the fittest to the least fit; ties keep their order. -/
def ranked (g : Generation) : List Individual :=
  stableSort (fun x y => decide (y.fitness ≤ x.fitness)) g

def champion? (g : Generation) : Option Individual :=
  g.ranked.find? Individual.feasible

end Generation

/-- The better of the best individual so far and the champion of a new generation. Only a fitter
champion replaces the best. -/
def betterOf (best champion : Option Individual) : Option Individual :=
  match best, champion with
  | none, new => new
  | some x, none => some x
  | some x, some y => if y.beats x then some y else some x

/-- A genetic solver: a problem, its settings, and the state that consecutive evolutions share. -/
structure GeneticSolver (σ : Type) where
  problem : Problem
  settings : Settings
  source : σ
  deadline : Deadline := .never
  cache : EvaluationCache := {}
  /-- The number of generations of the latest evolution. -/
  generationsRun : Nat := 0
  readings : Nat := 0

/-- The course of an evolution: its best feasible individual and its generations. -/
structure Evolution where
  best : Option Individual
  generations : List Generation

namespace GeneticSolver

variable {σ : Type} [RandomSource σ]

def draw {α : Type} (solver : GeneticSolver σ) (operation : σ → α × σ) : α × GeneticSolver σ :=
  let (x, s) := operation solver.source
  (x, { solver with source := s })

def initialPopulation (solver : GeneticSolver σ) : List Genome × GeneticSolver σ :=
  solver.draw <|
    Genome.randomPopulation solver.problem.slots solver.settings.placementAttempts
      solver.problem.loci solver.settings.populationSize

def evaluate (loci : List Locus) (solver : GeneticSolver σ) (genome : Genome) :
    Except ArithmeticFault Evaluation × GeneticSolver σ :=
  let (result, cache) := solver.cache.evaluate loci genome
  (result, { solver with cache := cache })

def evaluateAll (loci : List Locus) (solver : GeneticSolver σ) :
    List Genome → Except ArithmeticFault Generation × GeneticSolver σ
  | [] => (.ok [], solver)
  | genome :: rest =>
    match solver.evaluate loci genome with
    | (.error fault, solver') => (.error fault, solver')
    | (.ok e, solver') =>
      match solver'.evaluateAll loci rest with
      | (.error fault, solver'') => (.error fault, solver'')
      | (.ok others, solver'') => (.ok (⟨genome, e⟩ :: others), solver'')

def parent (settings : Settings) (ranked : List Individual) (s : σ) : Genome × σ :=
  let (i?, s') := Tournament.winner? Individual.beats ranked settings.tournamentSize s
  (((i?.bind fun i => ranked[i]?).map Individual.genome).getD [], s')

def children (settings : Settings) (ranked : List Individual) (s : σ) : (Genome × Genome) × σ :=
  let (a, s₁) := parent settings ranked s
  let (b, s₂) := parent settings ranked s₁
  let (u, s₃) := RandomSource.unit s₂
  if u.lt settings.crossoverRate then Genome.crossover a b s₃ else ((a, b), s₃)

/-- Breeds the given number of genomes in pairs of mutated children. Where one genome is missing,
only the first child is used. -/
def breed (slots : List TimeSlot) (loci : List Locus) (settings : Settings)
    (ranked : List Individual) : Nat → σ → List Genome × σ
  | 0, s => ([], s)
  | 1, s =>
    let pair := children settings ranked s
    let first := Genome.mutate slots loci settings.mutationRate pair.1.1 pair.2
    ([first.1], first.2)
  | missing + 2, s =>
    let pair := children settings ranked s
    let first := Genome.mutate slots loci settings.mutationRate pair.1.1 pair.2
    let second := Genome.mutate slots loci settings.mutationRate pair.1.2 first.2
    let rest := breed slots loci settings ranked missing second.2
    (first.1 :: second.1 :: rest.1, rest.2)

def nextPopulation (loci : List Locus) (solver : GeneticSolver σ) (g : Generation) :
    List Genome × GeneticSolver σ :=
  let ranked := g.ranked
  let elite := (ranked.take solver.settings.eliteCount).map Individual.genome
  let (bred, solver') := solver.draw <|
    breed solver.problem.slots loci solver.settings ranked
      (solver.settings.populationSize - elite.length)
  (elite ++ bred, solver')

def reachesThreshold (settings : Settings) (best : Option Individual) : Bool :=
  match best with
  | none => false
  | some x => settings.fitnessThreshold.le (.ofInt x.fitness)

def readClock (solver : GeneticSolver σ) : Bool × GeneticSolver σ :=
  (solver.deadline solver.readings, { solver with readings := solver.readings + 1 })

def startGeneration (solver : GeneticSolver σ) : GeneticSolver σ :=
  { solver with generationsRun := solver.generationsRun + 1 }

/-- Evolves a population for at most the given number of generations. -/
def evolveFrom (loci : List Locus) (solver : GeneticSolver σ) (best : Option Individual)
    (population : List Genome) : Nat → Except ArithmeticFault Evolution × GeneticSolver σ
  | 0 => (.ok ⟨best, []⟩, solver)
  | remaining + 1 =>
    match solver.startGeneration.evaluateAll loci population with
    | (.error fault, solver₁) => (.error fault, solver₁)
    | (.ok g, solver₁) =>
      let best' := betterOf best g.champion?
      if reachesThreshold solver.settings best' then (.ok ⟨best', [g]⟩, solver₁)
      else
        match solver₁.readClock with
        | (true, solver₂) => (.ok ⟨best', [g]⟩, solver₂)
        | (false, solver₂) =>
          let (population', solver₃) := solver₂.nextPopulation loci g
          match solver₃.evolveFrom loci best' population' remaining with
          | (.error fault, solver₄) => (.error fault, solver₄)
          | (.ok later, solver₄) => (.ok ⟨later.best, g :: later.generations⟩, solver₄)

def evolve (solver : GeneticSolver σ) : Except ArithmeticFault Evolution × GeneticSolver σ :=
  let (population, solver') := solver.initialPopulation
  { solver' with generationsRun := 0 }.evolveFrom solver.problem.loci none population
    solver.settings.generations

def timetable (solver : GeneticSolver σ) (x : Individual) : Timetable :=
  let assignments := x.genome.decode solver.problem.sections
  let statistics := solver.problem.statistics assignments .genetic
  ⟨assignments, { statistics with
    generations := some solver.generationsRun
    fitness := some (.ofInt x.fitness) }⟩

/-- The course of a new evolution and the timetable of its best feasible individual, if there is
one. -/
def solve (solver : GeneticSolver σ) :
    Except ArithmeticFault (Evolution × Option Timetable) × GeneticSolver σ :=
  match solver.evolve with
  | (.error fault, after) => (.error fault, after)
  | (.ok evolution, after) => (.ok (evolution, evolution.best.map after.timetable), after)

end GeneticSolver

end Timetabling
