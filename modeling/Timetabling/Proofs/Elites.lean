import Mathlib.Data.List.Chain
import Mathlib.Data.List.Sort
import Timetabling.Proofs.Leader
import Timetabling.Proofs.Stocked

/-!
# Elites

The fittest individuals of a generation open the next population, and a genome has one evaluation
wherever it turns up. So they open the next generation as well, and as many of its fitness values as
there are elites are no lower than before. This needs no accepted problem: it holds of the
generations of an evolution that fails in the end, too.
-/

namespace Timetabling

section Descending

variable {values : List Int} {bound : Int} {k : Nat} (sorted : values.Pairwise fun a b => b ≤ a)

include sorted

theorem exists_getElem?_of_lt_countP (many : k < values.countP fun a => decide (bound ≤ a)) :
    ∃ a, values[k]? = some a ∧ bound ≤ a := by
  induction values generalizing k with
  | nil => exact absurd many (Nat.not_lt_zero k)
  | cons a values ih =>
    obtain ⟨highest, sorted⟩ := List.pairwise_cons.mp sorted
    cases k with
    | zero =>
      obtain ⟨b, listed, reaches⟩ := List.countP_pos_iff.mp many
      have reached : bound ≤ b := of_decide_eq_true reaches
      refine ⟨a, rfl, ?_⟩
      rcases List.mem_cons.mp listed with rfl | later
      · exact reached
      · exact reached.trans (highest b later)
    | succ k =>
      rw [List.getElem?_cons_succ]
      apply ih sorted
      rw [List.countP_cons] at many
      split at many <;> omega

theorem lt_countP_take {a : Int} {count : Nat} (located : values[k]? = some a) (few : k < count) :
    k < (values.take count).countP fun b => decide (a ≤ b) := by
  induction values generalizing k count with
  | nil => cases located
  | cons b values ih =>
    obtain ⟨highest, sorted⟩ := List.pairwise_cons.mp sorted
    obtain ⟨count, rfl⟩ := Nat.exists_eq_succ_of_ne_zero (Nat.ne_zero_of_lt few)
    have reached : decide (a ≤ b) = true := by
      apply decide_eq_true
      rcases List.mem_cons.mp (List.mem_of_getElem? located) with rfl | later
      · exact le_rfl
      · exact highest a later
    rw [List.take_succ_cons, List.countP_cons, if_pos reached]
    cases k with
    | zero => exact Nat.succ_pos _
    | succ k =>
      rw [List.getElem?_cons_succ] at located
      exact Nat.succ_lt_succ (ih sorted located (Nat.lt_of_succ_lt_succ few))

end Descending

/-- Rightly evaluated individuals with the same genomes are the same. -/
theorem Individual.eq_of_genomes (loci : List Locus) {xs ys : List Individual}
    (right : ∀ x ∈ xs, x.genome.evaluate loci = .ok x.evaluation)
    (right' : ∀ y ∈ ys, y.genome.evaluate loci = .ok y.evaluation)
    (same : xs.map Individual.genome = ys.map Individual.genome) : xs = ys := by
  induction xs generalizing ys with
  | nil =>
    symm
    exact List.map_eq_nil_iff.mp same.symm
  | cons x xs ih =>
    obtain ⟨y, rest, rfl, sameHead, sameRest⟩ := List.map_eq_cons_iff.mp same.symm
    obtain ⟨first, others⟩ := List.forall_mem_cons.mp right
    obtain ⟨first', others'⟩ := List.forall_mem_cons.mp right'
    rw [ih others others' sameRest.symm]
    congr 1
    obtain ⟨genome, evaluation⟩ := x
    obtain ⟨genome', evaluation'⟩ := y
    obtain rfl : genome' = genome := sameHead
    obtain rfl : evaluation = evaluation' := Except.ok.inj (first.symm.trans first')
    rfl

namespace Generation

variable {g g' : Generation} {count k : Nat}

/-- The fitness values of a generation from the highest to the lowest. -/
def fitnesses (g : Generation) : List Int :=
  (g.map Individual.fitness).mergeSort fun a b => decide (b ≤ a)

def bestFitness? (g : Generation) : Option Int :=
  g.ranked.head?.map Individual.fitness

theorem pairwise_fitnesses (g : Generation) : g.fitnesses.Pairwise fun a b => b ≤ a := by
  have sorted := List.pairwise_mergeSort (ranking_trans id) (ranking_total id)
    (g.map Individual.fitness)
  exact sorted.imp of_decide_eq_true

theorem map_fitness_ranked (g : Generation) : g.ranked.map Individual.fitness = g.fitnesses := by
  have ranking : (g.ranked.map Individual.fitness).Pairwise fun a b => b ≤ a :=
    List.pairwise_map.mpr g.pairwise_ranked
  have perm : (g.ranked.map Individual.fitness).Perm g.fitnesses := by
    rw [ranked_eq_ranking]
    apply ((perm_ranking g).map Individual.fitness).trans
    exact (List.mergeSort_perm _ _).symm
  apply perm.eq_of_pairwise _ ranking g.pairwise_fitnesses
  intro a b _ _ first second
  exact le_antisymm second first

theorem bestFitness?_eq (g : Generation) : g.bestFitness? = g.fitnesses[0]? := by
  rw [← List.head?_eq_getElem?, ← map_fitness_ranked, List.head?_map, bestFitness?]

theorem countP_fitnesses (g : Generation) (reaches : Int → Bool) :
    g.fitnesses.countP reaches = g.countP fun x => reaches x.fitness := by
  rw [fitnesses, (List.mergeSort_perm _ _).countP_eq, List.countP_map]
  rfl

theorem length_fitnesses (g : Generation) : g.fitnesses.length = g.length := by
  rw [← map_fitness_ranked, List.length_map, length_ranked]

/-- A generation that opens with the first individuals of a ranking has as many fitness values that
are no lower than those of the ranking. -/
theorem fitnesses_le_of_opening (opening : g.ranked.take count <+: g') (few : k < count)
    (enough : count ≤ g.length) :
    ∃ a ∈ g.fitnesses[k]?, ∃ b ∈ g'.fitnesses[k]?, a ≤ b := by
  have inRange : k < g.fitnesses.length := by
    rw [length_fitnesses]
    omega
  obtain ⟨a, located⟩ : ∃ a, g.fitnesses[k]? = some a := ⟨_, List.getElem?_eq_getElem inRange⟩
  have many : k < g'.fitnesses.countP fun b => decide (a ≤ b) := by
    calc
      k < (g.fitnesses.take count).countP fun b => decide (a ≤ b) :=
        lt_countP_take g.pairwise_fitnesses located few
      _ = (g.ranked.take count).countP fun x => decide (a ≤ x.fitness) := by
        rw [← map_fitness_ranked, ← List.map_take, List.countP_map]
        rfl
      _ ≤ g'.countP fun x => decide (a ≤ x.fitness) := opening.sublist.countP_le
      _ = g'.fitnesses.countP fun b => decide (a ≤ b) :=
        (g'.countP_fitnesses fun b => decide (a ≤ b)).symm
  obtain ⟨b, located', atLeast⟩ := exists_getElem?_of_lt_countP g'.pairwise_fitnesses many
  exact ⟨a, located, b, located', atLeast⟩

def BestLe (g g' : Generation) : Prop :=
  ∃ a ∈ g.bestFitness?, ∃ b ∈ g'.bestFitness?, a ≤ b

instance : Trans BestLe BestLe BestLe where
  trans := by
    rintro g g' g'' ⟨a, best, b, best', le⟩ ⟨b', again, c, best'', le'⟩
    obtain rfl : b = b' := Option.mem_unique best' again
    exact ⟨a, best, c, best'', le.trans le'⟩

end Generation

namespace GeneticSolver

variable {σ : Type}

theorem Serves.of_evaluateAll {p : Problem} {settings : Settings} {solver after : GeneticSolver σ}
    (serves : solver.Serves p settings) {population : List Genome} {g : Generation}
    (evaluated : solver.evaluateAll p.loci population = (.ok g, after)) :
    after.Serves p settings ∧ ∀ x ∈ g, x.genome.evaluate p.loci = .ok x.evaluation := by
  induction population generalizing solver after g with
  | nil =>
    cases evaluated
    exact ⟨serves, List.forall_mem_nil _⟩
  | cons genome rest ih =>
    obtain ⟨result, kept⟩ := serves.evaluate genome
    unfold GeneticSolver.evaluateAll at evaluated
    split at evaluated
    next => cases evaluated
    next e next first =>
      rw [first] at result kept
      split at evaluated
      next => cases evaluated
      next others last evaluatedRest =>
        cases evaluated
        obtain ⟨keptLast, right⟩ := ih kept evaluatedRest
        exact ⟨keptLast, List.forall_mem_cons.mpr ⟨result.symm, right⟩⟩

variable [RandomSource σ]

namespace Stage

variable {loci : List Locus} {s t : Stage σ} {g : Generation}

def Evaluates (loci : List Locus) (s : Stage σ) (g : Generation) : Prop :=
  ∃ after, s.solver.startGeneration.evaluateAll loci s.population = (.ok g, after)

theorem evaluates_of_step (continued : s.step loci = .continued g t) : s.Evaluates loci g := by
  have advances := s.advances_step loci
  rw [continued] at advances
  cases advances with
  | continued _ _ _ _ evaluated => exact ⟨_, evaluated⟩

theorem evaluates_of_head?_course (heads : g ∈ (s.course loci).head?) : s.Evaluates loci g := by
  rw [course_eq] at heads
  cases stepped : s.step loci with
  | finished =>
    rw [stepped] at heads
    cases heads
  | failed fault after =>
    rw [stepped] at heads
    cases heads
  | ended g' best after =>
    have advances := s.advances_step loci
    rw [stepped] at heads advances
    cases heads
    cases advances with
    | ended _ _ _ evaluated => exact ⟨_, evaluated⟩
  | continued g' t =>
    rw [stepped] at heads
    cases heads
    exact evaluates_of_step stepped

end Stage

namespace Visits

variable {solver : GeneticSolver σ} {s t : Stage σ} {g g' : Generation}

/-- Generations that follow each other in an evolution are related if one round relates them. -/
theorem isChain_course {related : Generation → Generation → Prop}
    (visited : solver.Visits s)
    (round : ∀ s t g g', solver.Visits s → s.step solver.problem.loci = .continued g t →
      t.Evaluates solver.problem.loci g' → related g g') :
    (s.course solver.problem.loci).IsChain related := by
  induction s using Stage.stepInduction (σ := σ) solver.problem.loci with
  | round s ih =>
    rw [Stage.course_eq]
    cases stepped : s.step solver.problem.loci with
    | finished => exact .nil
    | failed fault after => exact .nil
    | ended g best after => exact .singleton g
    | continued g t =>
      apply List.isChain_cons.mpr
      refine ⟨?_, ih g t stepped (visited.next stepped)⟩
      intro g' heads
      exact round s t g g' visited stepped (Stage.evaluates_of_head?_course heads)

section Sound

variable (sound : solver.cache.Sound solver.problem.loci)

include sound

theorem serves (visited : solver.Visits s) :
    s.solver.Serves solver.problem solver.settings := by
  induction visited with
  | start => exact ⟨rfl, rfl, sound⟩
  | @next s t g visited continued ih =>
    have advances := s.advances_step solver.problem.loci
    rw [continued] at advances
    cases advances with
    | continued _ cache _ _ evaluated _ _ waiting clock =>
      obtain ⟨kept, -⟩ := ih.startGeneration.of_evaluateAll evaluated
      have awaits : waiting.Serves solver.problem solver.settings := by
        rw [clock]
        exact ⟨kept.problem_eq, kept.settings_eq, kept.cache_sound⟩
      exact awaits.nextPopulation g

theorem evaluated (visited : solver.Visits s) (evaluates : s.Evaluates solver.problem.loci g) :
    ∀ x ∈ g, x.genome.evaluate solver.problem.loci = .ok x.evaluation := by
  obtain ⟨after, evaluated⟩ := evaluates
  exact ((visited.serves sound).startGeneration.of_evaluateAll evaluated).2

theorem opening (visited : solver.Visits s)
    (continued : s.step solver.problem.loci = .continued g t)
    (evaluates : t.Evaluates solver.problem.loci g') :
    g.ranked.take solver.settings.eliteCount <+: g' := by
  have right := visited.evaluated sound (Stage.evaluates_of_step continued)
  have right' := (visited.next continued).evaluated sound evaluates
  obtain ⟨after, evaluated⟩ := evaluates
  obtain ⟨waiting, -, settings_eq, -, -, bred⟩ := visited.exists_waiting continued
  have population_eq : (waiting.nextPopulation solver.problem.loci g).1 = t.population :=
    congrArg Prod.fst bred
  have genomes : ∃ rest, g'.map Individual.genome =
      (g.ranked.take solver.settings.eliteCount).map Individual.genome ++ rest := by
    rw [genomes_of_evaluateAll evaluated, ← population_eq, ← settings_eq]
    exact ⟨_, rfl⟩
  obtain ⟨rest, opened⟩ := genomes
  obtain ⟨elite, others, rfl, sameGenomes, -⟩ := List.map_eq_append_iff.mp opened
  have same : elite = g.ranked.take solver.settings.eliteCount := by
    refine Individual.eq_of_genomes solver.problem.loci ?_ ?_ sameGenomes
    · intro x listed
      exact right' x (List.mem_append_left _ listed)
    · intro x listed
      exact right x (Generation.mem_ranked.mp (List.mem_of_mem_take listed))
  rw [same]
  exact List.prefix_append _ _

theorem fitnesses_le (valid : solver.settings.Valid) (visited : solver.Visits s)
    (continued : s.step solver.problem.loci = .continued g t)
    (evaluates : t.Evaluates solver.problem.loci g') {k : Nat}
    (few : k < solver.settings.eliteCount) :
    ∃ a ∈ g.fitnesses[k]?, ∃ b ∈ g'.fitnesses[k]?, a ≤ b := by
  apply Generation.fitnesses_le_of_opening (visited.opening sound continued evaluates) few
  obtain ⟨_, -, -, -, genomes, -⟩ := visited.exists_waiting continued
  have size := (visited.stocked valid).size
  rw [← genomes, List.length_map] at size
  rw [size]
  exact valid.eliteCount_lt.le

end Sound

end Visits

/-- From one generation of an evolution to the next, none of as many highest fitness values as there
are elites falls; so with elites the best fitness never does. -/
theorem evolve_keeps_elites (p : Problem) (settings : Settings) (source : σ) (deadline : Deadline)
    (earlier : List Genome) (generationsRun readings : Nat) (valid : settings.Valid) :
    let solver : GeneticSolver σ :=
      ⟨p, settings, source, deadline, .after p.loci earlier, generationsRun, readings⟩
    let course := solver.firstStage.course p.loci
    (∀ evolution after, solver.evolve = (.ok evolution, after) →
        evolution.generations = course) ∧
      course.IsChain (fun g g' => ∀ k < settings.eliteCount,
        ∃ a ∈ g.fitnesses[k]?, ∃ b ∈ g'.fitnesses[k]?, a ≤ b) ∧
      (0 < settings.eliteCount → course.Pairwise fun g g' =>
        ∃ a ∈ g.bestFitness?, ∃ b ∈ g'.bestFitness?, a ≤ b) := by
  intro solver course
  have sound : solver.cache.Sound p.loci := EvaluationCache.sound_after earlier
  have chain : course.IsChain fun g g' => ∀ k < settings.eliteCount,
      ∃ a ∈ g.fitnesses[k]?, ∃ b ∈ g'.fitnesses[k]?, a ≤ b := by
    apply (Visits.start : solver.Visits solver.firstStage).isChain_course
    intro s t g g' visited continued evaluates k few
    exact visited.fitnesses_le sound valid continued evaluates few
  refine ⟨?_, chain, ?_⟩
  · intro evolution after evolved
    exact Stage.generations_eq_course evolved
  · intro some_elite
    have best : course.IsChain Generation.BestLe := by
      apply chain.imp
      intro g g' rises
      rw [Generation.BestLe, Generation.bestFitness?_eq, Generation.bestFitness?_eq]
      exact rises 0 some_elite
    exact best.pairwise

/-- Two lectures of one person, who prefers the later slot, with a generator that repeats one word:
the two elites of three individuals improve one after the other. -/
theorem evolve_keeps_elites_later :
    let p := Problem.build [⟨"algebra", "ada", 20, false⟩, ⟨"logic", "ada", 20, false⟩]
      [⟨"hall", 30, []⟩] [⟨"Monday", "09:00", "10:00"⟩, ⟨"Monday", "10:00", "11:00"⟩]
      [("ada", ["Monday_10:00_11:00"])] []
    let settings : Settings := {
      populationSize := 3
      generations := 3
      mutationRate := .ofRatio false 1 1
      eliteCount := 2
      tournamentSize := 1 }
    let source : MersenneTwister := ⟨.replicate 624 0xffffffff, 0⟩
    let solver : GeneticSolver MersenneTwister :=
      ⟨p, settings, source, .never, .after p.loci [[none, none]], 3, 7⟩
    let course := solver.firstStage.course p.loci
    settings.Valid ∧
      course.map Generation.fitnesses = [[70, 70, 70], [140, 70, 70], [140, 140, 70]] ∧
      course.IsChain (fun g g' => ∀ k < 2,
        ∃ a ∈ g.fitnesses[k]?, ∃ b ∈ g'.fitnesses[k]?, a ≤ b) ∧
      course.Pairwise fun g g' => ∃ a ∈ g.bestFitness?, ∃ b ∈ g'.bestFitness?, a ≤ b := by
  intro p settings source solver course
  have valid : settings.Valid := by constructor <;> decide +kernel
  obtain ⟨generations, chain, best⟩ :=
    evolve_keeps_elites p settings source .never [[none, none]] 3 7 valid
  obtain ⟨evolution, after, evolved, ranked⟩ : ∃ evolution after,
      solver.evolve = (.ok evolution, after) ∧
        (evolution.generations.map fun g => g.ranked.map Individual.fitness) =
          [[70, 70, 70], [140, 70, 70], [140, 140, 70]] := exists_evolution (by decide +kernel)
  have same : evolution.generations = course := generations evolution after evolved
  refine ⟨valid, ?_, chain, best (by decide)⟩
  rw [← ranked, ← same]
  exact (List.map_congr_left fun g _ => g.map_fitness_ranked).symm

end GeneticSolver

end Timetabling
