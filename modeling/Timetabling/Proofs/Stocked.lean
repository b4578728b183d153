import Timetabling.Proofs.Drawing
import Timetabling.Proofs.Outcome
import Timetabling.Proofs.Stages

/-!
# Populations throughout an evolution

Every population that an evolution evaluates is stocked: it has the required size, and each of its
genomes has one gene for each section, which is no placement or one in a large enough classroom at
an offered slot. This needs no more than valid settings. The problem may be one that no solve would
accept, and the cache may know whatever it likes. So no gene ever breaks a capacity, and every draw
has something to draw from.
-/

namespace Timetabling

theorem capacity_lt_of_conflict? {session : Session} {c : Placement} {r : Reservations}
    (broken : conflict? session c r = some .capacity) :
    c.classroom.capacity < session.capacity := by
  simp only [conflict?] at broken
  split at broken
  next => cases broken
  next =>
    split at broken
    next => cases broken
    next =>
      split at broken
      next => cases broken
      next =>
        split at broken
        next small => exact small
        next => cases broken

namespace Locus

def conflict? (l : Locus) (gene : Option Placement) (r : Reservations) : Option Conflict :=
  gene.bind fun c => Timetabling.conflict? l.session c r

theorem violations_of_score {l : Locus} {gene : Option Placement} {r : Reservations}
    {e : Evaluation} (scored : l.score gene r = .ok e) :
    e.violations = (l.conflict? gene r).toList.length := by
  cases gene with
  | none =>
    cases scored
    rfl
  | some c =>
    cases divided : quotient l.session.capacity c.classroom.capacity with
    | error fault => simp [score, divided, bind, Except.bind] at scored
    | ok ratio =>
      simp only [score, divided, bind, Except.bind, pure, Except.pure, Except.ok.injEq] at scored
      rw [← scored]
      simp only [conflict?, Option.bind_some]
      cases Timetabling.conflict? l.session c r <;> rfl

end Locus

namespace Genome

/-- The constraints that genes break, one after another, on top of some reservations. -/
def conflictsFrom : List Locus → Genome → Reservations → List Conflict
  | l :: ls, gene :: genes, r =>
    (l.conflict? gene r).toList ++ conflictsFrom ls genes (l.reserve gene r)
  | _, _, _ => []

def conflicts (loci : List Locus) (genome : Genome) : List Conflict :=
  conflictsFrom loci genome {}

theorem violations_of_evaluateFrom {loci : List Locus} {genome : Genome} {r : Reservations}
    {e : Evaluation} (evaluated : evaluateFrom loci genome r = .ok e) :
    e.violations = (conflictsFrom loci genome r).length := by
  induction loci generalizing genome r e with
  | nil =>
    cases evaluated
    rfl
  | cons l loci ih =>
    cases genome with
    | nil =>
      cases evaluated
      rfl
    | cons gene genome =>
      obtain ⟨head, tail, scored, replayed, rfl⟩ := evaluateFrom_cons.mp evaluated
      have first := Locus.violations_of_score scored
      have later := ih replayed
      unfold conflictsFrom
      rw [List.length_append, ← first, ← later]
      rfl

theorem Admissible.capacity_not_mem_conflictsFrom {slots : List TimeSlot} {loci : List Locus}
    {genome : Genome} (admissible : genome.Admissible slots loci)
    (large : ∀ l ∈ loci, ∀ room ∈ l.rooms, l.session.capacity ≤ room.capacity) (r : Reservations) :
    Conflict.capacity ∉ conflictsFrom loci genome r := by
  induction admissible generalizing r with
  | nil => exact List.not_mem_nil
  | @cons l gene loci genome admits _ ih =>
    obtain ⟨here, later⟩ := List.forall_mem_cons.mp large
    intro broken
    rcases List.mem_append.mp broken with first | rest
    · obtain ⟨c, rfl, conflicting⟩ := Option.bind_eq_some_iff.mp (Option.mem_toList.mp first)
      have small := capacity_lt_of_conflict? conflicting
      have enough := here c.classroom (admits c rfl).1
      omega
    · exact ih later _ rest

/-- One gene for each section: nothing, or one of the problem's slots in one of its classrooms that
is large enough. Where no classroom is large enough the gene is nothing. -/
structure Proper (p : Problem) (genome : Genome) : Prop where
  length_eq : genome.length = p.sections.length
  placed : ∀ (i : Nat) (sec : Section) (c : Placement), p.sections[i]? = some sec →
    genome[i]? = some (some c) →
      c.classroom ∈ p.classrooms ∧ sec.capacity ≤ c.classroom.capacity ∧ c.slot ∈ p.slots
  unplaced : ∀ (i : Nat) (sec : Section), p.sections[i]? = some sec →
    (∀ room ∈ p.classrooms, room.capacity < sec.capacity) → genome[i]? = some none

theorem Admissible.admits {p : Problem} {genome : Genome}
    (admissible : genome.Admissible p.slots p.loci) {i : Nat} {sec : Section}
    {gene : Option Placement} (located : p.sections[i]? = some sec)
    (carried : genome[i]? = some gene) : (p.locus sec).Admits p.slots gene := by
  obtain ⟨inSections, rfl⟩ := List.getElem?_eq_some_iff.mp located
  obtain ⟨inGenome, rfl⟩ := List.getElem?_eq_some_iff.mp carried
  have inLoci : i < p.loci.length := by
    rw [Problem.loci, List.length_map]
    exact inSections
  have admits := List.Forall₂.get admissible inLoci inGenome
  simpa [Problem.loci] using admits

theorem Admissible.proper {p : Problem} {genome : Genome}
    (admissible : genome.Admissible p.slots p.loci) : genome.Proper p := by
  have length_eq : genome.length = p.sections.length := by
    rw [← admissible.length_eq, Problem.loci, List.length_map]
  have placed : ∀ (i : Nat) (sec : Section) (c : Placement), p.sections[i]? = some sec →
      genome[i]? = some (some c) →
        c.classroom ∈ p.classrooms ∧ sec.capacity ≤ c.classroom.capacity ∧ c.slot ∈ p.slots := by
    intro i sec c located carried
    obtain ⟨eligible, offered⟩ := admissible.admits located carried c rfl
    obtain ⟨known, large⟩ := Problem.mem_rooms_locus.mp eligible
    exact ⟨known, large, offered⟩
  refine ⟨length_eq, placed, ?_⟩
  intro i sec located small
  obtain ⟨inSections, -⟩ := List.getElem?_eq_some_iff.mp located
  rw [← length_eq] at inSections
  have carried := List.getElem?_eq_getElem inSections
  cases gene : genome[i] with
  | none => rw [carried, gene]
  | some c =>
    rw [gene] at carried
    obtain ⟨known, large, -⟩ := placed i sec c located carried
    have tooSmall := small c.classroom known
    omega

end Genome

theorem Problem.large_loci (p : Problem) :
    ∀ l ∈ p.loci, ∀ room ∈ l.rooms, l.session.capacity ≤ room.capacity := by
  intro l located room eligible
  obtain ⟨sec, -, rfl⟩ := List.mem_map.mp located
  exact (Problem.mem_rooms_locus.mp eligible).2

namespace GeneticSolver

variable {σ : Type}

theorem genomes_of_evaluateAll {loci : List Locus} {solver after : GeneticSolver σ}
    {population : List Genome} {g : Generation}
    (evaluated : solver.evaluateAll loci population = (.ok g, after)) :
    g.map Individual.genome = population := by
  induction population generalizing solver after g with
  | nil =>
    cases evaluated
    rfl
  | cons genome rest ih =>
    unfold evaluateAll at evaluated
    split at evaluated
    next => cases evaluated
    next e next _ =>
      split at evaluated
      next => cases evaluated
      next others last evaluatedRest =>
        cases evaluated
        rw [List.map_cons, ih evaluatedRest]

variable [RandomSource σ]

/-- A population of the required size whose genomes are proper and break no capacity. -/
structure Populates (p : Problem) (settings : Settings) (population : List Genome) : Prop where
  size : population.length = settings.populationSize
  proper : ∀ genome ∈ population, genome.Proper p
  roomy : ∀ genome ∈ population, Conflict.capacity ∉ genome.conflicts p.loci

theorem Stocked.populates {p : Problem} {settings : Settings} {population : List Genome}
    (stocked : Stocked p settings population) : Populates p settings population where
  size := stocked.size
  proper genome membership := (stocked.admissible genome membership).proper
  roomy genome membership :=
    (stocked.admissible genome membership).capacity_not_mem_conflictsFrom p.large_loci {}

theorem Visits.keeps {solver : GeneticSolver σ} {s : Stage σ} (visited : solver.Visits s) :
    s.solver.problem = solver.problem ∧ s.solver.settings = solver.settings := by
  induction visited with
  | start => exact ⟨rfl, rfl⟩
  | @next s t g visited continued ih =>
    have advances := s.advances_step solver.problem.loci
    rw [continued] at advances
    cases advances with
    | continued _ _ _ _ _ _ _ waiting clock =>
      subst clock
      exact ih

/-- The population after a visited stage is bred from the evaluation of the population there, by a
solver that has drawn nothing since. -/
theorem Visits.exists_waiting {solver : GeneticSolver σ} {s t : Stage σ} {g : Generation}
    (visited : solver.Visits s) (continued : s.step solver.problem.loci = .continued g t) :
    ∃ waiting : GeneticSolver σ, waiting.problem = solver.problem ∧
      waiting.settings = solver.settings ∧ waiting.source = s.solver.source ∧
      g.map Individual.genome = s.population ∧
      waiting.nextPopulation solver.problem.loci g = (t.population, t.solver) := by
  have kept := visited.keeps
  have advances := s.advances_step solver.problem.loci
  rw [continued] at advances
  cases advances with
  | continued _ _ _ _ evaluated _ _ waiting clock =>
    refine ⟨waiting, ?_, ?_, ?_, genomes_of_evaluateAll evaluated, rfl⟩
    · rw [clock]
      exact kept.1
    · rw [clock]
      exact kept.2
    · rw [clock]
      rfl

theorem Visits.stocked {solver : GeneticSolver σ} (valid : solver.settings.Valid) {s : Stage σ}
    (visited : solver.Visits s) : Stocked solver.problem solver.settings s.population := by
  induction visited with
  | start => exact stocked_initialPopulation solver
  | next visited continued ih =>
    obtain ⟨waiting, problem_eq, settings_eq, -, genomes, bred⟩ := visited.exists_waiting continued
    rw [← genomes, ← problem_eq, ← settings_eq] at ih
    have next := ih.nextPopulation (settings_eq ▸ valid)
    rw [problem_eq, settings_eq, bred] at next
    exact next

/-- The refill of a visited stage needs no more rounds than the missing genomes ask for, and fails
nowhere. -/
theorem Visits.fill?_eq {solver : GeneticSolver σ} (valid : solver.settings.Valid) {s t : Stage σ}
    {g : Generation} (visited : solver.Visits s)
    (continued : s.step solver.problem.loci = .continued g t) (rounds : Nat)
    (enough : solver.settings.populationSize - solver.settings.eliteCount ≤ 2 * rounds) :
    Drawing.fill? solver.problem.slots solver.problem.loci solver.settings g.ranked rounds
        ((g.ranked.take solver.settings.eliteCount).map Individual.genome) s.solver.source =
      some (t.population, t.solver.source) := by
  obtain ⟨waiting, problem_eq, settings_eq, source_eq, genomes, bred⟩ :=
    visited.exists_waiting continued
  have stocked := visited.stocked valid
  rw [← genomes] at stocked
  have elite : ((g.ranked.take solver.settings.eliteCount).map Individual.genome).length =
      solver.settings.eliteCount := by
    rw [List.length_map, List.length_take, stocked.length_ranked]
    exact Nat.min_eq_left valid.eliteCount_lt.le
  rw [← elite] at enough
  obtain ⟨rest, source, drawn, filled⟩ := Drawing.exists_fill?_eq (stocked.ranked_ne_nil valid)
    valid.tournamentSize_pos stocked.admissible_ranked rounds _ s.solver.source enough
  rw [filled]
  unfold nextPopulation draw at bred
  simp only [problem_eq, settings_eq, source_eq, drawn] at bred
  obtain ⟨population_eq, solver_eq⟩ := Prod.mk.inj bred
  rw [← population_eq, ← solver_eq]

/-- Throughout an evolution with valid settings every population is as it should be, no capacity is
counted against a genome, and no draw fails: neither in the initial population nor in a refill,
which ends within half as many rounds as genomes are missing. -/
theorem evolve_populates (solver : GeneticSolver σ) (valid : solver.settings.Valid) :
    let p := solver.problem
    let settings := solver.settings
    Drawing.genomes? p.slots settings.placementAttempts p.loci settings.populationSize
        solver.source = some (solver.firstStage.population, solver.firstStage.solver.source) ∧
      (∀ s, solver.Visits s → Populates p settings s.population ∧
        ∀ g t, s.step p.loci = .continued g t → ∀ rounds,
          settings.populationSize - settings.eliteCount ≤ 2 * rounds →
            Drawing.fill? p.slots p.loci settings g.ranked rounds
                ((g.ranked.take settings.eliteCount).map Individual.genome) s.solver.source =
              some (t.population, t.solver.source)) ∧
      (∀ genome e, Genome.evaluate p.loci genome = .ok e →
        e.violations = (genome.conflicts p.loci).length) ∧
      match solver.evolve with
      | (.ok evolution, _) =>
        ∀ g ∈ evolution.generations, Populates p settings (g.map Individual.genome)
      | (.error fault, after) => ∃ s, solver.Visits s ∧
        s.solver.startGeneration.evaluateAll p.loci s.population = (.error fault, after) := by
  intro p settings
  refine ⟨Drawing.genomes?_eq _ _ _ _ _, ?_, ?_, ?_⟩
  · intro s visited
    refine ⟨(visited.stocked valid).populates, ?_⟩
    intro g t continued rounds enough
    exact visited.fill?_eq valid continued rounds enough
  · intro genome e evaluated
    exact Genome.violations_of_evaluateFrom evaluated
  · have ran := (Visits.start : solver.Visits solver.firstStage).run
    rw [← evolve_eq_run] at ran
    generalize solver.evolve = evolved at ran ⊢
    obtain ⟨result, after⟩ := evolved
    cases result with
    | error fault => exact ran
    | ok evolution =>
      intro g membership
      obtain ⟨s, _, visited, evaluated⟩ := ran g membership
      rw [genomes_of_evaluateAll evaluated]
      exact (visited.stocked valid).populates

/-- One genome of four is passed on, so the refill of each further generation takes two rounds. -/
theorem evolve_populates_morning :
    let p := Problem.morning
    let solver : GeneticSolver MersenneTwister :=
      { problem := p, settings := .brief, source := .multiples }
    Settings.brief.Valid ∧
      Drawing.genomes? p.slots 1 p.loci 4 MersenneTwister.multiples =
        some (solver.firstStage.population, solver.firstStage.solver.source) ∧
      (∀ s, solver.Visits s → Populates p .brief s.population ∧
        ∀ g t, s.step p.loci = .continued g t →
          Drawing.fill? p.slots p.loci .brief g.ranked 2 ((g.ranked.take 1).map Individual.genome)
            s.solver.source = some (t.population, t.solver.source)) ∧
      ∃ evolution after, solver.evolve = (.ok evolution, after) ∧
        evolution.generations.length = 3 ∧
        ∀ g ∈ evolution.generations, Populates p .brief (g.map Individual.genome) := by
  intro p solver
  obtain ⟨evolution, after, evolved, three⟩ : ∃ evolution after,
      solver.evolve = (.ok evolution, after) ∧ evolution.generations.length = 3 :=
    exists_evolution (by decide +kernel)
  have populates := evolve_populates solver Settings.valid_brief
  rw [evolved] at populates
  obtain ⟨drawn, visited, -, generations⟩ := populates
  refine ⟨Settings.valid_brief, drawn, ?_, evolution, after, evolved, three, generations⟩
  intro s visits
  obtain ⟨populates, refilled⟩ := visited s visits
  exact ⟨populates, fun g t continued => refilled g t continued 2 (by decide)⟩

end GeneticSolver

end Timetabling
