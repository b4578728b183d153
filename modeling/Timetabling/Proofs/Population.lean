import Mathlib.Data.List.Forall2
import Mathlib.Data.Nat.Init
import Timetabling.Proofs.Draws
import Timetabling.Search.Genetic

/-!
# Admissible populations

A genome is admissible if it has one gene for each locus, and every gene that is a placement names
an eligible classroom and an offered slot. Random genomes are admissible, and crossover, mutation
and breeding lead from admissible genomes to admissible genomes.
-/

namespace Timetabling

namespace Locus

/-- Whether a gene places nothing or is a placement that a random draw could give. -/
def Admits (slots : List TimeSlot) (l : Locus) (gene : Option Placement) : Prop :=
  ∀ c ∈ gene, c.classroom ∈ l.rooms ∧ c.slot ∈ slots

variable {σ : Type} [RandomSource σ] {slots : List TimeSlot} {l : Locus}

theorem admits_none : l.Admits slots none := by
  intro c placed
  cases placed

theorem exists_randomPlacement_eq_some (someRoom : l.rooms ≠ []) (someSlot : slots ≠ []) (s : σ) :
    ∃ c s', l.randomPlacement slots s = (some c, s') ∧ c.classroom ∈ l.rooms ∧ c.slot ∈ slots := by
  obtain ⟨room, eligible, drawnRoom⟩ := RandomSource.exists_choice?_eq_some someRoom s
  obtain ⟨slot, offered, drawnSlot⟩ :=
    RandomSource.exists_choice?_eq_some someSlot (RandomSource.choice? l.rooms s).2
  have choosable : ¬ (l.rooms.isEmpty || slots.isEmpty) = true := by
    simp [someRoom, someSlot]
  refine ⟨⟨room, slot⟩, (RandomSource.choice? slots (RandomSource.choice? l.rooms s).2).2, ?_,
    eligible, offered⟩
  rw [randomPlacement, if_neg choosable]
  simp only [drawnRoom, drawnSlot, Option.bind_some, Option.map_some]

theorem admits_randomPlacement (s : σ) : l.Admits slots (l.randomPlacement slots s).1 := by
  by_cases choosable : l.rooms.isEmpty || slots.isEmpty
  · rw [randomPlacement, if_pos choosable]
    exact admits_none
  · rw [Bool.or_eq_true, not_or, List.isEmpty_iff, List.isEmpty_iff] at choosable
    obtain ⟨someRoom, someSlot⟩ := choosable
    obtain ⟨c, s', drawn, eligible, offered⟩ := exists_randomPlacement_eq_some someRoom someSlot s
    intro c' placed
    rw [drawn] at placed
    cases placed
    exact ⟨eligible, offered⟩

theorem admits_attempt (r : Reservations) (attempts : Nat) (s : σ) :
    l.Admits slots (l.attempt slots r attempts s).1 := by
  induction attempts generalizing s with
  | zero => exact admits_none
  | succ attempts ih =>
    have drawn : l.Admits slots (l.randomPlacement slots s).1 := admits_randomPlacement s
    unfold attempt
    split
    next => exact admits_none
    next c s' placed =>
      rw [placed] at drawn
      split
      next => exact drawn
      next => exact ih s'

end Locus

namespace Genome

/-- One gene for each locus, and each of them admitted there. -/
def Admissible (slots : List TimeSlot) (loci : List Locus) (genome : Genome) : Prop :=
  List.Forall₂ (Locus.Admits slots) loci genome

variable {σ : Type} [RandomSource σ] {slots : List TimeSlot} {loci : List Locus} {a b : Genome}

theorem admissible_randomFrom (attempts : Nat) (r : Reservations) (s : σ) :
    (randomFrom slots attempts loci r s).1.Admissible slots loci := by
  induction loci generalizing r s with
  | nil => exact .nil
  | cons l ls ih => exact .cons (Locus.admits_attempt r attempts s) (ih _ _)

theorem length_randomPopulation (attempts size : Nat) (s : σ) :
    (randomPopulation slots attempts loci size s).1.length = size := by
  induction size generalizing s with
  | zero => rfl
  | succ size ih => exact congrArg Nat.succ (ih _)

theorem admissible_randomPopulation {attempts size : Nat} {s : σ} {genome : Genome}
    (membership : genome ∈ (randomPopulation slots attempts loci size s).1) :
    genome.Admissible slots loci := by
  induction size generalizing s with
  | zero => cases membership
  | succ size ih =>
    rcases List.mem_cons.mp membership with first | later
    · rw [first]
      exact admissible_randomFrom attempts {} s
    · exact ih later

theorem Admissible.set (admissible : a.Admissible slots loci) {i : Nat} {l : Locus}
    {gene : Option Placement} (located : loci[i]? = some l) (admits : l.Admits slots gene) :
    Admissible slots loci (a.set i gene) := by
  induction admissible generalizing i with
  | nil => exact .nil
  | cons head tail ih =>
    cases i with
    | zero =>
      cases located
      exact .cons admits tail
    | succ i => exact .cons head (ih located)

theorem Admissible.swapTails (first : a.Admissible slots loci) (second : b.Admissible slots loci)
    (point : Nat) :
    (swapTails point a b).1.Admissible slots loci ∧
      (swapTails point a b).2.Admissible slots loci := by
  have joined : ∀ {c d : Genome}, c.Admissible slots loci → d.Admissible slots loci →
      Admissible slots loci (c.take point ++ d.drop point) := by
    intro c d head tail
    have both := List.rel_append (List.forall₂_take point head) (List.forall₂_drop point tail)
    simp only [List.take_append_drop] at both
    exact both
  exact ⟨joined first second, joined second first⟩

theorem Admissible.crossover (first : a.Admissible slots loci) (second : b.Admissible slots loci)
    (s : σ) :
    (crossover a b s).1.1.Admissible slots loci ∧ (crossover a b s).1.2.Admissible slots loci := by
  unfold Genome.crossover
  split
  next => exact ⟨first, second⟩
  next => exact first.swapTails second _

/-- Mutation leaves a genome as it is, or it replaces the gene at one of its positions by a random
draw of the locus there. -/
theorem mutate?_cases (slots : List TimeSlot) (loci : List Locus) (rate : Binary64)
    (genome : Genome) (s : σ) :
    (genome.mutate? slots loci rate s).1 = some genome ∨
      ∃ (i : Nat) (s' : σ), i < genome.length ∧ (genome.mutate? slots loci rate s).1 =
        loci[i]?.map fun l => genome.set i (l.randomPlacement slots s').1 := by
  unfold mutate?
  split
  next => exact .inl rfl
  next someGene =>
    rw [List.isEmpty_iff] at someGene
    simp only
    split
    next => exact .inl rfl
    next =>
      have bound := RandomSource.below_lt (List.length_pos_iff.mpr someGene)
        (RandomSource.unit s).2
      refine .inr ⟨_, (RandomSource.below genome.length (RandomSource.unit s).2).2, bound, ?_⟩
      split
      next missing => rw [missing, Option.map_none]
      next l located => rw [located, Option.map_some]

theorem Admissible.mutate? (admissible : a.Admissible slots loci) (rate : Binary64) (s : σ)
    {mutant : Genome} (mutated : (mutate? slots loci rate a s).1 = some mutant) :
    mutant.Admissible slots loci := by
  rcases mutate?_cases slots loci rate a s with unchanged | ⟨i, s', -, changed⟩
  · cases unchanged.symm.trans mutated
    exact admissible
  · obtain ⟨l, located, rfl⟩ := Option.map_eq_some_iff.mp (changed.symm.trans mutated)
    exact admissible.set located (Locus.admits_randomPlacement s')

theorem Admissible.mutate (admissible : a.Admissible slots loci) (rate : Binary64) (s : σ) :
    (mutate slots loci rate a s).1.Admissible slots loci := by
  change ((Genome.mutate? slots loci rate a s).1.getD a).Admissible slots loci
  cases mutated : (Genome.mutate? slots loci rate a s).1 with
  | none => exact admissible
  | some mutant => exact admissible.mutate? rate s mutated

end Genome

namespace Generation

theorem mem_ranked {g : Generation} {x : Individual} : x ∈ g.ranked ↔ x ∈ g := by
  rw [ranked, stableSort_eq_mergeSort, List.mem_mergeSort]

theorem length_ranked (g : Generation) : g.ranked.length = g.length := by
  rw [ranked, stableSort_eq_mergeSort, List.length_mergeSort]

end Generation

namespace GeneticSolver

variable {σ : Type} [RandomSource σ] {slots : List TimeSlot} {loci : List Locus}
  {settings : Settings} {ranked : List Individual}

theorem parent_of_winner {s : σ} {i : Nat} {x : Individual}
    (won : (Tournament.winner? Individual.beats ranked settings.tournamentSize s).1 = some i)
    (located : ranked[i]? = some x) : (parent settings ranked s).1 = x.genome := by
  rw [parent]
  simp only [won, Option.bind_some, located, Option.map_some, Option.getD_some]

section Breeding

variable (someIndividual : ranked ≠ []) (tournament : 0 < settings.tournamentSize)
  (admissible : ∀ x ∈ ranked, x.genome.Admissible slots loci)

include someIndividual tournament admissible

theorem admissible_parent (s : σ) :
    (parent settings ranked s).1.Admissible slots loci := by
  obtain ⟨i, won⟩ : ∃ i,
      (Tournament.winner? Individual.beats ranked settings.tournamentSize s).1 = some i :=
    Tournament.exists_winner?_eq_some someIndividual tournament s
  have bound := Tournament.lt_of_winner?_eq_some won
  rw [parent_of_winner won (List.getElem?_eq_getElem bound)]
  exact admissible _ (List.getElem_mem bound)

theorem admissible_children (s : σ) :
    (children settings ranked s).1.1.Admissible slots loci ∧
      (children settings ranked s).1.2.Admissible slots loci := by
  have first := admissible_parent someIndividual tournament admissible s
  have second :=
    admissible_parent someIndividual tournament admissible (parent settings ranked s).2
  unfold children
  simp only
  split
  next => exact first.crossover second _
  next => exact ⟨first, second⟩

theorem admissible_breed {missing : Nat} {s : σ} {genome : Genome}
    (membership : genome ∈ (breed slots loci settings ranked missing s).1) :
    genome.Admissible slots loci := by
  induction missing using Nat.twoStepInduction generalizing s with
  | zero => cases membership
  | one =>
    have both := admissible_children someIndividual tournament admissible s
    simp only [breed, List.mem_singleton] at membership
    rw [membership]
    exact both.1.mutate _ _
  | more missing ih _ =>
    have both := admissible_children someIndividual tournament admissible s
    simp only [breed, List.mem_cons] at membership
    rcases membership with first | second | later
    · rw [first]
      exact both.1.mutate _ _
    · rw [second]
      exact both.2.mutate _ _
    · exact ih later

end Breeding

theorem length_breed (missing : Nat) (s : σ) :
    (breed slots loci settings ranked missing s).1.length = missing := by
  induction missing using Nat.twoStepInduction generalizing s with
  | zero => rfl
  | one => simp only [breed, List.length_singleton]
  | more missing ih _ => simp only [breed, List.length_cons, ih]

/-- A population of the required size, every genome of which is admissible. -/
structure Stocked (p : Problem) (settings : Settings) (population : List Genome) : Prop where
  size : population.length = settings.populationSize
  admissible : ∀ genome ∈ population, genome.Admissible p.slots p.loci

theorem stocked_initialPopulation (solver : GeneticSolver σ) :
    Stocked solver.problem solver.settings solver.initialPopulation.1 := by
  have drawn : solver.initialPopulation.1 = (Genome.randomPopulation solver.problem.slots
    solver.settings.placementAttempts solver.problem.loci solver.settings.populationSize
    solver.source).1 := rfl
  rw [drawn]
  constructor
  · exact Genome.length_randomPopulation _ _ _
  · intro genome membership
    exact Genome.admissible_randomPopulation membership

section Ranking

variable {p : Problem} {g : Generation} (stocked : Stocked p settings (g.map Individual.genome))

include stocked

theorem Stocked.length_ranked : g.ranked.length = settings.populationSize := by
  rw [Generation.length_ranked, ← stocked.size, List.length_map]

theorem Stocked.ranked_ne_nil (valid : settings.Valid) : g.ranked ≠ [] := by
  apply List.ne_nil_of_length_pos
  rw [stocked.length_ranked]
  exact Nat.lt_of_lt_of_le Nat.two_pos valid.le_populationSize

theorem Stocked.admissible_ranked :
    ∀ x ∈ g.ranked, x.genome.Admissible p.slots p.loci := by
  intro x membership
  exact stocked.admissible _ (List.mem_map_of_mem (Generation.mem_ranked.mp membership))

end Ranking

theorem Stocked.nextPopulation {solver : GeneticSolver σ} {g : Generation}
    (stocked : Stocked solver.problem solver.settings (g.map Individual.genome))
    (valid : solver.settings.Valid) :
    Stocked solver.problem solver.settings
      (solver.nextPopulation solver.problem.loci g).1 := by
  constructor
  · change (_ ++ (breed _ _ _ _ _ _).1).length = _
    rw [List.length_append, length_breed, List.length_map, List.length_take,
      stocked.length_ranked]
    omega
  · intro genome membership
    rcases List.mem_append.mp membership with elite | bred
    · obtain ⟨x, kept, rfl⟩ := List.mem_map.mp elite
      exact stocked.admissible_ranked x (List.mem_of_mem_take kept)
    · exact admissible_breed (stocked.ranked_ne_nil valid) valid.tournamentSize_pos
        stocked.admissible_ranked bred

end GeneticSolver

end Timetabling
