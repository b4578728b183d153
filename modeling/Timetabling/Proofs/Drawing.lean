import Timetabling.Proofs.Population

/-!
# Checked draws

The random operations of the genetic search once more, on draws that fail where they have nothing to
draw from: a number below zero, an item of no items, a sample of no positions or of more than there
are. A population is filled up round by round, and a bound on the rounds that is reached is a
failure too. For genomes that fit their loci and settings that are valid nothing fails, so the
checked operations draw what the search draws.
-/

namespace Timetabling.Drawing

variable {σ : Type} [RandomSource σ]

def number? (bound : Nat) (s : σ) : Option (Nat × σ) :=
  if bound = 0 then none else some (RandomSource.below bound s)

def item? {α : Type} (items : List α) (s : σ) : Option (α × σ) := do
  let (i, s') ← number? items.length s
  let item ← items[i]?
  return (item, s')

/-- Some of the positions below a size, each at most once. -/
def positions? (size count : Nat) (s : σ) : Option (List Nat × σ) :=
  if size = 0 ∨ size < count then none else some (RandomSource.sample size count s)

def placement? (slots : List TimeSlot) (l : Locus) (s : σ) : Option (Option Placement × σ) :=
  if l.rooms.isEmpty || slots.isEmpty then some (none, s)
  else do
    let (room, s₁) ← item? l.rooms s
    let (slot, s₂) ← item? slots s₁
    return (some ⟨room, slot⟩, s₂)

def attempt? (slots : List TimeSlot) (l : Locus) (r : Reservations) :
    Nat → σ → Option (Option Placement × σ)
  | 0, s => some (none, s)
  | attempts + 1, s => do
    match ← placement? slots l s with
    | (none, s') => return (none, s')
    | (some c, s') =>
      if fits l.session c r then return (some c, s') else attempt? slots l r attempts s'

def genome? (slots : List TimeSlot) (attempts : Nat) :
    List Locus → Reservations → σ → Option (Genome × σ)
  | [], _, s => some ([], s)
  | l :: ls, r, s => do
    let (gene, s₁) ← attempt? slots l r attempts s
    let (genes, s₂) ← genome? slots attempts ls (l.reserve gene r) s₁
    return (gene :: genes, s₂)

def genomes? (slots : List TimeSlot) (attempts : Nat) (loci : List Locus) :
    Nat → σ → Option (List Genome × σ)
  | 0, s => some ([], s)
  | size + 1, s => do
    let (first, s₁) ← genome? slots attempts loci {} s
    let (rest, s₂) ← genomes? slots attempts loci size s₁
    return (first :: rest, s₂)

def parent? (settings : Settings) (ranked : List Individual) (s : σ) : Option (Genome × σ) := do
  let (drawn, s') ← positions? ranked.length (min settings.tournamentSize ranked.length) s
  match ← drawn.mapM fun i => ranked[i]? with
  | [] => none
  | first :: rest => return ((Tournament.best Individual.beats first rest).genome, s')

def crossover? (a b : Genome) (s : σ) : Option ((Genome × Genome) × σ) :=
  if a.length < 2 then some ((a, b), s)
  else do
    let (k, s') ← number? (a.length - 1) s
    return (Genome.swapTails (k + 1) a b, s')

def mutate? (slots : List TimeSlot) (loci : List Locus) (rate : Binary64) (genome : Genome)
    (s : σ) : Option (Genome × σ) :=
  if genome.isEmpty then some (genome, s)
  else
    let (u, s₁) := RandomSource.unit s
    if rate.le u then some (genome, s₁)
    else do
      let (i, s₂) ← number? genome.length s₁
      let l ← loci[i]?
      let (gene, s₃) ← placement? slots l s₂
      return (genome.set i gene, s₃)

def children? (settings : Settings) (ranked : List Individual) (s : σ) :
    Option ((Genome × Genome) × σ) := do
  let (a, s₁) ← parent? settings ranked s
  let (b, s₂) ← parent? settings ranked s₁
  let chance := RandomSource.unit s₂
  if chance.1.lt settings.crossoverRate then crossover? a b chance.2 else return ((a, b), chance.2)

/-- Adds a mutated child to a population, and a second one if there is room for it. -/
def round? (slots : List TimeSlot) (loci : List Locus) (settings : Settings)
    (ranked : List Individual) (population : List Genome) (s : σ) : Option (List Genome × σ) := do
  let ((a, b), s₁) ← children? settings ranked s
  let (first, s₂) ← mutate? slots loci settings.mutationRate a s₁
  if population.length + 1 < settings.populationSize then
    let (second, s₃) ← mutate? slots loci settings.mutationRate b s₂
    return (population ++ [first, second], s₃)
  else return (population ++ [first], s₂)

def fill? (slots : List TimeSlot) (loci : List Locus) (settings : Settings)
    (ranked : List Individual) : Nat → List Genome → σ → Option (List Genome × σ)
  | rounds, population, s =>
    if settings.populationSize ≤ population.length then some (population, s)
    else
      match rounds with
      | 0 => none
      | rounds + 1 => do
        let (population', s') ← round? slots loci settings ranked population s
        fill? slots loci settings ranked rounds population' s'

theorem number?_eq {bound : Nat} (positive : 0 < bound) (s : σ) :
    number? bound s = some (RandomSource.below bound s) :=
  if_neg (Nat.pos_iff_ne_zero.mp positive)

theorem positions?_eq {size count : Nat} (positive : 0 < size) (enough : count ≤ size) (s : σ) :
    positions? size count s = some (RandomSource.sample size count s) :=
  if_neg (by omega)

theorem exists_item?_eq_some {α : Type} {items : List α} (someItem : items ≠ []) (s : σ) :
    ∃ item s', item? items s = some (item, s') ∧
      RandomSource.choice? items s = (some item, s') := by
  have positive := List.length_pos_iff.mpr someItem
  have bound := RandomSource.below_lt positive s
  refine ⟨items[(RandomSource.below items.length s).1], (RandomSource.below items.length s).2,
    ?_, ?_⟩
  · simp [item?, number?_eq positive, bound]
  · cases items with
    | nil => exact absurd rfl someItem
    | cons first rest =>
      unfold RandomSource.choice?
      simp

section Initial

variable (slots : List TimeSlot)

theorem placement?_eq (l : Locus) (s : σ) :
    placement? slots l s = some (l.randomPlacement slots s) := by
  unfold placement? Locus.randomPlacement
  split
  next => rfl
  next choosable =>
    rw [Bool.or_eq_true, not_or] at choosable
    obtain ⟨someRoom, someSlot⟩ := choosable
    rw [List.isEmpty_iff] at someRoom someSlot
    obtain ⟨room, s₁, checkedRoom, drawnRoom⟩ := exists_item?_eq_some someRoom s
    obtain ⟨slot, s₂, checkedSlot, drawnSlot⟩ := exists_item?_eq_some someSlot s₁
    simp [checkedRoom, drawnRoom, checkedSlot, drawnSlot]

theorem attempt?_eq (l : Locus) (r : Reservations) (attempts : Nat) (s : σ) :
    attempt? slots l r attempts s = some (l.attempt slots r attempts s) := by
  induction attempts generalizing s with
  | zero => rfl
  | succ attempts ih =>
    unfold attempt? Locus.attempt
    rw [placement?_eq]
    cases l.randomPlacement slots s with
    | mk gene s' =>
      cases gene with
      | none => rfl
      | some c =>
        simp only [Option.bind_eq_bind, Option.bind_some]
        split
        next => rfl
        next => exact ih s'

theorem genome?_eq (attempts : Nat) (loci : List Locus) (r : Reservations) (s : σ) :
    genome? slots attempts loci r s = some (Genome.randomFrom slots attempts loci r s) := by
  induction loci generalizing r s with
  | nil => rfl
  | cons l ls ih =>
    unfold genome? Genome.randomFrom
    simp only [attempt?_eq, Option.bind_eq_bind, Option.bind_some, ih, Option.pure_def]

theorem genomes?_eq (attempts : Nat) (loci : List Locus) (size : Nat) (s : σ) :
    genomes? slots attempts loci size s =
      some (Genome.randomPopulation slots attempts loci size s) := by
  induction size generalizing s with
  | zero => rfl
  | succ size ih =>
    unfold genomes? Genome.randomPopulation Genome.random
    simp only [genome?_eq, Option.bind_eq_bind, Option.bind_some, ih, Option.pure_def]

end Initial

theorem mapM_getElem?_eq {α : Type} {items : List α} {drawn : List Nat}
    (inRange : ∀ i ∈ drawn, i < items.length) :
    (drawn.mapM fun i => items[i]?) =
      some ((drawn.filterMap fun i => items[i]?.map fun item => (i, item)).map Prod.snd) := by
  induction drawn with
  | nil => rfl
  | cons i rest ih =>
    obtain ⟨here, later⟩ := List.forall_mem_cons.mp inRange
    rw [List.mapM_cons, ih later, List.getElem?_eq_getElem here,
      List.filterMap_cons_some (by rw [List.getElem?_eq_getElem here, Option.map_some])]
    rfl

section Breeding

open GeneticSolver (parent children breed)

variable {slots : List TimeSlot} {loci : List Locus} {settings : Settings}
  {ranked : List Individual}

theorem crossover?_eq (a b : Genome) (s : σ) : crossover? a b s = some (a.crossover b s) := by
  unfold crossover? Genome.crossover
  split
  next => rfl
  next long =>
    rw [number?_eq (by omega)]
    rfl

theorem mutate?_eq (rate : Binary64) {genome : Genome} (complete : genome.length = loci.length)
    (s : σ) :
    mutate? slots loci rate genome s = some (genome.mutate slots loci rate s) := by
  unfold mutate? Genome.mutate Genome.mutate?
  split
  next => rfl
  next someGene =>
    simp only
    split
    next => rfl
    next =>
      rw [List.isEmpty_iff] at someGene
      have positive := List.length_pos_iff.mpr someGene
      have bound := RandomSource.below_lt positive (RandomSource.unit s).2
      rw [complete] at bound
      rw [number?_eq positive]
      simp only [Option.bind_eq_bind, Option.bind_some]
      rw [complete, List.getElem?_eq_getElem bound]
      simp only [Option.bind_some, placement?_eq]
      rfl

variable (someIndividual : ranked ≠ []) (tournament : 0 < settings.tournamentSize)

include someIndividual tournament

theorem parent?_eq (s : σ) : parent? settings ranked s = some (parent settings ranked s) := by
  have positive := List.length_pos_iff.mpr someIndividual
  have inRange : ∀ i ∈ (RandomSource.sample ranked.length
      (min settings.tournamentSize ranked.length) s).1, i < ranked.length := by
    intro i drawn
    exact RandomSource.sample_lt drawn
  have won : ∃ i,
      (Tournament.winner? Individual.beats ranked settings.tournamentSize s).1 = some i :=
    Tournament.exists_winner?_eq_some someIndividual tournament s
  unfold parent? parent
  rw [positions?_eq positive (Nat.min_le_right _ _)]
  simp only [Option.bind_eq_bind, Option.bind_some, mapM_getElem?_eq inRange]
  unfold Tournament.winner? at won ⊢
  simp only at won ⊢
  split at won
  next nobody =>
    obtain ⟨i, impossible⟩ := won
    cases impossible
  next first rest contenders =>
    -- A contender is an individual together with its position in the ranking.
    have member := Tournament.best_mem (fun a b : Nat × Individual => a.2.beats b.2) first rest
    rw [← contenders] at member
    obtain ⟨i, -, contender⟩ := List.mem_filterMap.mp member
    obtain ⟨x, located, same⟩ := Option.map_eq_some_iff.mp contender
    have among : Tournament.best Individual.beats first.2 (rest.map Prod.snd) =
        (Tournament.best (fun a b : Nat × Individual => a.2.beats b.2) first rest).2 :=
      Tournament.best_map (fun _ _ => rfl) first rest
    rw [contenders]
    simp only [List.map_cons, among, ← same, Option.bind_some, located, Option.map_some,
      Option.getD_some]
    rfl

theorem children?_eq (s : σ) :
    children? settings ranked s = some (children settings ranked s) := by
  unfold children? children
  rw [parent?_eq someIndividual tournament, Option.bind_eq_bind, Option.bind_some]
  cases parent settings ranked s with
  | mk a s₁ =>
    simp only
    rw [parent?_eq someIndividual tournament, Option.bind_some]
    cases parent settings ranked s₁ with
    | mk b s₂ =>
      simp only
      split
      next => exact crossover?_eq a b _
      next => rfl

variable (admissible : ∀ x ∈ ranked, x.genome.Admissible slots loci)

include admissible

theorem round?_eq {population : List Genome} {s s₁ s₂ s₃ : σ} {a b first second : Genome}
    (bred : children settings ranked s = ((a, b), s₁))
    (mutated : a.mutate slots loci settings.mutationRate s₁ = (first, s₂))
    (mutatedToo : b.mutate slots loci settings.mutationRate s₂ = (second, s₃)) :
    round? slots loci settings ranked population s =
      if population.length + 1 < settings.populationSize then
        some (population ++ [first, second], s₃)
      else some (population ++ [first], s₂) := by
  have complete := GeneticSolver.admissible_children someIndividual tournament admissible s
  rw [bred] at complete
  unfold round?
  rw [children?_eq someIndividual tournament, bred, Option.bind_eq_bind, Option.bind_some]
  simp only
  rw [mutate?_eq _ complete.1.length_eq.symm, mutated, Option.bind_eq_bind, Option.bind_some]
  simp only
  split
  next =>
    rw [mutate?_eq _ complete.2.length_eq.symm, mutatedToo, Option.bind_some]
    rfl
  next => rfl

/-- The genomes still missing are bred round by round. -/
theorem exists_fill?_eq (rounds : Nat) (population : List Genome) (s : σ)
    (enough : settings.populationSize - population.length ≤ 2 * rounds) :
    ∃ bred s', breed slots loci settings ranked (settings.populationSize - population.length) s =
        (bred, s') ∧
      fill? slots loci settings ranked rounds population s = some (population ++ bred, s') := by
  -- The induction is on the number of genomes that are missing.
  generalize missing : settings.populationSize - population.length = count at enough ⊢
  induction count using Nat.twoStepInduction generalizing rounds population s with
  | zero =>
    refine ⟨[], s, ?_, ?_⟩
    · rw [breed]
    · unfold fill?
      rw [if_pos (by omega), List.append_nil]
  | one =>
    cases rounds with
    | zero => omega
    | succ rounds =>
      rcases bred : children settings ranked s with ⟨⟨a, b⟩, s₁⟩
      rcases mutated : a.mutate slots loci settings.mutationRate s₁ with ⟨first, s₂⟩
      rcases mutatedToo : b.mutate slots loci settings.mutationRate s₂ with ⟨second, s₃⟩
      refine ⟨[first], s₂, ?_, ?_⟩
      · rw [breed, bred]
        simp only
        rw [mutated]
      · have full : settings.populationSize ≤ (population ++ [first]).length := by
          rw [List.length_append, List.length_singleton]
          omega
        unfold fill?
        rw [if_neg (by omega)]
        simp only
        rw [round?_eq someIndividual tournament admissible bred mutated mutatedToo,
          if_neg (by omega), Option.bind_eq_bind, Option.bind_some]
        unfold fill?
        rw [if_pos full]
  | more count ih _ =>
    cases rounds with
    | zero => omega
    | succ rounds =>
      rcases bred : children settings ranked s with ⟨⟨a, b⟩, s₁⟩
      rcases mutated : a.mutate slots loci settings.mutationRate s₁ with ⟨first, s₂⟩
      rcases mutatedToo : b.mutate slots loci settings.mutationRate s₂ with ⟨second, s₃⟩
      have fewer : settings.populationSize - (population ++ [first, second]).length = count := by
        rw [List.length_append, List.length_cons, List.length_singleton]
        omega
      obtain ⟨rest, s', bredRest, filled⟩ :=
        ih rounds (population ++ [first, second]) s₃ fewer (by omega)
      refine ⟨first :: second :: rest, s', ?_, ?_⟩
      · rw [breed, bred]
        simp only
        rw [mutated]
        simp only
        rw [mutatedToo]
        simp only
        rw [bredRest]
      · unfold fill?
        rw [if_neg (by omega)]
        simp only
        rw [round?_eq someIndividual tournament admissible bred mutated mutatedToo,
          if_pos (by omega), Option.bind_eq_bind, Option.bind_some]
        simp only
        rw [filled, List.append_assoc]
        rfl

end Breeding

end Timetabling.Drawing
