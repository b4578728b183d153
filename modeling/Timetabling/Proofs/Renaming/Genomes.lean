import Timetabling.Proofs.Draws
import Timetabling.Proofs.Occupancy
import Timetabling.Proofs.Renaming.Basic
import Timetabling.Search.Genetic

/-!
# Genomes under new names

Random genomes, crossover, mutation and tournaments draw the same numbers under the new names and
give the same genomes under these names. Evaluations are the same numbers. Reservations decide both,
so the reservations of the two problems are compared through the lessons that they stand for.
-/

namespace Timetabling

namespace Renaming

variable (ρ : Renaming)

def locus (q : Problem) (l : Locus) : Locus :=
  ⟨ρ.session q l.session, l.rooms.map ρ.room, l.preferred⟩

def individual (x : Individual) : Individual :=
  { x with genome := ρ.genome x.genome }

/-- Reservations of the two problems that stand for the same lessons. -/
structure Keeps (q : Problem) (lessons : List Lesson) (r r' : Reservations) : Prop where
  before : r.Books lessons
  after : r'.Books (lessons.map (ρ.lesson q))

variable {ρ} {p q : Problem} {lessons : List Lesson} {r r' : Reservations}

theorem keeps_empty (q : Problem) : ρ.Keeps q [] {} {} :=
  ⟨Reservations.books_empty, Reservations.books_empty⟩

theorem Keeps.place (keeps : ρ.Keeps q lessons r r') (session : Session) (c : Placement) :
    ρ.Keeps q (⟨session, c⟩ :: lessons) (r.place session c)
      (r'.place (ρ.session q session) (ρ.placement c)) where
  before := keeps.before.place session c
  after := keeps.after.place (ρ.session q session) (ρ.placement c)

namespace Carries

variable (carries : ρ.Carries p q) {session : Session} {later : List Session} {l : Locus}

include carries

theorem loci_eq : q.loci = p.loci.map (ρ.locus q) := by
  unfold Problem.loci
  rw [carries.sections_eq, List.map_map, List.map_map]
  apply List.map_congr_left
  intro sec _
  have rooms : eligibleClassrooms q.classrooms (ρ.sec sec) =
      (eligibleClassrooms p.classrooms sec).map ρ.room := by
    rw [carries.classrooms_eq, eligibleClassrooms_map]
  have preferred : q.preferredKeys (ρ.sec sec).instructor = p.preferredKeys sec.instructor :=
    carries.preferredKeys_eq sec.instructor
  unfold locus
  simp only [Function.comp_apply, Problem.locus, rooms, preferred]
  rfl

theorem fits_eq (listed : p.Listed (session :: later ++ lessons.map Lesson.session))
    (keeps : ρ.Keeps q lessons r r') (c : Placement) :
    fits (ρ.session q session) (ρ.placement c) r' = fits session c r := by
  rw [Bool.eq_iff_iff, keeps.after.fits_iff, keeps.before.fits_iff]
  exact and_congr_left fun _ => listed.separate_iff carries c

theorem score_eq (listed : p.Listed (l.session :: later ++ lessons.map Lesson.session))
    (keeps : ρ.Keeps q lessons r r') (gene : Option Placement) :
    (ρ.locus q l).score (ρ.gene gene) r' = l.score gene r := by
  cases gene with
  | none => rfl
  | some c =>
    have violated : (conflict? (ρ.session q l.session) (ρ.placement c) r').isSome =
        (conflict? l.session c r).isSome := by
      have fitting := carries.fits_eq listed keeps c
      unfold fits at fitting
      rw [← Option.not_isNone, ← Option.not_isNone, fitting]
    unfold Locus.score gene
    simp only [Option.map_some, locus, violated]
    rfl

theorem evaluateFrom_eq {loci : List Locus} {genome : Genome}
    (listed : p.Listed (loci.map Locus.session ++ lessons.map Lesson.session))
    (keeps : ρ.Keeps q lessons r r') :
    Genome.evaluateFrom (loci.map (ρ.locus q)) (ρ.genome genome) r' =
      Genome.evaluateFrom loci genome r := by
  induction loci generalizing genome lessons r r' with
  | nil => rfl
  | cons l loci ih =>
    cases genome with
    | nil => rfl
    | cons gene genome =>
      -- A gene is reserved even if it conflicts, so the lessons of both problems grow by it.
      have rest : Genome.evaluateFrom (loci.map (ρ.locus q)) (ρ.genome genome)
          ((ρ.locus q l).reserve (ρ.gene gene) r') =
            Genome.evaluateFrom loci genome (l.reserve gene r) := by
        cases gene with
        | none => exact ih listed.tail keeps
        | some c => exact ih (listed.place c) (keeps.place l.session c)
      have cons : ρ.genome (gene :: genome) = ρ.gene gene :: ρ.genome genome := rfl
      rw [List.map_cons, cons, Genome.evaluateFrom, Genome.evaluateFrom,
        carries.score_eq listed keeps, rest]

end Carries

end Renaming

theorem Problem.listed_loci {p : Problem} (nodup : p.sectionIds.Nodup) :
    p.Listed (p.loci.map Locus.session ++ ([] : List Lesson).map Lesson.session) := by
  have sessions : p.loci.map Locus.session = p.sessions := by
    rw [Problem.loci, List.map_map]
    rfl
  rw [List.map_nil, List.append_nil, sessions]
  exact Problem.listed_sessions nodup

namespace Renaming

variable {ρ : Renaming} {p q : Problem} {lessons : List Lesson} {r r' : Reservations}

theorem Carries.evaluate_eq (carries : ρ.Carries p q) (nodup : p.sectionIds.Nodup)
    (genome : Genome) : (ρ.genome genome).evaluate q.loci = genome.evaluate p.loci := by
  unfold Genome.evaluate
  rw [carries.loci_eq]
  exact carries.evaluateFrom_eq (Problem.listed_loci nodup) (keeps_empty q)

variable {σ : Type} [RandomSource σ] {slots : List TimeSlot} {l : Locus}

section Initial

theorem choice?_map {α β : Type} (f : α → β) (items : List α) (s : σ) :
    RandomSource.choice? (items.map f) s =
      Prod.map (Option.map f) id (RandomSource.choice? items s) := by
  cases items with
  | nil => rfl
  | cons first rest =>
    unfold RandomSource.choice?
    simp only [List.map_cons, List.length_cons, List.length_map]
    rw [← List.map_cons, List.getElem?_map]
    rfl

theorem randomPlacement_map (slots : List TimeSlot) (q : Problem) (l : Locus) (s : σ) :
    (ρ.locus q l).randomPlacement slots s = Prod.map ρ.gene id (l.randomPlacement slots s) := by
  unfold Locus.randomPlacement locus
  simp only [List.isEmpty_map, choice?_map]
  split
  next => rfl
  next =>
    rcases RandomSource.choice? l.rooms s with ⟨room?, s₁⟩
    simp only [Prod.map_apply, id_eq]
    rcases RandomSource.choice? slots s₁ with ⟨slot?, s₂⟩
    cases room? <;> cases slot? <;> rfl

variable (carries : ρ.Carries p q)

include carries

theorem Carries.attempt_eq {later : List Session}
    (listed : p.Listed (l.session :: later ++ lessons.map Lesson.session))
    (keeps : ρ.Keeps q lessons r r') (attempts : Nat) (s : σ) :
    (ρ.locus q l).attempt slots r' attempts s =
      Prod.map ρ.gene id (l.attempt slots r attempts s) := by
  induction attempts generalizing s with
  | zero => rfl
  | succ attempts ih =>
    unfold Locus.attempt
    rw [randomPlacement_map]
    rcases l.randomPlacement slots s with ⟨gene, s'⟩
    cases gene with
    | none => rfl
    | some c =>
      have fitting : fits (ρ.locus q l).session (ρ.placement c) r' = fits l.session c r :=
        carries.fits_eq listed keeps c
      simp only [Prod.map_apply, gene, Option.map_some, id_eq, fitting]
      split
      next => rfl
      next => exact ih s'

theorem Carries.randomFrom_eq (attempts : Nat) {loci : List Locus}
    (listed : p.Listed (loci.map Locus.session ++ lessons.map Lesson.session))
    (keeps : ρ.Keeps q lessons r r') (s : σ) :
    Genome.randomFrom slots attempts (loci.map (ρ.locus q)) r' s =
      Prod.map ρ.genome id (Genome.randomFrom slots attempts loci r s) := by
  induction loci generalizing lessons r r' s with
  | nil => rfl
  | cons l loci ih =>
    rw [List.map_cons, Genome.randomFrom, Genome.randomFrom, carries.attempt_eq listed keeps]
    rcases l.attempt slots r attempts s with ⟨gene, s₁⟩
    have rest : Genome.randomFrom slots attempts (loci.map (ρ.locus q))
        ((ρ.locus q l).reserve (ρ.gene gene) r') s₁ =
          Prod.map ρ.genome id (Genome.randomFrom slots attempts loci (l.reserve gene r) s₁) := by
      cases gene with
      | none => exact ih listed.tail keeps s₁
      | some c => exact ih (listed.place c) (keeps.place l.session c) s₁
    simp only [Prod.map_apply, id_eq, rest]
    rfl

theorem Carries.randomPopulation_eq (nodup : p.sectionIds.Nodup) (attempts size : Nat) (s : σ) :
    Genome.randomPopulation slots attempts q.loci size s =
      Prod.map (List.map ρ.genome) id
        (Genome.randomPopulation slots attempts p.loci size s) := by
  induction size generalizing s with
  | zero => rfl
  | succ size ih =>
    have first : Genome.random slots attempts q.loci s =
        Prod.map ρ.genome id (Genome.random slots attempts p.loci s) := by
      unfold Genome.random
      rw [carries.loci_eq]
      exact carries.randomFrom_eq attempts (Problem.listed_loci nodup) (keeps_empty q) s
    rw [Genome.randomPopulation, Genome.randomPopulation, first]
    rcases Genome.random slots attempts p.loci s with ⟨genome, s₁⟩
    simp only [Prod.map_apply, id_eq, ih]
    rfl

end Initial

section Variation

theorem swapTails_map (point : Nat) (a b : Genome) :
    Genome.swapTails point (ρ.genome a) (ρ.genome b) =
      Prod.map ρ.genome ρ.genome (Genome.swapTails point a b) := by
  simp only [Genome.swapTails, genome, Prod.map_apply, List.map_append, List.map_take,
    List.map_drop]

theorem crossover_map (a b : Genome) (s : σ) :
    (ρ.genome a).crossover (ρ.genome b) s =
      Prod.map (Prod.map ρ.genome ρ.genome) id (a.crossover b s) := by
  have length : (ρ.genome a).length = a.length := List.length_map _
  unfold Genome.crossover
  rw [length]
  split
  next => rfl
  next => simp only [swapTails_map, Prod.map_apply, id_eq]

theorem mutate_map (slots : List TimeSlot) (loci : List Locus) (rate : Binary64) (a : Genome)
    (s : σ) :
    (ρ.genome a).mutate slots (loci.map (ρ.locus q)) rate s =
      Prod.map ρ.genome id (a.mutate slots loci rate s) := by
  have length : (ρ.genome a).length = a.length := List.length_map _
  have empty : (ρ.genome a).isEmpty = a.isEmpty := List.isEmpty_map
  have mutated : Genome.mutate? slots (loci.map (ρ.locus q)) rate (ρ.genome a) s =
      Prod.map (Option.map ρ.genome) id (Genome.mutate? slots loci rate a s) := by
    unfold Genome.mutate?
    rw [empty]
    split
    next => rfl
    next =>
      rcases RandomSource.unit s with ⟨u, s₁⟩
      simp only
      split
      next => rfl
      next =>
        rw [length]
        rcases RandomSource.below a.length s₁ with ⟨i, s₂⟩
        simp only [List.getElem?_map]
        cases loci[i]? with
        | none => rfl
        | some l =>
          simp only [Option.map_some, randomPlacement_map]
          rcases l.randomPlacement slots s₂ with ⟨gene, s₃⟩
          simp only [Prod.map_apply, id_eq, Option.map_some, genome, List.map_set]
  unfold Genome.mutate
  rw [mutated]
  rcases Genome.mutate? slots loci rate a s with ⟨mutant?, s'⟩
  cases mutant? <;> rfl

end Variation

section Breeding

variable {settings : Settings} {ranked : List Individual}

theorem winner?_map {α β : Type} {beats : α → α → Bool} {beats' : β → β → Bool} {f : α → β}
    (same : ∀ a b, beats' (f a) (f b) = beats a b) (items : List α) (size : Nat) (s : σ) :
    Tournament.winner? beats' (items.map f) size s = Tournament.winner? beats items size s := by
  unfold Tournament.winner?
  rw [List.length_map]
  rcases RandomSource.sample items.length (min size items.length) s with ⟨drawn, s'⟩
  have contenders : (drawn.filterMap fun i => (items.map f)[i]?.map fun item => (i, item)) =
      (drawn.filterMap fun i => items[i]?.map fun item => (i, item)).map (Prod.map id f) := by
    rw [List.map_filterMap]
    congr 1
    funext i
    rw [List.getElem?_map]
    cases items[i]? <;> rfl
  simp only [contenders]
  cases drawn.filterMap fun i => items[i]?.map fun item => (i, item) with
  | nil => rfl
  | cons first rest =>
    have best : Tournament.best (fun a b => beats' a.2 b.2) (Prod.map id f first)
        (rest.map (Prod.map id f)) =
          Prod.map id f (Tournament.best (fun a b => beats a.2 b.2) first rest) :=
      Tournament.best_map (fun a b => same a.2 b.2) first rest
    simp only [List.map_cons, best]
    rfl

theorem parent_map (settings : Settings) (ranked : List Individual) (s : σ) :
    GeneticSolver.parent settings (ranked.map ρ.individual) s =
      Prod.map ρ.genome id (GeneticSolver.parent settings ranked s) := by
  have won : Tournament.winner? Individual.beats (ranked.map ρ.individual)
      settings.tournamentSize s =
        Tournament.winner? Individual.beats ranked settings.tournamentSize s :=
    winner?_map (fun _ _ => rfl) ranked settings.tournamentSize s
  unfold GeneticSolver.parent
  rw [won]
  rcases Tournament.winner? Individual.beats ranked settings.tournamentSize s with ⟨i?, s'⟩
  cases i? with
  | none => rfl
  | some i =>
    simp only [Option.bind_some, List.getElem?_map]
    cases ranked[i]? <;> rfl

theorem children_map (settings : Settings) (ranked : List Individual) (s : σ) :
    GeneticSolver.children settings (ranked.map ρ.individual) s =
      Prod.map (Prod.map ρ.genome ρ.genome) id (GeneticSolver.children settings ranked s) := by
  unfold GeneticSolver.children
  rw [parent_map]
  rcases GeneticSolver.parent settings ranked s with ⟨a, s₁⟩
  simp only [Prod.map_apply, id_eq]
  rw [parent_map]
  rcases GeneticSolver.parent settings ranked s₁ with ⟨b, s₂⟩
  simp only [Prod.map_apply, id_eq]
  rcases RandomSource.unit s₂ with ⟨u, s₃⟩
  simp only
  split
  next => exact crossover_map a b s₃
  next => rfl

theorem breed_map (slots : List TimeSlot) (loci : List Locus) (settings : Settings)
    (ranked : List Individual) (missing : Nat) (s : σ) :
    GeneticSolver.breed slots (loci.map (ρ.locus q)) settings (ranked.map ρ.individual) missing s =
      Prod.map (List.map ρ.genome) id
        (GeneticSolver.breed slots loci settings ranked missing s) := by
  induction missing using Nat.twoStepInduction generalizing s with
  | zero => rfl
  | one =>
    rw [GeneticSolver.breed, GeneticSolver.breed, children_map]
    rcases GeneticSolver.children settings ranked s with ⟨⟨a, b⟩, s₁⟩
    simp only [Prod.map_apply, id_eq]
    rw [mutate_map]
    rcases a.mutate slots loci settings.mutationRate s₁ with ⟨first, s₂⟩
    rfl
  | more missing ih _ =>
    rw [GeneticSolver.breed, GeneticSolver.breed, children_map]
    rcases GeneticSolver.children settings ranked s with ⟨⟨a, b⟩, s₁⟩
    simp only [Prod.map_apply, id_eq]
    rw [mutate_map]
    rcases a.mutate slots loci settings.mutationRate s₁ with ⟨first, s₂⟩
    simp only [Prod.map_apply, id_eq]
    rw [mutate_map]
    rcases b.mutate slots loci settings.mutationRate s₂ with ⟨second, s₃⟩
    simp only [Prod.map_apply, id_eq]
    rw [ih]
    rfl

end Breeding

end Renaming

end Timetabling
