import Mathlib.Order.Basic
import Timetabling.Proofs.Draws
import Timetabling.Proofs.Leader

/-!
# The pressure of selection

A tournament draws different positions, so its winner is as fit as the individuals at all of them.
The winner is therefore as fit as the individual at that place from the end of the ranking which is
the number of contenders, and where all are contenders nobody is fitter. This holds for every source
of random words and however many individuals are equally fit.
-/

namespace Timetabling

section Counting

variable {α β : Type} [LinearOrder β]

theorem countP_range_getElem? (kept : α → Bool) (items : List α) :
    ((List.range items.length).countP fun i => items[i]?.any kept) = items.countP kept := by
  induction items with
  | nil => rfl
  | cons x items ih =>
    rw [List.length_cons, List.range_succ_eq_map, List.countP_cons, List.countP_map,
      List.countP_cons, ← ih]
    rfl

theorem length_le_countP {kept : α → Bool} {items : List α} {positions : List Nat}
    (nodup : positions.Nodup)
    (keeps : ∀ i ∈ positions, ∃ x, items[i]? = some x ∧ kept x = true) :
    positions.length ≤ items.countP kept := by
  rw [← countP_range_getElem?, List.countP_eq_length_filter]
  apply (nodup.subperm _).length_le
  intro i listed
  obtain ⟨x, located, kept⟩ := keeps i listed
  rw [List.mem_filter, List.mem_range, located]
  exact ⟨(List.getElem?_eq_some_iff.mp located).1, kept⟩

/-- If `k` items are at most as fit as a bound says, then so is the one at place `k` from the end of
a descending order. -/
theorem exists_getElem?_of_le_countP {fitness : α → β} {items : List α} {bound : β} {k : Nat}
    (sorted : items.Pairwise fun x y => fitness y ≤ fitness x) (positive : 0 < k)
    (many : k ≤ items.countP fun x => decide (fitness x ≤ bound)) :
    ∃ x, items[items.length - k]? = some x ∧ fitness x ≤ bound := by
  induction items with
  | nil => exact absurd (positive.trans_le many) (Nat.lt_irrefl 0)
  | cons x items ih =>
    obtain ⟨highest, sorted⟩ := List.pairwise_cons.mp sorted
    by_cases low : fitness x ≤ bound
    · have inRange : (x :: items).length - k < (x :: items).length :=
        Nat.sub_lt (Nat.succ_pos _) positive
      refine ⟨_, List.getElem?_eq_getElem inRange, ?_⟩
      rcases List.mem_cons.mp (List.getElem_mem inRange) with here | later
      · rw [here]
        exact low
      · exact (highest _ later).trans low
    · -- The first item is too fit to be counted, so the place lies among the others.
      rw [List.countP_cons_of_neg (by simpa using low)] at many
      obtain ⟨y, located, kept⟩ := ih sorted many
      refine ⟨y, ?_, kept⟩
      have position : (x :: items).length - k = items.length - k + 1 := by
        have few := many.trans List.countP_le_length
        rw [List.length_cons]
        omega
      rw [position, List.getElem?_cons_succ]
      exact located

end Counting

namespace Tournament

variable {α β σ : Type} [LinearOrder β] [RandomSource σ] {fitness : α → β}

/-- The item that is preferred where a higher fitness is. -/
def fitter (fitness : α → β) (a b : α) : Bool :=
  decide (fitness b < fitness a)

theorem le_best (fitness : α → β) (champion : α) (contenders : List α) :
    ∀ x ∈ champion :: contenders,
      fitness x ≤ fitness (best (fitter fitness) champion contenders) := by
  induction contenders generalizing champion with
  | nil => simp [best]
  | cons contender rest ih =>
    rw [best]
    by_cases wins : fitness champion < fitness contender
    · rw [if_pos (show fitter fitness contender champion = true from decide_eq_true wins)]
      obtain ⟨least, others⟩ := List.forall_mem_cons.mp (ih contender)
      rw [List.forall_mem_cons, List.forall_mem_cons]
      exact ⟨wins.le.trans least, least, others⟩
    · rw [if_neg (show ¬ fitter fitness contender champion = true by simpa [fitter] using wins)]
      obtain ⟨least, others⟩ := List.forall_mem_cons.mp (ih champion)
      rw [List.forall_mem_cons, List.forall_mem_cons]
      exact ⟨least, (not_lt.mp wins).trans least, others⟩

/-- The winner is as fit as any item whose position was drawn. -/
theorem le_of_winner?_eq_some {items : List α} {size i : Nat} {s : σ}
    (won : (winner? (fitter fitness) items size s).1 = some i) :
    ∃ x, items[i]? = some x ∧
      ∀ j ∈ (RandomSource.sample items.length (min size items.length) s).1,
        ∀ y, items[j]? = some y → fitness y ≤ fitness x := by
  unfold winner? at won
  simp only at won
  split at won
  next => cases won
  next first rest contenders =>
    cases won
    have among := best_mem (fun a b : Nat × α => fitter fitness a.2 b.2) first rest
    have highest := le_best (fun a : Nat × α => fitness a.2) first rest
    rw [← contenders] at among highest
    obtain ⟨i, -, contender⟩ := List.mem_filterMap.mp among
    obtain ⟨x, located, same⟩ := Option.map_eq_some_iff.mp contender
    refine ⟨x, by rw [← same]; exact located, ?_⟩
    intro j drawn y locatedToo
    have below := highest (j, y)
      (List.mem_filterMap.mpr ⟨j, drawn, Option.map_eq_some_iff.mpr ⟨y, locatedToo, rfl⟩⟩)
    change fitness y ≤ fitness (best (fun a b : Nat × α => fitter fitness a.2 b.2) first rest).2
      at below
    rw [← same] at below
    exact below

/-- An item of a population that is as fit as those at `k` positions at least, its own among
them. -/
structure Prevails (fitness : α → β) (population : List α) (k i : Nat) (x : α) : Prop where
  located : population[i]? = some x
  reaches : k ≤ population.countP fun y => decide (fitness y ≤ fitness x)
  ranked : ∃ y, (ranking fitness population)[population.length - k]? = some y ∧
    fitness y ≤ fitness x
  fittest : k = population.length → ∀ y ∈ population, fitness y ≤ fitness x

theorem prevails_of_reaches {population : List α} {k i : Nat} {x : α} (positive : 0 < k)
    (located : population[i]? = some x)
    (reaches : k ≤ population.countP fun y => decide (fitness y ≤ fitness x)) :
    Prevails fitness population k i x := by
  refine ⟨located, reaches, ?_, ?_⟩
  · have many : k ≤ (ranking fitness population).countP
        fun y => decide (fitness y ≤ fitness x) := by
      rw [(perm_ranking population).countP_eq]
      exact reaches
    have placed := exists_getElem?_of_le_countP (pairwise_ranking population) positive many
    rw [(perm_ranking population).length_eq] at placed
    exact placed
  · rintro rfl y membership
    have all := List.countP_eq_length.mp (Nat.le_antisymm List.countP_le_length reaches)
    exact of_decide_eq_true (all y membership)

theorem exists_winner_prevails (fitness : α → β) (population : List α) (someone : population ≠ [])
    {size : Nat} (positive : 0 < size) (s : σ) :
    ∃ i x, (winner? (fitter fitness) population size s).1 = some i ∧
      Prevails fitness population (min size population.length) i x := by
  obtain ⟨i, won⟩ : ∃ i, (winner? (fitter fitness) population size s).1 = some i :=
    exists_winner?_eq_some someone positive s
  obtain ⟨x, located, highest⟩ := le_of_winner?_eq_some won
  have few := Nat.min_le_right size population.length
  have total := List.length_pos_iff.mpr someone
  refine ⟨i, x, won, prevails_of_reaches (by omega) located ?_⟩
  rw [← RandomSource.length_sample (s := s) few]
  apply length_le_countP (RandomSource.nodup_sample few)
  intro j drawn
  have inRange : j < population.length := RandomSource.sample_lt drawn
  have here := List.getElem?_eq_getElem inRange
  exact ⟨_, here, decide_eq_true (highest j drawn _ here)⟩

end Tournament

namespace GeneticSolver

variable {σ : Type} [RandomSource σ]

/-- Whatever is drawn, the winner of a tournament is as fit as the items at as many positions as
there are contenders, and the tournament of the individuals chooses the genome of such a winner. -/
theorem selection_presses (s : σ) :
    (∀ {α β : Type} [LinearOrder β] (fitness : α → β) (population : List α) (size : Nat),
      population ≠ [] → 0 < size →
        ∃ i x, (Tournament.winner? (Tournament.fitter fitness) population size s).1 = some i ∧
          Tournament.Prevails fitness population (min size population.length) i x) ∧
    ∀ (settings : Settings) (population : List Individual),
      population ≠ [] → 0 < settings.tournamentSize →
        ∃ i x, (parent settings population s).1 = x.genome ∧
          Tournament.Prevails Individual.fitness population
            (min settings.tournamentSize population.length) i x := by
  constructor
  · intro α β _ fitness population size someone positive
    exact Tournament.exists_winner_prevails fitness population someone positive s
  · intro settings population someone positive
    obtain ⟨i, x, won, prevails⟩ :=
      Tournament.exists_winner_prevails Individual.fitness population someone positive s
    exact ⟨i, x, parent_of_winner won prevails.located, prevails⟩

def rivals : List Individual :=
  [⟨[none], -50, 0, 1⟩, ⟨[], 130, 0, 0⟩, ⟨[], 130, 0, 0⟩, ⟨[none, none], -100, 0, 2⟩]

theorem selection_presses_rivals :
    let source : MersenneTwister := .ofSeed 1
    (∃ i x, (Tournament.winner? (Tournament.fitter id) (List.range 30) 2 source).1 = some i ∧
      (List.range 30)[i]? = some x ∧ 1 ≤ x) ∧
    (parent {} rivals source).1 = [] := by
  intro source
  obtain ⟨numbers, individuals⟩ := selection_presses source
  constructor
  · obtain ⟨i, x, won, prevails⟩ := numbers id (List.range 30) 2 (by decide) (by decide)
    obtain ⟨y, placed, atMost⟩ := prevails.ranked
    have beforeLast : (ranking id (List.range 30))[28]? = some 1 := by decide +kernel
    obtain rfl : 1 = y := Option.some.inj (beforeLast.symm.trans placed)
    exact ⟨i, x, won, prevails.located, atMost⟩
  · obtain ⟨i, x, chosen, prevails⟩ := individuals {} rivals (by decide) (by decide)
    obtain ⟨y, placed, atMost⟩ := prevails.ranked
    have second : (ranking Individual.fitness rivals)[1]? = some ⟨[], 130, 0, 0⟩ := by
      decide +kernel
    obtain rfl : ⟨[], 130, 0, 0⟩ = y := Option.some.inj (second.symm.trans placed)
    have fittest : ∀ x ∈ rivals, 130 ≤ x.fitness → x.genome = [] := by decide
    exact chosen.trans (fittest x (List.mem_of_getElem? prevails.located) atMost)

end GeneticSolver

end Timetabling
