import Timetabling.Number.Binary64

/-!
# Solver settings

What a solve may be told: when the genetic search is worth trying, how it evolves its population,
and how much either search may spend. `Settings.Valid` holds the bounds that every accepted setting
obeys.
-/

namespace Timetabling

structure Settings where
  /-- Problems with more sections than this are given to the genetic search first. -/
  heuristicThreshold : Nat := 10
  populationSize : Nat := 50
  generations : Nat := 100
  mutationRate : Binary64 := .ofRatio false 1 10
  crossoverRate : Binary64 := .ofRatio false 7 10
  /-- The number of best individuals that pass into the next generation unchanged. -/
  eliteCount : Nat := 5
  tournamentSize : Nat := 3
  /-- The evolution ends as soon as a feasible individual is this fit. -/
  fitnessThreshold : Binary64 := .ofRatio false 1000 1
  /-- The number of random placements tried for one section of a random individual. -/
  placementAttempts : Nat := 1
  randomSeed : Option Nat := none
  maxSteps : Nat := 250000
  /-- Seconds for both searches together. -/
  timeBudget : Option Binary64 := none
deriving DecidableEq, Repr

namespace Settings

def IsRate (x : Binary64) : Prop :=
  (Binary64.zero false).le x = true ∧ x.le (.ofInt 1) = true

instance (x : Binary64) : Decidable (IsRate x) :=
  inferInstanceAs (Decidable (_ ∧ _))

def IsBudget (x : Binary64) : Prop :=
  (Binary64.zero false).lt x = true ∧ x.le (.ofInt 3600) = true

instance (x : Binary64) : Decidable (IsBudget x) :=
  inferInstanceAs (Decidable (_ ∧ _))

structure Valid (s : Settings) : Prop where
  heuristicThreshold_le : s.heuristicThreshold ≤ 10000
  le_populationSize : 2 ≤ s.populationSize
  populationSize_le : s.populationSize ≤ 2000
  generations_pos : 1 ≤ s.generations
  generations_le : s.generations ≤ 5000
  mutationRate_isRate : IsRate s.mutationRate
  crossoverRate_isRate : IsRate s.crossoverRate
  eliteCount_le : s.eliteCount ≤ 100
  eliteCount_lt : s.eliteCount < s.populationSize
  tournamentSize_pos : 1 ≤ s.tournamentSize
  tournamentSize_le : s.tournamentSize ≤ 50
  tournamentSize_le_populationSize : s.tournamentSize ≤ s.populationSize
  placementAttempts_pos : 1 ≤ s.placementAttempts
  placementAttempts_le : s.placementAttempts ≤ 100
  randomSeed_le : ∀ seed ∈ s.randomSeed, seed ≤ 2000000000
  maxSteps_pos : 1 ≤ s.maxSteps
  maxSteps_le : s.maxSteps ≤ 100000000
  timeBudget_isBudget : ∀ budget ∈ s.timeBudget, IsBudget budget

theorem valid_default : Valid {} where
  heuristicThreshold_le := by decide
  le_populationSize := by decide
  populationSize_le := by decide
  generations_pos := by decide
  generations_le := by decide
  mutationRate_isRate := by decide +kernel
  crossoverRate_isRate := by decide +kernel
  eliteCount_le := by decide
  eliteCount_lt := by decide
  tournamentSize_pos := by decide
  tournamentSize_le := by decide
  tournamentSize_le_populationSize := by decide
  placementAttempts_pos := by decide
  placementAttempts_le := by decide
  randomSeed_le := by simp
  maxSteps_pos := by decide
  maxSteps_le := by decide
  timeBudget_isBudget := by simp

end Settings

end Timetabling
