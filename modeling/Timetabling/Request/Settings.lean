import Timetabling.Settings
import Timetabling.Validation.Reader

/-!
# Settings as values

Reads solver settings from a record, within their bounds, and writes them back.
-/

namespace Timetabling

def Value.ofOption {α : Type} (toValue : α → Value) : Option α → Value
  | none => .null
  | some a => toValue a

namespace Settings

open Reader

def ofEntries (entries : List (String × Value)) : Validated Settings :=
  let standard : Settings := {}
  mk
    <$> fieldOr "heuristic_section_threshold" standard.heuristicThreshold (naturalIn 0 10000) entries
    <*> fieldOr "population_size" standard.populationSize (naturalIn 2 2000) entries
    <*> fieldOr "generations" standard.generations (naturalIn 1 5000) entries
    <*> fieldOr "mutation_rate" standard.mutationRate rate entries
    <*> fieldOr "crossover_rate" standard.crossoverRate rate entries
    <*> fieldOr "elite_count" standard.eliteCount (naturalIn 0 100) entries
    <*> fieldOr "tournament_size" standard.tournamentSize (naturalIn 1 50) entries
    <*> fieldOr "fitness_threshold" standard.fitnessThreshold number entries
    <*> fieldOr "placement_attempts" standard.placementAttempts (naturalIn 1 100) entries
    <*> fieldOr "random_seed" standard.randomSeed (nullable (naturalIn 0 2000000000)) entries
    <*> fieldOr "max_backtrack_steps" standard.maxSteps (naturalIn 1 100000000) entries
    <*> fieldOr "time_budget_seconds" standard.timeBudget (nullable (positiveUpTo 3600)) entries

/-- Refuses settings that do not go together. -/
def checkRelations (s : Settings) : Validated Settings :=
  if s.populationSize ≤ s.eliteCount then .refuse (.rule .tooManyElites)
  else if s.populationSize < s.tournamentSize then .refuse (.rule .tournamentTooLarge)
  else .valid s

def ofValue : Reader Settings :=
  record "SolverSettings" fun entries => (ofEntries entries).andThen checkRelations

def entries (s : Settings) : List (String × Value) :=
  [("heuristic_section_threshold", .int s.heuristicThreshold),
    ("population_size", .int s.populationSize),
    ("generations", .int s.generations),
    ("mutation_rate", .float s.mutationRate),
    ("crossover_rate", .float s.crossoverRate),
    ("elite_count", .int s.eliteCount),
    ("tournament_size", .int s.tournamentSize),
    ("fitness_threshold", .float s.fitnessThreshold),
    ("placement_attempts", .int s.placementAttempts),
    ("random_seed", Value.ofOption (fun seed : Nat => .int seed) s.randomSeed),
    ("max_backtrack_steps", .int s.maxSteps),
    ("time_budget_seconds", Value.ofOption .float s.timeBudget)]

def toValue (s : Settings) : Value :=
  .record s.entries

end Settings

end Timetabling
