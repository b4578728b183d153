import Timetabling.Configuration.Environment
import Timetabling.Configuration.Lookup
import Timetabling.Configuration.Origins
import Timetabling.Request.Settings

/-!
# Configuration

The configuration of the service comes from environment variables and from entries given directly,
which win over the environment. The names of both match those of the entries in any case; for those
of variables a direction can say otherwise. Its numbers are not bounded; `Configuration.settings`
says which of them make solver settings.
-/

namespace Timetabling

structure Configuration where
  projectName : String := "Campus Timetabling API"
  apiPrefix : String := "/api"
  heuristicThreshold : Int := 10
  populationSize : Int := 50
  generations : Int := 100
  mutationRate : Binary64 := .ofRatio false 1 10
  crossoverRate : Binary64 := .ofRatio false 7 10
  eliteCount : Int := 5
  tournamentSize : Int := 3
  fitnessThreshold : Binary64 := .ofInt 1000
  placementAttempts : Int := 1
  randomSeed : Option Int := none
  maxSteps : Int := 250000
  timeBudget : Option Binary64 := none
  origins : List String :=
    ["http://localhost:3000", "http://127.0.0.1:3000", "http://localhost:5173",
      "http://127.0.0.1:5173"]
deriving DecidableEq, Repr

namespace Configuration

open Reader

def originsName : String := "cors_origins"

def names : List String :=
  ["project_name", "api_prefix", "scheduler_heuristic_section_threshold",
    "scheduler_population_size", "scheduler_generations", "scheduler_mutation_rate",
    "scheduler_crossover_rate", "scheduler_elite_count", "scheduler_tournament_size",
    "scheduler_fitness_threshold", "scheduler_placement_attempts", "scheduler_random_seed",
    "scheduler_max_backtrack_steps", "scheduler_time_budget_seconds", originsName]

/-- Refuses the entries that the configuration does not have. -/
def checkNames (entries : List (String × Value)) : Validated Unit :=
  match entries.filter fun entry => !names.contains entry.1 with
  | [] => .valid ()
  | extras => .invalid (extras.map fun entry => ⟨[.key entry.1], .unexpected⟩)

def ofEntries (entries : List (String × Value)) (origins : Validated (List String)) :
    Validated Configuration :=
  let standard : Configuration := {}
  (fun configuration _ => configuration) <$> (mk
    <$> fieldOr "project_name" standard.projectName text entries
    <*> fieldOr "api_prefix" standard.apiPrefix text entries
    <*> fieldOr "scheduler_heuristic_section_threshold" standard.heuristicThreshold integer entries
    <*> fieldOr "scheduler_population_size" standard.populationSize integer entries
    <*> fieldOr "scheduler_generations" standard.generations integer entries
    <*> fieldOr "scheduler_mutation_rate" standard.mutationRate number entries
    <*> fieldOr "scheduler_crossover_rate" standard.crossoverRate number entries
    <*> fieldOr "scheduler_elite_count" standard.eliteCount integer entries
    <*> fieldOr "scheduler_tournament_size" standard.tournamentSize integer entries
    <*> fieldOr "scheduler_fitness_threshold" standard.fitnessThreshold number entries
    <*> fieldOr "scheduler_placement_attempts" standard.placementAttempts integer entries
    <*> fieldOr "scheduler_random_seed" standard.randomSeed (nullable integer) entries
    <*> fieldOr "scheduler_max_backtrack_steps" standard.maxSteps integer entries
    <*> fieldOr "scheduler_time_budget_seconds" standard.timeBudget (nullable number) entries
    <*> origins.under (.key originsName))
    <*> checkNames entries

def variableEntries (lookup : Lookup) (environment : List (String × String)) :
    List (String × Value) :=
  (names.filter (· != originsName)).filterMap fun name =>
    (lookup.value? environment name).map fun v => (name, v)

/-- The entries given directly, by their own names. Of several for one entry the first one counts,
and what is no entry keeps its name. -/
def givenEntries (given : List (String × Value)) : List (String × Value) :=
  let isName (entry : String × Value) : Bool := names.contains (Text.Lowercase.ofText entry.1)
  let others := given.filter fun entry => !isName entry && !Lookup.directions.contains entry.1
  Entries.collect
    (((given.filter isName).map fun (name, v) => (Text.Lowercase.ofText name, v)).reverse ++ others)

/-- The origins, given directly or else by a variable. -/
def readOrigins (given : Option Value) (listed : Option Document) :
    Except ConfigurationFault (Validated (List String)) :=
  let result :=
    match given, listed with
    | some v, _ => Origins.ofValue v
    | none, some d => Origins.ofDocument d
    | none, none => .ok (.valid { : Configuration }.origins)
  match result with
  | .ok origins => .ok origins
  | .error (.digits count) => .ok (.refuse (.rule (.numeralTooLong count)))
  | .error .depth => .error .nestedTooDeeply

/-- The configuration of an environment and of entries that win over it. -/
def read (environment : List (String × String)) (given : List (String × Value)) :
    Except ConfigurationFault Configuration := do
  if ← Lookup.isSourceless given then return {}
  let lookup ← Lookup.ofEntries given
  let direct := givenEntries given
  let listed ← lookup.document? environment originsName
  if Lookup.isPrefixCaseless given then throw .caselessPrefix
  let origins ← readOrigins (Entries.get? originsName direct) listed
  match ofEntries (Entries.collect (variableEntries lookup environment ++ direct)) origins with
  | .valid configuration => .ok configuration
  | .invalid faults => .error (.invalid faults)

def toValue (c : Configuration) : Value :=
  .record [
    ("project_name", .text c.projectName),
    ("api_prefix", .text c.apiPrefix),
    ("scheduler_heuristic_section_threshold", .int c.heuristicThreshold),
    ("scheduler_population_size", .int c.populationSize),
    ("scheduler_generations", .int c.generations),
    ("scheduler_mutation_rate", .float c.mutationRate),
    ("scheduler_crossover_rate", .float c.crossoverRate),
    ("scheduler_elite_count", .int c.eliteCount),
    ("scheduler_tournament_size", .int c.tournamentSize),
    ("scheduler_fitness_threshold", .float c.fitnessThreshold),
    ("scheduler_placement_attempts", .int c.placementAttempts),
    ("scheduler_random_seed", Value.ofOption .int c.randomSeed),
    ("scheduler_max_backtrack_steps", .int c.maxSteps),
    ("scheduler_time_budget_seconds", Value.ofOption .float c.timeBudget),
    (originsName, .list (c.origins.map .text))]

def solverEntries (c : Configuration) : List (String × Value) :=
  [("heuristic_section_threshold", .int c.heuristicThreshold),
    ("population_size", .int c.populationSize),
    ("generations", .int c.generations),
    ("mutation_rate", .float c.mutationRate),
    ("crossover_rate", .float c.crossoverRate),
    ("elite_count", .int c.eliteCount),
    ("tournament_size", .int c.tournamentSize),
    ("fitness_threshold", .float c.fitnessThreshold),
    ("placement_attempts", .int c.placementAttempts),
    ("random_seed", Value.ofOption .int c.randomSeed),
    ("max_backtrack_steps", .int c.maxSteps),
    ("time_budget_seconds", Value.ofOption .float c.timeBudget)]

def unsuitable (faults : List Fault) : Failure :=
  let reason := (faults.head?.map fun fault => fault.cause.message .library).getD ""
  .of .configuration ("Invalid scheduler configuration: " ++ reason) []

/-- The solver settings that a configuration asks for. -/
def settings (c : Configuration) : Except Failure Settings :=
  match Settings.ofValue (.record c.solverEntries) with
  | .valid s => .ok s
  | .invalid faults => .error (unsuitable faults)

end Configuration

def Settings.ofEnvironment (environment : List (String × String)) : Except SettingsFault Settings :=
  match Configuration.read environment [] with
  | .error fault => .error (.unconfigured fault)
  | .ok configuration =>
    match configuration.settings with
    | .ok s => .ok s
    | .error failure => .error (.unsuitable failure)

end Timetabling
