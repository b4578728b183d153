import Mathlib.Order.Bounds.Defs
import Timetabling.Proofs.Accounting
import Timetabling.Proofs.Leader

/-!
# When an evolution stops

An evolution looks at the best feasible individual of all generations, whatever stands at the top of
the ranking. So without a deadline it stops with the first generation that has a feasible individual
at the threshold. Every feasible individual earns the reward for each section, and a threshold no
higher than that is reached by the first feasible individual there is.
-/

namespace Timetabling

namespace Individual

/-- Whether an individual is feasible and as fit as the threshold asks. -/
def Suffices (settings : Settings) (x : Individual) : Prop :=
  x.feasible = true ∧ settings.fitnessThreshold.le (.ofInt x.fitness) = true

namespace Leads

variable {x : Individual} {seen more : List Individual}

theorem mem (leads : x.Leads seen) : x ∈ seen := by
  obtain ⟨-, before, after, rfl, -⟩ := leads
  exact List.mem_append_right _ List.mem_cons_self

theorem of_append (leads : x.Leads (seen ++ more)) (infeasible : ∀ y ∈ seen, y.feasible = false) :
    x.Leads more := by
  obtain ⟨feasible, before, after, split, less, atMost⟩ := leads
  have unseen : x ∉ seen := by
    intro membership
    rw [infeasible x membership] at feasible
    cases feasible
  rcases List.append_eq_append_iff.mp split with ⟨rest, rfl, rfl⟩ | ⟨rest, rfl, cut⟩
  · refine ⟨feasible, rest, after, rfl, ?_, atMost⟩
    intro y membership
    exact less y (List.mem_append_right _ membership)
  · cases rest with
    | nil => exact ⟨feasible, [], after, cut.symm, by simp, atMost⟩
    | cons z rest =>
      obtain ⟨rfl, -⟩ := List.cons.inj cut
      exact absurd (List.mem_append_right _ List.mem_cons_self) unseen

end Leads

theorem Sound.le_fitness {p : Problem} {x : Individual} (sound : x.Sound p)
    (feasible : x.feasible = true) : 100 * (p.sections.length : Int) ≤ x.fitness := by
  have complete : x.genome.length = p.sections.length := by
    rw [← sound.admissible.length_eq, Problem.loci, List.length_map]
  exact (Problem.fitness_of_feasible complete sound.evaluated feasible).1

end Individual

namespace Evolution

variable {settings : Settings} {evolution : Evolution}

/-- The numbers of generations that have an individual that suffices among them. -/
def stops (settings : Settings) (evolution : Evolution) : Set Nat :=
  {g | ∃ x ∈ (evolution.generations.take g).flatten, x.Suffices settings}

theorem succ_mem_stops {k : Nat} {g : Generation} {x : Individual}
    (listed : evolution.generations[k]? = some g) (membership : x ∈ g)
    (fit : x.Suffices settings) : k + 1 ∈ evolution.stops settings := by
  refine ⟨x, ?_, fit⟩
  rw [List.take_add_one, listed, List.flatten_append]
  simpa using .inr membership

/-- The evolution has stopped as soon as an individual suffices, or else after the most generations
that there may be. -/
structure Stopped (settings : Settings) (most : Nat) (evolution : Evolution) : Prop where
  not_mem_stops : ∀ k < evolution.generations.length, k ∉ evolution.stops settings
  last : evolution.generations.length ∈ evolution.stops settings ∨
    evolution.generations.length = most

namespace Stopped

variable {most : Nat} (stopped : evolution.Stopped settings most)

include stopped

theorem isLeast (someStop : (evolution.stops settings).Nonempty) :
    IsLeast (evolution.stops settings) evolution.generations.length := by
  constructor
  · obtain ⟨k, x, membership, fit⟩ := someStop
    refine ⟨x, ?_, fit⟩
    rw [List.take_length]
    exact ((List.take_sublist k evolution.generations).flatten).mem membership
  · intro k stop
    exact not_lt.mp fun early => stopped.not_mem_stops k early stop

theorem length_eq (noStop : evolution.stops settings = ∅) :
    evolution.generations.length = most := by
  apply stopped.last.resolve_left
  rw [noStop]
  exact Set.notMem_empty _

/-- Where every feasible individual suffices, the first generation that has one is the last, and the
individual that leads it leads them all. -/
theorem ends_with_first_feasible {k : Nat} {g : Generation}
    (remembers : Remembers evolution.best evolution.generations.flatten)
    (fit : ∀ x ∈ evolution.generations.flatten, x.feasible = true → x.Suffices settings)
    (listed : evolution.generations[k]? = some g) (someFeasible : ∃ x ∈ g, x.feasible = true) :
    evolution.generations.length = k + 1 ∧
      (∀ x ∈ (evolution.generations.take k).flatten, x.feasible = false) ∧
      ∃ x, evolution.best = some x ∧ x.Leads g := by
  obtain ⟨x, member, feasible⟩ := someFeasible
  obtain ⟨within, -⟩ := List.getElem?_eq_some_iff.mp listed
  have seen : x ∈ evolution.generations.flatten :=
    List.mem_flatten_of_mem (List.mem_of_getElem? listed) member
  have stop := succ_mem_stops listed member (fit x seen feasible)
  have last : evolution.generations.length = k + 1 := by
    by_contra later
    exact stopped.not_mem_stops (k + 1) (by omega) stop
  have infeasible : ∀ y ∈ (evolution.generations.take k).flatten, y.feasible = false := by
    intro y early
    by_contra feasible
    rw [Bool.not_eq_false] at feasible
    have seen := ((List.take_sublist k evolution.generations).flatten).mem early
    exact stopped.not_mem_stops k within ⟨y, early, fit y seen feasible⟩
  have cut : evolution.generations.flatten = (evolution.generations.take k).flatten ++ g := calc
    _ = (evolution.generations.take (k + 1)).flatten := by rw [← last, List.take_length]
    _ = (evolution.generations.take k).flatten ++ g := by simp [List.take_add_one, listed]
  refine ⟨last, infeasible, ?_⟩
  rw [cut] at remembers
  cases best : evolution.best with
  | none =>
    rw [remembers.eq_none_iff] at best
    rw [best x (List.mem_append_right _ member)] at feasible
    cases feasible
  | some y =>
    rw [best] at remembers
    exact ⟨y, rfl, Individual.Leads.of_append remembers infeasible⟩

end Stopped

end Evolution

namespace GeneticSolver

theorem reachesThreshold_iff {settings : Settings} {best : Option Individual}
    {seen : List Individual} (remembers : Remembers best seen)
    (earned : ∀ x ∈ seen, x.feasible = true → 0 ≤ x.fitness) :
    reachesThreshold settings best = true ↔ ∃ x ∈ seen, x.Suffices settings := by
  cases best with
  | none =>
    refine iff_of_false (by simp [reachesThreshold]) ?_
    rintro ⟨x, membership, feasible, -⟩
    rw [remembers x membership] at feasible
    cases feasible
  | some x =>
    have leads : x.Leads seen := remembers
    constructor
    · intro reached
      exact ⟨x, leads.mem, leads.feasible, reached⟩
    · rintro ⟨y, membership, feasible, reached⟩
      have atMost := leads.fitness_le membership feasible
      exact Binary64.le_trans reached
        (Binary64.ofInt_le_ofInt (earned y membership feasible) atMost)

variable {σ : Type} [RandomSource σ]

/-- From a stage on, no generation but the last has an individual that suffices, and the last has
one unless the generations are used up. -/
theorem Stage.stopped_run {loci : List Locus} {s : Stage σ} {evolution : Evolution}
    {after : GeneticSolver σ} (ran : s.run loci = (.ok evolution, after))
    (untimed : s.solver.deadline = .never) {seen : List Individual}
    (remembers : Remembers s.best seen)
    (earned : ∀ x ∈ seen ++ evolution.generations.flatten, x.feasible = true → 0 ≤ x.fitness)
    (unreached : ∀ x ∈ seen, ¬ x.Suffices s.solver.settings) :
    evolution.Stopped s.solver.settings s.remaining := by
  induction s using stepInduction (σ := σ) loci generalizing seen evolution after with
  | round s ih =>
    rw [run_eq] at ran
    have advances := s.advances_step loci
    cases stepped : s.step loci with
    | finished =>
      rw [stepped] at ran advances
      cases ran
      cases advances with
      | finished noneLeft => exact ⟨nofun, .inr noneLeft.symm⟩
    | failed fault failing =>
      rw [stepped] at ran
      cases ran
    | ended g best ending =>
      rw [stepped] at ran advances
      cases ran
      cases advances with
      | ended _ _ _ _ stops =>
        rw [List.flatten_singleton] at earned
        have reached := stops.resolve_right (by simp [untimed, Deadline.never])
        obtain ⟨x, membership, fit⟩ :=
          (reachesThreshold_iff (remembers.betterOf g) earned).mp reached
        have new := (List.mem_append.mp membership).resolve_left fun old => unreached x old fit
        refine ⟨?_, .inl (Evolution.succ_mem_stops (k := 0) rfl new fit)⟩
        rintro k within ⟨y, early, -⟩
        rw [Nat.lt_one_iff.mp within] at early
        cases early
    | continued g next =>
      rw [stepped] at ran advances
      cases advances with
      | continued _ _ remaining left _ notYet _ waiting clock =>
        subst clock
        simp only at ran
        split at ran
        next => cases ran
        next later ending laterRan =>
          cases ran
          rw [List.flatten_cons, ← List.append_assoc] at earned
          have missed : ∀ x ∈ seen ++ g, ¬ x.Suffices s.solver.settings := by
            intro x membership fit
            have reached := (reachesThreshold_iff (remembers.betterOf g) fun x membership =>
              earned x (List.mem_append_left _ membership)).mpr ⟨x, membership, fit⟩
            exact absurd (notYet.symm.trans reached) Bool.false_ne_true
          have stopped :=
            ih g _ stepped laterRan untimed (remembers.betterOf g) earned missed
          constructor
          · rintro k within ⟨x, membership, fit⟩
            cases k with
            | zero => cases membership
            | succ k =>
              rw [List.take_succ_cons, List.flatten_cons] at membership
              rcases List.mem_append.mp membership with here | elsewhere
              · exact missed x (List.mem_append_right _ here) fit
              · exact stopped.not_mem_stops k (Nat.lt_of_succ_lt_succ within) ⟨x, elsewhere, fit⟩
          · refine stopped.last.imp ?_ ?_
            · rintro ⟨x, membership, fit⟩
              exact ⟨x, List.mem_append_right _ membership, fit⟩
            · intro usedUp
              rw [List.length_cons, usedUp, left]

/-- An evolution of an accepted problem without a deadline evaluates the generations of its course
and stops with the first of them that has a feasible individual at the threshold; where there is
none, all generations are run. If the threshold is no higher than the reward for all sections, as the default
one is for ten sections and more, the first generation with a feasible individual is the last, and
the individual that leads it is returned. -/
theorem evolve_stops (p : Problem) (settings : Settings) (source : σ) (earlier : List Genome)
    (generationsRun readings : Nat) (accepted : p.fault? = none) (valid : settings.Valid) :
    let solver : GeneticSolver σ :=
      ⟨p, settings, source, .never, .after p.loci earlier, generationsRun, readings⟩
    ∃ evolution after, solver.evolve = (.ok evolution, after) ∧
      let stops := evolution.stops settings
      evolution.generations = solver.firstStage.course p.loci ∧
      after.generationsRun = evolution.generations.length ∧
      (∀ x ∈ evolution.generations.flatten, x.genome.evaluate p.loci = .ok x.evaluation) ∧
      (stops.Nonempty → IsLeast stops after.generationsRun) ∧
      (stops = ∅ → after.generationsRun = settings.generations) ∧
      (settings.fitnessThreshold.le (.ofInt (100 * p.sections.length)) = true →
        ∀ k g, evolution.generations[k]? = some g → (∃ x ∈ g, x.feasible = true) →
          after.generationsRun = k + 1 ∧
            (∀ x ∈ (evolution.generations.take k).flatten, x.feasible = false) ∧
            ∃ x, evolution.best = some x ∧ x.Leads g) ∧
      (settings.fitnessThreshold = ({} : Settings).fitnessThreshold → 10 ≤ p.sections.length →
        settings.fitnessThreshold.le (.ofInt (100 * p.sections.length)) = true) := by
  intro solver
  have serves : solver.Serves p settings := ⟨rfl, rfl, EvaluationCache.sound_after earlier⟩
  obtain ⟨evolution, after, evolved, course, -, sound, remembers, generations⟩ :=
    serves.evolve_remembers (Problem.fault?_eq_none_iff.mp accepted) valid
  have earned : ∀ x ∈ evolution.generations.flatten, x.feasible = true → 0 ≤ x.fitness := by
    intro x membership feasible
    have reward := (sound.individual membership).le_fitness feasible
    omega
  have nothingSeen : Remembers solver.firstStage.best [] := by
    intro x membership
    cases membership
  have ran : solver.firstStage.run p.loci = (.ok evolution, after) := evolved
  have stopped : evolution.Stopped settings settings.generations :=
    Stage.stopped_run ran rfl nothingSeen earned (by simp)
  refine ⟨evolution, after, evolved, ?_⟩
  rw [generations]
  refine ⟨course, rfl, fun x membership => (sound.individual membership).evaluated,
    stopped.isLeast, stopped.length_eq, ?_, ?_⟩
  · intro low k g listed someFeasible
    apply stopped.ends_with_first_feasible remembers _ listed someFeasible
    intro x membership feasible
    have reward := (sound.individual membership).le_fitness feasible
    exact ⟨feasible, Binary64.le_trans low (Binary64.ofInt_le_ofInt (by omega) reward)⟩
  · intro default ten
    rw [default]
    exact Binary64.ofInt_le_ofInt (i := 1000) (by decide) (by omega)

/-- Every feasible individual reaches the threshold. The first generation has none, so the second of
three is the last. -/
theorem evolve_stops_morning :
    let p := Problem.morning
    let settings : Settings := { Settings.brief with fitnessThreshold := .ofRatio false 300 1 }
    let solver : GeneticSolver MersenneTwister :=
      ⟨p, settings, .multiples, .never, .after p.loci [[none, none, none]], 3, 7⟩
    p.fault? = none ∧ settings.Valid ∧
      settings.fitnessThreshold.le (.ofInt (100 * p.sections.length)) = true ∧
      ∃ evolution after, solver.evolve = (.ok evolution, after) ∧
        evolution.generations = solver.firstStage.course p.loci ∧
        (evolution.generations.map fun g => g.map fun x => (x.fitness, x.feasible)) =
          [[(160, false), (170, false), (20, false), (160, false)],
            [(170, false), (110, false), (180, false), (320, true)]] ∧
        after.generationsRun = 2 ∧ IsLeast (evolution.stops settings) 2 ∧
        ∃ g x, evolution.generations[1]? = some g ∧ evolution.best = some x ∧ x.Leads g := by
  intro p settings solver
  have accepted : p.fault? = none := by decide +kernel
  have valid : settings.Valid := { Settings.valid_brief with }
  have low : settings.fitnessThreshold.le (.ofInt (100 * p.sections.length)) = true := by
    decide +kernel
  obtain ⟨evolution, after, evolved, course, -, -, least, -, first, -⟩ :=
    evolve_stops p settings MersenneTwister.multiples [[none, none, none]] 3 7 accepted valid
  have ran : solver.evolve.1.map (fun evolution =>
      evolution.generations.map fun g => g.map fun x => (x.fitness, x.feasible)) =
      .ok [[(160, false), (170, false), (20, false), (160, false)],
        [(170, false), (110, false), (180, false), (320, true)]] := by decide +kernel
  rw [evolved] at ran
  have evaluated := Except.ok.inj ran
  have second := congrArg (fun generations => generations[1]?) evaluated
  rw [List.getElem?_map] at second
  obtain ⟨g, listed, members⟩ := Option.map_eq_some_iff.mp second
  obtain ⟨x, member, same⟩ : ∃ x ∈ g, (x.fitness, x.feasible) = (320, true) := by
    apply List.mem_map.mp
    rw [members]
    decide
  obtain ⟨fitness, feasible⟩ := Prod.mk.inj same
  have fit : x.Suffices settings := by
    refine ⟨feasible, ?_⟩
    rw [fitness]
    decide +kernel
  have stop : 2 ∈ evolution.stops settings := Evolution.succ_mem_stops listed member fit
  obtain ⟨last, -, y, best, leads⟩ := first low 1 g listed ⟨x, member, feasible⟩
  have isLeast := least ⟨2, stop⟩
  rw [last] at isLeast
  exact ⟨accepted, valid, low, evolution, after, evolved, course, evaluated, last, isLeast, g, y,
    listed, best, leads⟩

end GeneticSolver

end Timetabling
