import Timetabling.Proofs.Outcome
import Timetabling.Proofs.Stages

/-!
# The individual that an evolution returns

Each generation offers its champion, the first feasible individual of its ranking, and only a fitter
champion replaces the individual remembered so far. What is remembered in the end leads all that
have been evaluated: it is the first of the fittest feasible ones, in the order of the generations
and of the positions in them.
-/

namespace Timetabling

/-- The first of the fittest feasible individuals of a list. -/
structure Individual.Leads (x : Individual) (individuals : List Individual) : Prop where
  feasible : x.feasible = true
  fittest : ∃ before after, individuals = before ++ x :: after ∧
    (∀ y ∈ before, y.feasible = true → y.fitness < x.fitness) ∧
    ∀ y ∈ after, y.feasible = true → y.fitness ≤ x.fitness

namespace Individual.Leads

variable {x y : Individual} {seen more : List Individual}

theorem fitness_le (leads : x.Leads seen) (membership : y ∈ seen) (feasible : y.feasible = true) :
    y.fitness ≤ x.fitness := by
  obtain ⟨-, before, after, rfl, less, atMost⟩ := leads
  rcases List.mem_append.mp membership with earlier | rest
  · exact (less y earlier feasible).le
  · rcases List.mem_cons.mp rest with rfl | later
    · exact le_rfl
    · exact atMost y later feasible

theorem append_right (leads : x.Leads seen)
    (atMost : ∀ y ∈ more, y.feasible = true → y.fitness ≤ x.fitness) : x.Leads (seen ++ more) := by
  obtain ⟨feasible, before, after, rfl, less, atMostAfter⟩ := leads
  refine ⟨feasible, before, after ++ more, by simp, less, ?_⟩
  intro y membership
  rcases List.mem_append.mp membership with later | new
  · exact atMostAfter y later
  · exact atMost y new

theorem append_left (leads : x.Leads more)
    (less : ∀ y ∈ seen, y.feasible = true → y.fitness < x.fitness) : x.Leads (seen ++ more) := by
  obtain ⟨feasible, before, after, rfl, lessBefore, atMost⟩ := leads
  refine ⟨feasible, seen ++ before, after, by simp, ?_, atMost⟩
  intro y membership
  rcases List.mem_append.mp membership with old | earlier
  · exact less y old
  · exact lessBefore y earlier

end Individual.Leads

section Ranking

variable {α β : Type} [LinearOrder β] {fitness : α → β}

def ranking (fitness : α → β) (items : List α) : List α :=
  stableSort (fun x y => decide (fitness y ≤ fitness x)) items

theorem ranking_trans (fitness : α → β) (x y z : α) (first : decide (fitness y ≤ fitness x) = true)
    (second : decide (fitness z ≤ fitness y) = true) : decide (fitness z ≤ fitness x) = true :=
  decide_eq_true ((of_decide_eq_true second).trans (of_decide_eq_true first))

theorem ranking_total (fitness : α → β) (x y : α) :
    (decide (fitness y ≤ fitness x) || decide (fitness x ≤ fitness y)) = true := by
  simp only [Bool.or_eq_true, decide_eq_true_eq]
  exact le_total (fitness y) (fitness x)

theorem pairwise_ranking (items : List α) :
    (ranking fitness items).Pairwise fun x y => fitness y ≤ fitness x := by
  rw [ranking, stableSort_eq_mergeSort]
  have sorted := List.pairwise_mergeSort (ranking_trans fitness) (ranking_total fitness) items
  exact sorted.imp of_decide_eq_true

theorem perm_ranking (items : List α) : (ranking fitness items).Perm items := by
  rw [ranking, stableSort_eq_mergeSort]
  exact List.mergeSort_perm items _

end Ranking

namespace Generation

variable {g : Generation} {x : Individual}

theorem ranked_eq_ranking (g : Generation) : g.ranked = ranking Individual.fitness g :=
  rfl

theorem pairwise_ranked (g : Generation) : g.ranked.Pairwise fun x y => y.fitness ≤ x.fitness := by
  rw [ranked_eq_ranking]
  exact pairwise_ranking g

theorem filter_fitness_ranked (g : Generation) (fitness : Int) :
    (g.ranked.filter fun x => x.fitness == fitness) = g.filter fun x => x.fitness == fitness := by
  have kept : (g.filter fun x => x.fitness == fitness).Sublist g.ranked := by
    rw [ranked, stableSort_eq_mergeSort]
    apply List.sublist_mergeSort (ranking_trans Individual.fitness) (ranking_total _)
    · apply List.pairwise_of_forall_mem_list
      intro x first y second
      simp only [List.mem_filter, beq_iff_eq] at first second
      exact decide_eq_true (by omega)
    · exact List.filter_sublist
  have sublist := kept.filter fun x => x.fitness == fitness
  rw [List.filter_filter] at sublist
  simp only [Bool.and_self] at sublist
  symm
  apply sublist.eq_of_length
  rw [← List.countP_eq_length_filter, ← List.countP_eq_length_filter, ranked_eq_ranking]
  exact ((perm_ranking g).countP_eq _).symm

theorem champion?_eq_none_iff : g.champion? = none ↔ ∀ x ∈ g, x.feasible = false := by
  rw [champion?, List.find?_eq_none]
  simp only [mem_ranked, Bool.not_eq_true]

theorem leads_of_champion? (champion : g.champion? = some x) : x.Leads g := by
  obtain ⟨feasible, before, after, ranking, blocked⟩ := List.find?_eq_some_iff_append.mp champion
  have atMost : ∀ y ∈ g, y.feasible = true → y.fitness ≤ x.fitness := by
    intro y membership feasible
    have sorted := g.pairwise_ranked
    rw [← mem_ranked, ranking] at membership
    rw [ranking] at sorted
    rcases List.mem_append.mp membership with earlier | rest
    · have infeasible := blocked y earlier
      rw [feasible] at infeasible
      cases infeasible
    · rcases List.mem_cons.mp rest with rfl | later
      · exact le_rfl
      · exact List.rel_of_pairwise_cons (List.pairwise_append.mp sorted).2.1 later
  -- Among the individuals of one fitness the ranking and the generation have the same order.
  have first : g.find? (fun y => y.fitness == x.fitness && y.feasible) = some x := by
    have found : g.ranked.find? (fun y => y.fitness == x.fitness && y.feasible) = some x := by
      rw [ranking, List.find?_eq_some_iff_append]
      refine ⟨by simp [feasible], before, after, rfl, ?_⟩
      intro y membership
      have infeasible : y.feasible = false := by simpa using blocked y membership
      simp [infeasible]
    have both : ∀ individuals : List Individual,
        individuals.find? (fun y => y.fitness == x.fitness && y.feasible) =
          (individuals.filter fun y => y.fitness == x.fitness).find? Individual.feasible := by
      intro individuals
      rw [List.find?_filter]
      congr 1
      funext y
      rw [Bool.eq_iff_iff]
      simp
    rw [both, ← filter_fitness_ranked, ← both]
    exact found
  obtain ⟨-, before, after, rfl, blocked⟩ := List.find?_eq_some_iff_append.mp first
  refine ⟨feasible, before, after, rfl, ?_, ?_⟩
  · intro y membership feasible
    have different : y.fitness ≠ x.fitness := by
      intro same
      have other := blocked y membership
      simp [same, feasible] at other
    exact lt_of_le_of_ne (atMost y (List.mem_append_left _ membership) feasible) different
  · intro y membership
    exact atMost y (List.mem_append_right _ (List.mem_cons_of_mem _ membership))

end Generation

/-- What is remembered leads all that have been seen, and nothing is remembered only where none of
them is feasible. -/
def Remembers (best : Option Individual) (seen : List Individual) : Prop :=
  match best with
  | none => ∀ x ∈ seen, x.feasible = false
  | some x => x.Leads seen

theorem Remembers.eq_none_iff {best : Option Individual} {seen : List Individual}
    (remembers : Remembers best seen) : best = none ↔ ∀ x ∈ seen, x.feasible = false := by
  constructor
  · rintro rfl
    exact remembers
  · intro infeasible
    cases best with
    | none => rfl
    | some x =>
      obtain ⟨feasible, before, after, rfl, -⟩ := remembers
      have other := infeasible x (List.mem_append_right _ List.mem_cons_self)
      rw [feasible] at other
      cases other

/-- A new generation is remembered by its champion, if that one is fitter than the best before. -/
theorem Remembers.betterOf {best : Option Individual} {seen : List Individual}
    (remembers : Remembers best seen) (g : Generation) :
    Remembers (betterOf best g.champion?) (seen ++ g) := by
  cases champion : g.champion? with
  | none =>
    have infeasible := Generation.champion?_eq_none_iff.mp champion
    cases best with
    | none =>
      intro x membership
      rcases List.mem_append.mp membership with old | new
      · exact remembers x old
      · exact infeasible x new
    | some x =>
      apply Individual.Leads.append_right remembers
      intro y new feasible
      rw [infeasible y new] at feasible
      cases feasible
  | some y =>
    have leads := Generation.leads_of_champion? champion
    cases best with
    | none =>
      apply leads.append_left
      intro x old feasible
      rw [remembers x old] at feasible
      cases feasible
    | some x =>
      -- Where both are equally fit the best so far stays: it has been seen first.
      have former : x.Leads seen := remembers
      unfold Timetabling.betterOf
      simp only
      split
      next beats =>
        have fitter : x.fitness < y.fitness := of_decide_eq_true beats
        apply leads.append_left
        intro z old feasible
        exact (former.fitness_le old feasible).trans_lt fitter
      next notFitter =>
        have atMost : y.fitness ≤ x.fitness := by
          simpa [Individual.beats] using notFitter
        apply former.append_right
        intro z new feasible
        exact (leads.fitness_le new feasible).trans atMost

namespace GeneticSolver

variable {σ : Type} [RandomSource σ]

/-- From a stage on, an evolution remembers what it has seen and counts its generations. -/
theorem Stage.remembers_run {loci : List Locus} {s : Stage σ} {evolution : Evolution}
    {after : GeneticSolver σ} (ran : s.run loci = (.ok evolution, after)) {seen : List Individual}
    (remembers : Remembers s.best seen) :
    Remembers evolution.best (seen ++ evolution.generations.flatten) ∧
      after.generationsRun = s.solver.generationsRun + evolution.generations.length := by
  induction s using stepInduction (σ := σ) loci generalizing seen evolution after with
  | round s ih =>
    rw [run_eq] at ran
    have advances := s.advances_step loci
    cases stepped : s.step loci with
    | finished =>
      rw [stepped] at ran
      cases ran
      simpa using remembers
    | failed fault failing =>
      rw [stepped] at ran
      cases ran
    | ended g best ending =>
      rw [stepped] at ran advances
      cases ran
      cases advances with
      | ended =>
        refine ⟨?_, rfl⟩
        rw [List.flatten_singleton]
        exact remembers.betterOf g
    | continued g next =>
      rw [stepped] at ran advances
      cases advances with
      | continued _ _ _ _ _ _ _ waiting clock =>
        simp only at ran
        split at ran
        next => cases ran
        next later ending laterRan =>
          cases ran
          obtain ⟨leads, counted⟩ := ih g _ stepped laterRan (remembers.betterOf g)
          rw [List.flatten_cons, ← List.append_assoc]
          refine ⟨leads, ?_⟩
          have started : (waiting.nextPopulation loci g).2.generationsRun =
              s.solver.generationsRun + 1 := by
            rw [clock]
            rfl
          rw [counted, started, List.length_cons]
          omega

/-- What the evolution of an accepted problem hands back is the record of its course, whose best
individual it remembers, and the solver has counted the generations. -/
theorem Serves.evolve_remembers {p : Problem} {settings : Settings} {solver : GeneticSolver σ}
    (serves : solver.Serves p settings) (accepted : p.Accepted) (valid : settings.Valid) :
    ∃ evolution after, solver.evolve = (.ok evolution, after) ∧
      evolution.generations = solver.firstStage.course p.loci ∧
      after.Serves p settings ∧ evolution.Sound p settings ∧
      Remembers evolution.best evolution.generations.flatten ∧
      after.generationsRun = evolution.generations.length := by
  obtain ⟨evolution, after, evolved, kept, sound⟩ := serves.evolve accepted valid
  have nothingSeen : Remembers solver.firstStage.best [] := by
    intro x membership
    cases membership
  have ran : solver.firstStage.run p.loci = (.ok evolution, after) := by
    rw [← serves.problem_eq]
    exact evolved
  obtain ⟨remembers, counted⟩ := Stage.remembers_run ran nothingSeen
  exact ⟨evolution, after, evolved, Stage.generations_eq_course ran, kept, sound, remembers,
    counted.trans (Nat.zero_add _)⟩

/-- An evolution of an accepted problem evaluates all the generations of its course. It returns
nothing exactly where no individual of them is feasible, and otherwise the one that leads them; the
timetable is the decoded genome of that individual, with its fitness and the number of
generations. -/
theorem evolve_returns_leader (p : Problem) (settings : Settings) (source : σ) (deadline : Deadline)
    (earlier : List Genome) (generationsRun readings : Nat) (accepted : p.fault? = none)
    (valid : settings.Valid) :
    let solver : GeneticSolver σ :=
      ⟨p, settings, source, deadline, .after p.loci earlier, generationsRun, readings⟩
    ∃ evolution after, solver.evolve = (.ok evolution, after) ∧
      evolution.generations = solver.firstStage.course p.loci ∧
      (∀ x ∈ evolution.generations.flatten, x.genome.evaluate p.loci = .ok x.evaluation) ∧
      (evolution.best = none ↔ ∀ x ∈ evolution.generations.flatten, x.feasible = false) ∧
      (∀ x ∈ evolution.best, x.Leads evolution.generations.flatten) ∧
      solver.solve = (.ok (evolution, evolution.best.map fun x =>
        let assignments := x.genome.decode p.sections
        ⟨assignments, { p.statistics assignments .genetic with
          generations := some evolution.generations.length
          fitness := some (.ofInt x.fitness) }⟩), after) := by
  intro solver
  have serves : solver.Serves p settings := ⟨rfl, rfl, EvaluationCache.sound_after earlier⟩
  obtain ⟨evolution, after, evolved, course, kept, sound, remembers, generations⟩ :=
    serves.evolve_remembers (Problem.fault?_eq_none_iff.mp accepted) valid
  refine ⟨evolution, after, evolved, course, ?_, remembers.eq_none_iff, ?_, ?_⟩
  · intro x membership
    exact (sound.individual membership).evaluated
  · intro x best
    have returned : evolution.best = some x := best
    rw [returned] at remembers
    exact remembers
  · simp only [solve, evolved]
    congr 4
    funext x
    simp only [timetable, generations, kept.problem_eq]

/-- Nothing of the first generation is feasible, the second one has an individual of fitness 320,
and of the two with fitness 330 in the third one the first is returned. -/
theorem evolve_returns_leader_morning :
    let p := Problem.morning
    let solver : GeneticSolver MersenneTwister :=
      ⟨p, .brief, .multiples, .never, .after p.loci [[none, none, none]], 3, 7⟩
    let best : Individual :=
      ⟨[some ⟨⟨"hall", 30, []⟩, ⟨"Monday", "10:00", "11:00"⟩⟩,
        some ⟨⟨"hall", 30, []⟩, ⟨"Monday", "11:00", "12:00"⟩⟩,
        some ⟨⟨"attic", 10, []⟩, ⟨"Monday", "09:00", "10:00"⟩⟩], ⟨330, 0, 0⟩⟩
    p.fault? = none ∧ Settings.brief.Valid ∧
      ∃ evolution after, solver.evolve = (.ok evolution, after) ∧
        evolution.generations = solver.firstStage.course p.loci ∧
        (evolution.generations.map fun g => g.map fun x => (x.fitness, x.feasible)) =
          [[(160, false), (170, false), (20, false), (160, false)],
            [(170, false), (110, false), (180, false), (320, true)],
            [(320, true), (170, false), (330, true), (330, true)]] ∧
        (∀ x ∈ evolution.generations.flatten, x.genome.evaluate p.loci = .ok x.evaluation) ∧
        evolution.best = some best ∧ best.Leads evolution.generations.flatten ∧
        solver.solve = (.ok (evolution, some
          ⟨best.genome.decode p.sections,
            { p.statistics (best.genome.decode p.sections) .genetic with
              generations := some evolution.generations.length
              fitness := some (.ofInt 330) }⟩), after) := by
  intro p solver best
  have accepted : p.fault? = none := by decide +kernel
  obtain ⟨evolution, after, evolved, course, right, -, leads, solved⟩ :=
    evolve_returns_leader p .brief MersenneTwister.multiples .never [[none, none, none]] 3 7
      accepted Settings.valid_brief
  have ran : solver.evolve.1.map (fun evolution =>
      (evolution.best, evolution.generations.map fun g => g.map fun x =>
        (x.fitness, x.feasible))) =
      .ok (some best,
        [[(160, false), (170, false), (20, false), (160, false)],
          [(170, false), (110, false), (180, false), (320, true)],
          [(320, true), (170, false), (330, true), (330, true)]]) := by decide +kernel
  rw [evolved] at ran
  obtain ⟨returned, evaluated⟩ := Prod.mk.inj (Except.ok.inj ran)
  rw [returned] at solved
  exact ⟨accepted, Settings.valid_brief, evolution, after, evolved, course, evaluated, right,
    returned, leads best returned, solved⟩

end GeneticSolver

end Timetabling
