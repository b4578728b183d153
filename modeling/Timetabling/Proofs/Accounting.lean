import Timetabling.Proofs.Agreement
import Timetabling.Proofs.Rounding

/-!
# Where the fitness comes from

A genome's fitness can be accounted for without replaying it. Five numbers are enough: its lessons,
the sections left out, the lessons at a preferred time, those that fill their classroom well, and
those at fault, be it with a lesson before them or with their classroom. This bounds the fitness of
feasible genomes from both sides, and above a certain fitness there are no others.
-/

namespace Timetabling

namespace Lesson

/-- Whether a lesson that follows others clashes with one of them or is too large for its
classroom. -/
def Faulty (earlier : List Lesson) (l : Lesson) : Prop :=
  (∃ e ∈ earlier, e.Clash l) ∨ l.placement.classroom.capacity < l.session.capacity

instance (earlier : List Lesson) (l : Lesson) : Decidable (l.Faulty earlier) :=
  inferInstanceAs (Decidable ((∃ e ∈ earlier, e.Clash l) ∨ _))

theorem not_faulty_iff_fits {earlier : List Lesson} {r : Reservations} (books : r.Books earlier)
    {l : Lesson} : ¬ l.Faulty earlier ↔ fits l.session l.placement r = true := by
  rw [books.fits_iff, Faulty, not_or, not_lt]
  refine and_congr_left fun _ => ?_
  constructor
  · intro separate e membership clash
    exact separate ⟨e, membership, clash.symm⟩
  · rintro separate ⟨e, membership, clash⟩
    exact separate e membership clash.symm

def faults (earlier lessons : List Lesson) : Nat :=
  (List.range lessons.length).countP fun i =>
    ∃ l ∈ lessons[i]?, l.Faulty (earlier ++ lessons.take i)

theorem faults_cons (earlier : List Lesson) (l : Lesson) (lessons : List Lesson) :
    faults earlier (l :: lessons) =
      (if l.Faulty earlier then 1 else 0) + faults (earlier ++ [l]) lessons := by
  rw [faults, List.length_cons, List.range_succ_eq_map, List.countP_cons, List.countP_map,
    Nat.add_comm, faults]
  congr 1
  · simp
  · refine List.countP_congr fun i _ => ?_
    rw [Function.comp_apply, decide_eq_true_iff, decide_eq_true_iff, List.getElem?_cons_succ,
      List.take_succ_cons, List.append_assoc, List.singleton_append]

theorem faults_eq_zero_iff {earlier lessons : List Lesson} :
    faults earlier lessons = 0 ↔
      (∀ l ∈ lessons, l.session.capacity ≤ l.placement.classroom.capacity) ∧
        (∀ e ∈ earlier, ∀ l ∈ lessons, ¬ e.Clash l) ∧ Apart lessons := by
  induction lessons generalizing earlier with
  | nil => simp [faults, Apart]
  | cons l later ih =>
    have first : (if l.Faulty earlier then 1 else 0) = 0 ↔
        (∀ e ∈ earlier, ¬ e.Clash l) ∧ l.session.capacity ≤ l.placement.classroom.capacity := by
      rw [ite_eq_right_iff, imp_iff_not one_ne_zero, Faulty, not_or, not_lt]
      simp only [not_exists, not_and]
    simp only [faults_cons, Nat.add_eq_zero_iff, first, ih, apart_cons, List.forall_mem_append,
      List.forall_mem_singleton, List.forall_mem_cons, forall₂_and]
    constructor
    · rintro ⟨⟨separate, large⟩, others, ⟨before, after⟩, rest⟩
      exact ⟨⟨large, others⟩, ⟨separate, before⟩, after, rest⟩
    · rintro ⟨⟨large, others⟩, ⟨separate, before⟩, after, rest⟩
      exact ⟨⟨separate, large⟩, others, ⟨before, after⟩, rest⟩

/-- Whether a lesson fills its classroom well, as far as rounding can tell. -/
def fillsWell (l : Lesson) : Bool :=
  match quotient l.session.capacity l.placement.classroom.capacity with
  | .ok ratio => Evaluation.wellFilled ratio
  | .error _ => false

/-- Whether a lesson takes more than seven tenths and less than nineteen twentieths of the seats. -/
def InBand (l : Lesson) : Prop :=
  7 * l.placement.classroom.capacity < 10 * l.session.capacity ∧
    20 * l.session.capacity < 19 * l.placement.classroom.capacity

instance (l : Lesson) : Decidable l.InBand :=
  inferInstanceAs (Decidable (_ ∧ _))

theorem Positive.quotient_eq_ok {l : Lesson} (positive : l.Positive) (moderate : ¬ l.Overfull) :
    quotient l.session.capacity l.placement.classroom.capacity =
      .ok (.ofRatio false l.session.capacity.natAbs l.placement.classroom.capacity.natAbs) := by
  have session := positive.session
  have classroom := positive.classroom
  rw [quotient_eq (by omega) rfl, decide_eq_false (by omega), decide_eq_false (by omega)]
  refine if_pos ((Binary64.isFinite_ofRatio_iff (by omega)).mpr ?_)
  exact Nat.lt_of_not_le fun large => moderate (positive.overfull_iff.mpr large)

/-- For a classroom that is not enormous, rounding does not change whether it is filled well. -/
theorem Positive.fillsWell_iff {l : Lesson} (positive : l.Positive) (moderate : ¬ l.Overfull)
    (seats : l.placement.classroom.capacity ≤ 2 ^ 48) : l.fillsWell = true ↔ l.InBand := by
  have session := positive.session
  have classroom := positive.classroom
  have within : l.placement.classroom.capacity.natAbs ≤ pow2 48 := by
    change _ ≤ 281474976710656
    omega
  rw [fillsWell, positive.quotient_eq_ok moderate]
  simp only [Evaluation.wellFilled, Bool.and_eq_true]
  rw [Binary64.bound_lt_ofRatio_iff (by decide) (by omega) within (by decide +kernel),
    Binary64.ofRatio_lt_bound_iff (by decide) (by omega) within (by decide +kernel), InBand]
  omega

end Lesson

/-- What there is to count in a genome. -/
structure Tally where
  assigned : Nat
  unassigned : Nat
  preferred : Nat
  filled : Nat
  faulty : Nat
deriving DecidableEq, Repr

namespace Tally

def add (s t : Tally) : Tally where
  assigned := s.assigned + t.assigned
  unassigned := s.unassigned + t.unassigned
  preferred := s.preferred + t.preferred
  filled := s.filled + t.filled
  faulty := s.faulty + t.faulty

def evaluation (t : Tally) : Evaluation where
  fitness := 100 * t.assigned + 20 * t.preferred + 10 * t.filled - 100 * t.faulty
    - 50 * t.unassigned
  violations := t.faulty
  unassigned := t.unassigned

theorem evaluation_add (s t : Tally) : (s.add t).evaluation = s.evaluation.add t.evaluation := by
  simp only [add, evaluation, Evaluation.add, Evaluation.mk.injEq, and_true]
  push_cast
  ring

def leftOut : Tally :=
  ⟨0, 1, 0, 0, 0⟩

end Tally

namespace Genome

theorem length_lessons_add_count {loci : List Locus} {genome : Genome}
    (complete : genome.length = loci.length) :
    (genome.lessons loci).length + genome.count none = loci.length := by
  induction loci generalizing genome with
  | nil =>
    rw [List.length_nil, List.length_eq_zero_iff] at complete
    subst complete
    rfl
  | cons l loci ih =>
    cases genome with
    | nil => cases complete
    | cons gene genome =>
      have later := ih (Nat.succ.inj complete)
      cases gene with
      | none =>
        rw [lessons_cons_none, List.count_cons_self, List.length_cons]
        omega
      | some c =>
        rw [lessons_cons_some, List.count_cons_of_ne (by simp), List.length_cons,
          List.length_cons]
        omega

end Genome

namespace Problem

/-- What there is to count in a lesson that follows others. -/
def lessonTally (p : Problem) (earlier : List Lesson) (l : Lesson) : Tally where
  assigned := 1
  unassigned := 0
  preferred := if l.slotKey ∈ p.preferredKeys l.session.instructor then 1 else 0
  filled := if l.fillsWell then 1 else 0
  faulty := if l.Faulty earlier then 1 else 0

def tallyAfter (p : Problem) (earlier : List Lesson) (loci : List Locus) (genome : Genome) :
    Tally :=
  let lessons := genome.lessons loci
  { assigned := lessons.length
    unassigned := genome.count none
    preferred := lessons.countP fun l => l.slotKey ∈ p.preferredKeys l.session.instructor
    filled := lessons.countP Lesson.fillsWell
    faulty := Lesson.faults earlier lessons }

def tally (p : Problem) (genome : Genome) : Tally :=
  p.tallyAfter [] p.loci genome

variable {p : Problem} {earlier : List Lesson} {l : Locus} {loci : List Locus} {genome : Genome}

theorem tallyAfter_none : p.tallyAfter earlier (l :: loci) (none :: genome) =
    Tally.leftOut.add (p.tallyAfter earlier loci genome) := by
  simp [tallyAfter, Tally.leftOut, Tally.add, Genome.lessons_cons_none, Nat.add_comm]

theorem tallyAfter_some {c : Placement} :
    p.tallyAfter earlier (l :: loci) (some c :: genome) =
      (p.lessonTally earlier ⟨l.session, c⟩).add
        (p.tallyAfter (earlier ++ [⟨l.session, c⟩]) loci genome) := by
  simp [tallyAfter, lessonTally, Tally.add, Genome.lessons_cons_some, Lesson.faults_cons,
    List.countP_cons, Nat.add_comm]

theorem score_eq_evaluation {r : Reservations} (books : r.Books earlier)
    (keys : l.preferred = p.preferredKeys l.session.instructor) {c : Placement} {e : Evaluation}
    (scored : l.score (some c) r = .ok e) :
    e = (p.lessonTally earlier ⟨l.session, c⟩).evaluation := by
  cases divided : quotient l.session.capacity c.classroom.capacity with
  | error fault => simp [Locus.score, divided, bind, Except.bind] at scored
  | ok ratio =>
    have violated : (conflict? l.session c r).isSome = true ↔
        Lesson.Faulty earlier ⟨l.session, c⟩ := by
      rw [← not_iff_not, Lesson.not_faulty_iff_fits books, fits, Bool.not_eq_true,
        Option.isSome_eq_false_iff]
    have preferred : l.preferred.contains c.slot.key = true ↔
        Lesson.slotKey ⟨l.session, c⟩ ∈ p.preferredKeys l.session.instructor := by
      rw [List.contains_iff_mem, keys]
      rfl
    have filled : Lesson.fillsWell ⟨l.session, c⟩ = Evaluation.wellFilled ratio := by
      rw [Lesson.fillsWell, divided]
    simp only [Locus.score, divided, bind, Except.bind, pure, Except.pure, Except.ok.injEq,
      violated, preferred] at scored
    rw [← scored]
    simp only [Tally.evaluation, lessonTally, filled, Evaluation.assignedReward,
      Evaluation.violationPenalty, Evaluation.preferenceBonus, Evaluation.fillBonus,
      Evaluation.mk.injEq, Nat.cast_ite]
    split_ifs <;> simp

/-- Genes that follow lessons earn what there is to count in them, as long as the reservations hold
what those lessons occupy. -/
theorem evaluateFrom_eq_evaluation {r : Reservations} (books : r.Books earlier)
    (keys : ∀ l ∈ loci, l.preferred = p.preferredKeys l.session.instructor)
    (complete : genome.length = loci.length) {e : Evaluation}
    (evaluated : genome.evaluateFrom loci r = .ok e) :
    e = (p.tallyAfter earlier loci genome).evaluation := by
  -- Induction over the genes. A lesson joins the earlier ones whether it is faulty or not.
  induction loci generalizing genome r earlier e with
  | nil =>
    cases evaluated
    rw [List.length_nil, List.length_eq_zero_iff] at complete
    subst complete
    rfl
  | cons l loci ih =>
    cases genome with
    | nil => cases complete
    | cons gene genome =>
      obtain ⟨head, tail, scored, replayed, rfl⟩ := Genome.evaluateFrom_cons.mp evaluated
      obtain ⟨here, later⟩ := List.forall_mem_cons.mp keys
      have sameLength : genome.length = loci.length := Nat.succ.inj complete
      cases gene with
      | none =>
        rw [Locus.score_none] at scored
        rw [tallyAfter_none, Tally.evaluation_add, ← ih books later sameLength replayed, scored]
        rfl
      | some c =>
        have booked : (r.place l.session c).Books (earlier ++ [⟨l.session, c⟩]) :=
          (books.place l.session c).of_mem_iff (by simp [or_comm])
        rw [tallyAfter_some, Tally.evaluation_add, ← ih booked later sameLength replayed,
          ← score_eq_evaluation books here scored]

theorem evaluate_eq_evaluation (complete : genome.length = p.sections.length) {e : Evaluation}
    (evaluated : genome.evaluate p.loci = .ok e) : e = (p.tally genome).evaluation := by
  refine evaluateFrom_eq_evaluation Reservations.books_empty ?_ ?_ evaluated
  · intro l located
    obtain ⟨sec, -, rfl⟩ := List.mem_map.mp located
    rfl
  · rw [complete, loci, List.length_map]

theorem assigned_add_unassigned (complete : genome.length = p.sections.length) :
    (p.tally genome).assigned + (p.tally genome).unassigned = p.sections.length := by
  have sameLength : genome.length = p.loci.length := by
    rw [complete, loci, List.length_map]
  exact (Genome.length_lessons_add_count sameLength).trans (sameLength.symm.trans complete)

theorem preferred_le_assigned (p : Problem) (genome : Genome) :
    (p.tally genome).preferred ≤ (p.tally genome).assigned :=
  List.countP_le_length

theorem filled_le_assigned (p : Problem) (genome : Genome) :
    (p.tally genome).filled ≤ (p.tally genome).assigned :=
  List.countP_le_length

theorem fitness_of_feasible (complete : genome.length = p.sections.length) {e : Evaluation}
    (evaluated : genome.evaluate p.loci = .ok e) (feasible : e.feasible = true) :
    100 * (p.sections.length : Int) ≤ e.fitness ∧ e.fitness ≤ 130 * p.sections.length := by
  obtain rfl := evaluate_eq_evaluation complete evaluated
  obtain ⟨faultless, placed⟩ := Evaluation.feasible_iff.mp feasible
  have total := p.assigned_add_unassigned complete
  have preferred := p.preferred_le_assigned genome
  have filled := p.filled_le_assigned genome
  simp only [Tally.evaluation] at faultless placed ⊢
  omega

/-- A violation costs what it costs, and a section that is left out costs more than that, because it
earns nothing. -/
theorem feasible_of_fitness (complete : genome.length = p.sections.length) {e : Evaluation}
    (evaluated : genome.evaluate p.loci = .ok e)
    (fit : 130 * (p.sections.length : Int) - 100 < e.fitness) : e.feasible = true := by
  obtain rfl := evaluate_eq_evaluation complete evaluated
  have total := p.assigned_add_unassigned complete
  have preferred := p.preferred_le_assigned genome
  have filled := p.filled_le_assigned genome
  rw [Evaluation.feasible_iff]
  simp only [Tally.evaluation] at fit ⊢
  omega

theorem Accepted.filled_eq_countP (accepted : p.Accepted)
    (located : ∀ c, some c ∈ genome → c.classroom ∈ p.classrooms)
    (moderate : ¬ ∃ lesson ∈ genome.lessons p.loci, lesson.Overfull)
    (seats : ∀ room ∈ p.classrooms, room.capacity ≤ 2 ^ 48) :
    (p.tally genome).filled = (genome.lessons p.loci).countP fun lesson => lesson.InBand := by
  refine List.countP_congr fun lesson membership => ?_
  have positive := accepted.positive_of_mem_lessons located membership
  obtain ⟨-, known⟩ := known_of_mem_lessons located membership
  rw [decide_eq_true_iff]
  exact positive.fillsWell_iff (fun overfull => moderate ⟨lesson, membership, overfull⟩)
    (seats _ known)

/-- The evaluation of a genome with classrooms of the problem, whatever has been evaluated before,
is accounted for by what there is to count, unless a section is so much larger than its classroom
that their quotient is too large. A feasible genome earns the reward for every section and no more
than both bonuses on top, and only a feasible genome can come within the cost of a violation of the
most that can be earned. -/
theorem evaluate_accounts (accepted : p.fault? = none) (earlier : List Genome)
    (complete : genome.length = p.sections.length)
    (located : ∀ c, some c ∈ genome → c.classroom ∈ p.classrooms) :
    let evaluation := ((EvaluationCache.after p.loci earlier).evaluate p.loci genome).1
    let t := p.tally genome
    let n := p.sections.length
    ((¬ ∃ lesson ∈ genome.lessons p.loci, lesson.Overfull) →
        ∃ e, evaluation = .ok e ∧ t.assigned + t.unassigned = n ∧
          e.fitness = 100 * t.assigned + 20 * t.preferred + 10 * t.filled - 100 * t.faulty
            - 50 * t.unassigned ∧
          e.violations = t.faulty ∧ e.unassigned = t.unassigned ∧
          (e.feasible = true → 100 * (n : Int) ≤ e.fitness ∧ e.fitness ≤ 130 * n) ∧
          (130 * (n : Int) - 100 < e.fitness → e.feasible = true) ∧
          ((∀ room ∈ p.classrooms, room.capacity ≤ 2 ^ 48) →
            t.filled = (genome.lessons p.loci).countP fun lesson => lesson.InBand)) ∧
      ((∃ lesson ∈ genome.lessons p.loci, lesson.Overfull) → evaluation = .error .tooLarge) := by
  intro evaluation t n
  have accepted : p.Accepted := fault?_eq_none_iff.mp accepted
  have uncached : evaluation = genome.evaluate p.loci :=
    (EvaluationCache.sound_after earlier).evaluate_fst genome
  have positive : ∀ lesson ∈ genome.lessons p.loci, lesson.Positive :=
    fun _ membership => accepted.positive_of_mem_lessons located membership
  rw [uncached]
  constructor
  · intro moderate
    obtain ⟨e, evaluated⟩ : ∃ e, genome.evaluate p.loci = .ok e := by
      refine Genome.exists_evaluateFrom positive ?_ {}
      intro lesson membership overfull
      exact moderate ⟨lesson, membership, overfull⟩
    have accounted : e = t.evaluation := evaluate_eq_evaluation complete evaluated
    refine ⟨e, evaluated, assigned_add_unassigned complete, congrArg Evaluation.fitness accounted,
      congrArg Evaluation.violations accounted, congrArg Evaluation.unassigned accounted,
      fitness_of_feasible complete evaluated, feasible_of_fitness complete evaluated, ?_⟩
    exact accepted.filled_eq_countP located moderate
  · intro overfull
    exact Genome.evaluateFrom_of_overfull positive overfull {}

/-- Four sections that compete for the hall at one time, which one of the instructors prefers. -/
def rush : Problem :=
  build
    [⟨"algebra", "ada", 24, false⟩, ⟨"logic", "ada", 20, true⟩, ⟨"choir", "clara", 50, false⟩,
      ⟨"sets", "georg", 10, false⟩]
    [hall] [monday] [("ada", [monday.key])] []

theorem evaluate_accounts_crush :
    rush.fault? = none ∧ crush.length = rush.sections.length ∧
      (∀ c, some c ∈ crush → c.classroom ∈ rush.classrooms) ∧
      (¬ ∃ lesson ∈ crush.lessons rush.loci, lesson.Overfull) ∧
      rush.tally crush = ⟨3, 1, 2, 1, 2⟩ ∧
      ∃ e, ((EvaluationCache.after rush.loci [crush]).evaluate rush.loci crush).1 = .ok e ∧
        e.fitness = 100 ∧ e.violations = 2 ∧ e.unassigned = 1 ∧
        (crush.lessons rush.loci).countP (fun lesson => lesson.InBand) = 1 := by
  have accepted : rush.fault? = none := by decide +kernel
  have located : ∀ c, some c ∈ crush → c.classroom ∈ rush.classrooms := by
    simp [crush, rush, build]
  have moderate : ¬ ∃ lesson ∈ crush.lessons rush.loci, lesson.Overfull := by
    unfold Lesson.Overfull
    decide +kernel
  have counted : rush.tally crush = ⟨3, 1, 2, 1, 2⟩ := by decide +kernel
  obtain ⟨e, evaluated, -, fitness, violations, unassigned, -, -, filled⟩ :=
    (evaluate_accounts accepted [crush] rfl located).1 moderate
  rw [counted] at fitness violations unassigned filled
  refine ⟨accepted, rfl, located, moderate, counted, e, evaluated, ?_, violations, unassigned, ?_⟩
  · rw [fitness]
    rfl
  · exact (filled (by decide +kernel)).symm

/-- Not every genome with classrooms of the problem is accounted for. -/
theorem not_accounted_multitude :
    let p := build [multitude] [cell] [monday] [("ada", [monday.key])] []
    let genome : Genome := [some ⟨cell, monday⟩]
    let t := p.tally genome
    p.fault? = none ∧ genome.length = p.sections.length ∧
      (∀ c, some c ∈ genome → c.classroom ∈ p.classrooms) ∧
      ¬ ∃ e, (({} : EvaluationCache).evaluate p.loci genome).1 = .ok e ∧
        e.fitness = 100 * t.assigned + 20 * t.preferred + 10 * t.filled - 100 * t.faulty
          - 50 * t.unassigned := by
  refine ⟨by decide +kernel, rfl, by simp [build], ?_⟩
  rintro ⟨e, evaluated, -⟩
  have fails : (({} : EvaluationCache).evaluate
      (build [multitude] [cell] [monday] [("ada", [monday.key])] []).loci
      [some ⟨cell, monday⟩]).1 = .error .tooLarge := by decide +kernel
  cases fails.symm.trans evaluated

end Problem

end Timetabling
