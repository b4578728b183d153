import Timetabling.Proofs.Accounting
import Timetabling.Proofs.Stocked

/-!
# Founders

A random genome is made gene by gene, and what is placed is reserved before the next draw. The
replay of the genome makes the same reservations, so it finds nothing to blame but the genes that
are missing. A section is left out only where some placement for it clashes with those made.
-/

namespace Timetabling

variable {σ : Type} [RandomSource σ] {slots : List TimeSlot} {loci : List Locus}

namespace Locus

variable {l : Locus} {r : Reservations}

theorem conflict?_attempt (r : Reservations) (attempts : Nat) (s : σ) :
    l.conflict? (l.attempt slots r attempts s).1 r = none := by
  induction attempts generalizing s with
  | zero => rfl
  | succ attempts ih =>
    unfold attempt
    split
    next => rfl
    next c s' _ =>
      split
      next fitting => exact Option.isNone_iff_eq_none.mp fitting
      next => exact ih s'

theorem exists_not_fits_of_attempt {attempts : Nat} (attempted : 0 < attempts)
    (someRoom : l.rooms ≠ []) (someSlot : slots ≠ []) {s : σ}
    (leftOut : (l.attempt slots r attempts s).1 = none) :
    ∃ c, c.classroom ∈ l.rooms ∧ c.slot ∈ slots ∧ ¬ fits l.session c r = true := by
  obtain ⟨attempts, rfl⟩ := Nat.exists_eq_succ_of_ne_zero (Nat.ne_zero_of_lt attempted)
  obtain ⟨c, s', drawn, eligible, offered⟩ :=
    exists_randomPlacement_eq_some someRoom someSlot s
  refine ⟨c, eligible, offered, ?_⟩
  intro fitting
  rw [attempt, drawn] at leftOut
  simp [fitting] at leftOut

end Locus

theorem Reservations.Books.reserve {r : Reservations} {earlier : List Lesson}
    (books : r.Books earlier) (l : Locus) (gene : Option Placement) :
    (l.reserve gene r).Books ((gene.map (Lesson.mk l.session)).toList ++ earlier) := by
  cases gene with
  | none => exact books
  | some c => exact books.place l.session c

namespace Genome

theorem lessons_cons (l : Locus) (loci : List Locus) (gene : Option Placement) (genome : Genome) :
    lessons (l :: loci) (gene :: genome) =
      (gene.map (Lesson.mk l.session)).toList ++ genome.lessons loci := by
  cases gene <;> rfl

theorem conflictsFrom_randomFrom (attempts : Nat) (r : Reservations) (s : σ) :
    conflictsFrom loci (randomFrom slots attempts loci r s).1 r = [] := by
  induction loci generalizing r s with
  | nil => rfl
  | cons l loci ih =>
    -- The replay puts the gene in force as the draw did, so both go on from the same reservations.
    have first : l.conflict? (l.attempt slots r attempts s).1 r = none :=
      Locus.conflict?_attempt r attempts s
    have later := ih (l.reserve (l.attempt slots r attempts s).1 r)
      (l.attempt slots r attempts s).2
    rw [randomFrom, conflictsFrom, first]
    exact later

theorem exists_clash_of_randomFrom {attempts : Nat} (attempted : 0 < attempts)
    (large : ∀ l ∈ loci, ∀ room ∈ l.rooms, l.session.capacity ≤ room.capacity)
    {r : Reservations} {earlier : List Lesson} (books : r.Books earlier) {s : σ} {i : Nat}
    {l : Locus} (located : loci[i]? = some l) (someRoom : l.rooms ≠ []) (someSlot : slots ≠ [])
    (leftOut : (randomFrom slots attempts loci r s).1[i]? = some none) :
    ∃ c, c.classroom ∈ l.rooms ∧ c.slot ∈ slots ∧
      ∃ lesson ∈ earlier ++ (randomFrom slots attempts loci r s).1.lessons loci,
        lesson.Clash ⟨l.session, c⟩ := by
  induction loci generalizing r earlier s i with
  | nil => cases located
  | cons first loci ih =>
    obtain ⟨largeHere, largeLater⟩ := List.forall_mem_cons.mp large
    cases i with
    | zero =>
      cases located
      obtain ⟨c, eligible, offered, misfit⟩ :=
        Locus.exists_not_fits_of_attempt attempted someRoom someSlot (Option.some.inj leftOut)
      refine ⟨c, eligible, offered, ?_⟩
      by_contra separate
      refine misfit (books.fits_iff.mpr ⟨?_, largeHere _ eligible⟩)
      intro other booked clash
      exact separate ⟨other, List.mem_append_left _ booked, clash.symm⟩
    | succ i =>
      have booked := books.reserve first (first.attempt slots r attempts s).1
      obtain ⟨c, eligible, offered, lesson, membership, clash⟩ :=
        ih largeLater booked located leftOut
      refine ⟨c, eligible, offered, lesson, ?_, clash⟩
      rw [randomFrom, lessons_cons]
      simp only [List.mem_append] at membership ⊢
      tauto

/-- Whatever has been evaluated before, a random genome is evaluated without violations. Its lessons
are offered by the problem and keep apart, and it is feasible if no gene is missing. -/
theorem random_breaks_nothing (p : Problem) (accepted : p.fault? = none) (attempts : Nat) (s : σ)
    (earlier : List Genome) :
    let genome := (random p.slots attempts p.loci s).1
    let lessons := genome.lessons p.loci
    ∃ e, ((EvaluationCache.after p.loci earlier).evaluate p.loci genome).1 = .ok e ∧
      e.violations = 0 ∧ e.unassigned = genome.count none ∧
      (e.feasible = true ↔ none ∉ genome) ∧
      genome.length = p.sections.length ∧ Lesson.Apart lessons ∧
      ∀ lesson ∈ lessons, p.Offers lesson := by
  intro genome lessons
  have accepted : p.Accepted := Problem.fault?_eq_none_iff.mp accepted
  have admissible : genome.Admissible p.slots p.loci := admissible_randomFrom attempts {} s
  have complete : genome.length = p.sections.length := admissible.proper.length_eq
  obtain ⟨e, evaluated⟩ := accepted.exists_evaluate admissible
  have violations : e.violations = 0 := by
    rw [violations_of_evaluateFrom evaluated]
    exact congrArg List.length (conflictsFrom_randomFrom attempts {} s)
  obtain rfl := Problem.evaluate_eq_evaluation complete evaluated
  obtain ⟨-, -, apart⟩ := Lesson.faults_eq_zero_iff.mp violations
  refine ⟨_, ?_, violations, rfl, ?_, complete, apart, ?_⟩
  · rw [(EvaluationCache.sound_after earlier).evaluate_fst]
    exact evaluated
  · rw [Evaluation.feasible_iff, and_iff_right violations]
    exact List.count_eq_zero
  · intro lesson membership
    exact Problem.offers_of_mem_lessons admissible membership

theorem random_breaks_nothing_rush :
    let p := Problem.rush
    let source : MersenneTwister := ⟨.replicate 624 0, 0⟩
    let genome := (random p.slots 3 p.loci source).1
    p.fault? = none ∧ genome = [some ⟨Problem.hall, Problem.monday⟩, none, none, none] ∧
      ∃ e, ((EvaluationCache.after p.loci [Problem.crush]).evaluate p.loci genome).1 = .ok e ∧
        e.violations = 0 ∧ e.unassigned = 3 ∧ e.feasible = false := by
  intro p source genome
  have accepted : p.fault? = none := by decide +kernel
  have drawn : genome = [some ⟨Problem.hall, Problem.monday⟩, none, none, none] := by
    decide +kernel
  obtain ⟨e, evaluated, violations, unassigned, feasible, -⟩ :=
    random_breaks_nothing p accepted 3 source [Problem.crush]
  refine ⟨accepted, drawn, e, evaluated, violations, ?_, ?_⟩
  · rw [unassigned]
    change genome.count none = 3
    rw [drawn]
    rfl
  · rw [← Bool.not_eq_true, feasible, not_not]
    change none ∈ genome
    rw [drawn]
    exact List.mem_cons_of_mem _ List.mem_cons_self

/-- A section for which there is a placement is left out only where one for it clashes with a lesson
of the genome, unless nothing is attempted. -/
theorem exists_clash_of_random {p : Problem} {attempts : Nat} (attempted : 0 < attempts) {s : σ}
    {i : Nat} {sec : Section} (located : p.sections[i]? = some sec)
    (offered : ∃ c, p.Offers ⟨p.session sec, c⟩)
    (leftOut : (random p.slots attempts p.loci s).1[i]? = some none) :
    ∃ c, p.Offers ⟨p.session sec, c⟩ ∧
      ∃ lesson ∈ (random p.slots attempts p.loci s).1.lessons p.loci,
        lesson.Clash ⟨p.session sec, c⟩ := by
  obtain ⟨c, offers⟩ := offered
  have locus : p.loci[i]? = some (p.locus sec) := by
    rw [Problem.loci, List.getElem?_map, located, Option.map_some]
  obtain ⟨eligible, inSlots⟩ := Problem.offers_iff.mp offers
  obtain ⟨d, eligible', inSlots', clashing⟩ := exists_clash_of_randomFrom attempted p.large_loci
    Reservations.books_empty locus (List.ne_nil_of_mem eligible) (List.ne_nil_of_mem inSlots)
    leftOut
  exact ⟨d, Problem.offers_iff.mpr ⟨eligible', inSlots'⟩, clashing⟩

end Genome

end Timetabling
