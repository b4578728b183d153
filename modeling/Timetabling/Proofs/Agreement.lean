import Timetabling.Proofs.Auditing
import Timetabling.Proofs.Replay

/-!
# Two judges

An evaluation counts at most one violation for each gene, and an audit reports every collision. Both
replay the same lessons in the same order, and a violating lesson keeps what it occupies, so the
genes counted are those of the sections on which the audit blames something.
-/

namespace Timetabling

/-- Whether one of the violations is blamed on a section, which is the last one that it concerns. -/
def Blamed (violations : List Violation) (sectionId : String) : Prop :=
  ∃ v ∈ violations, v.sectionIds.getLast? = some sectionId

instance (violations : List Violation) (sectionId : String) :
    Decidable (Blamed violations sectionId) :=
  inferInstanceAs (Decidable (∃ v ∈ violations, _))

theorem blamed_append {first second : List Violation} {sectionId : String} :
    Blamed (first ++ second) sectionId ↔ Blamed first sectionId ∨ Blamed second sectionId := by
  simp only [Blamed, List.mem_append, or_and_right, exists_or]

namespace Lesson

variable {earlier lessons : List Lesson} {l : Lesson} {v : Violation} {sectionId : String}

theorem getLast?_of_mem_violations (reported : v ∈ l.violations earlier) :
    v.sectionIds.getLast? = some l.session.id := by
  simp only [violations, List.mem_append, List.mem_ite_nil_right, List.mem_singleton,
    List.mem_flatMap, List.mem_map] at reported
  rcases reported with (⟨-, rfl⟩ | ⟨-, rfl⟩) | ⟨resource, -, id, -, rfl⟩ <;> rfl

theorem blamed_violations_iff :
    Blamed (l.violations earlier) sectionId ↔
      l.violations earlier ≠ [] ∧ l.session.id = sectionId := by
  constructor
  · rintro ⟨v, reported, blamed⟩
    refine ⟨List.ne_nil_of_mem reported, ?_⟩
    rw [getLast?_of_mem_violations reported] at blamed
    exact Option.some.inj blamed
  · rintro ⟨someReported, rfl⟩
    obtain ⟨v, reported⟩ := List.exists_mem_of_ne_nil _ someReported
    exact ⟨v, reported, getLast?_of_mem_violations reported⟩

theorem blamed_violationsAfter_cons :
    Blamed (violationsAfter earlier (l :: lessons)) sectionId ↔
      l.violations earlier ≠ [] ∧ l.session.id = sectionId ∨
        Blamed (violationsAfter (earlier ++ [l]) lessons) sectionId := by
  rw [violationsAfter, blamed_append, blamed_violations_iff]

theorem exists_blamed_of_mem (reported : v ∈ violationsAfter earlier lessons) :
    ∃ l ∈ lessons, v.sectionIds.getLast? = some l.session.id := by
  induction lessons generalizing earlier with
  | nil => cases reported
  | cons l later ih =>
    rcases List.mem_append.mp reported with here | elsewhere
    · exact ⟨l, List.mem_cons_self, getLast?_of_mem_violations here⟩
    · obtain ⟨other, membership, blamed⟩ := ih elsewhere
      exact ⟨other, List.mem_cons_of_mem _ membership, blamed⟩

theorem not_blamed_of_fresh (fresh : ∀ l ∈ lessons, l.session.id ≠ sectionId) :
    ¬ Blamed (violationsAfter earlier lessons) sectionId := by
  rintro ⟨v, reported, blamed⟩
  obtain ⟨l, membership, same⟩ := exists_blamed_of_mem reported
  exact fresh l membership (Option.some.inj (same.symm.trans blamed))

/-- Among sections without a later lesson of the first one's, its own is blamed for what is reported
about it and the others as if it had come before. -/
theorem countP_blamed_cons {ids : List String} (newId : l.session.id ∉ ids)
    (fresh : ∀ other ∈ lessons, other.session.id ≠ l.session.id) :
    (l.session.id :: ids).countP (fun id => Blamed (violationsAfter earlier (l :: lessons)) id) =
      ids.countP (fun id => Blamed (violationsAfter (earlier ++ [l]) lessons) id) +
        if l.violations earlier = [] then 0 else 1 := by
  have first : Blamed (violationsAfter earlier (l :: lessons)) l.session.id ↔
      l.violations earlier ≠ [] := by
    rw [blamed_violationsAfter_cons, or_iff_left (not_blamed_of_fresh fresh), and_iff_left rfl]
  have others : ids.countP (fun id => Blamed (violationsAfter earlier (l :: lessons)) id) =
      ids.countP fun id => Blamed (violationsAfter (earlier ++ [l]) lessons) id := by
    refine List.countP_congr ?_
    intro id membership
    rw [decide_eq_true_iff, decide_eq_true_iff, blamed_violationsAfter_cons, or_iff_right]
    rintro ⟨-, same⟩
    exact newId (same ▸ membership)
  rw [List.countP_cons, others]
  by_cases clean : l.violations earlier = [] <;> simp [first, clean]

theorem violationsAfter_eq_nil_iff_not_blamed :
    violationsAfter earlier lessons = [] ↔
      ∀ l ∈ lessons, ¬ Blamed (violationsAfter earlier lessons) l.session.id := by
  constructor
  · rintro clean l - ⟨v, reported, -⟩
    rw [clean] at reported
    cases reported
  · intro innocent
    by_contra someReported
    obtain ⟨v, reported⟩ := List.exists_mem_of_ne_nil _ someReported
    obtain ⟨l, membership, blamed⟩ := exists_blamed_of_mem reported
    exact innocent l membership ⟨v, reported, blamed⟩

theorem violations_eq_nil_iff_fits {r : Reservations} (books : r.Books earlier)
    (fresh : ∀ e ∈ earlier, e.session.id ≠ l.session.id) :
    l.violations earlier = [] ↔ fits l.session l.placement r = true := by
  rw [violations_eq_nil_iff, books.fits_iff]
  refine and_congr_left fun _ => forall₂_congr fun e membership => ?_
  constructor
  · rintro ⟨-, separate⟩ clash
    exact separate clash.symm
  · intro separate
    exact ⟨fresh e membership, fun clash => separate clash.symm⟩

end Lesson

/-- An evaluation agrees with the audit of some assignments. -/
structure Evaluation.Agrees (e : Evaluation) (p : Problem) (assignments : List Assignment) :
    Prop where
  violations : e.violations = p.sections.countP fun sec => Blamed (p.violations assignments) sec.id
  unassigned : e.unassigned = (p.unassigned assignments).length
  feasible : e.feasible = true ↔ p.violations assignments = [] ∧ p.unassigned assignments = []

namespace Locus

variable {l : Locus} {c : Placement} {r : Reservations} {e : Evaluation}

theorem score_none : l.score none r = .ok e ↔ e = ⟨-Evaluation.unassignedPenalty, 0, 1⟩ := by
  simp [score, eq_comm]

theorem counts_of_score_some (scored : l.score (some c) r = .ok e) :
    e.violations = (if fits l.session c r then 0 else 1) ∧ e.unassigned = 0 := by
  cases divided : quotient l.session.capacity c.classroom.capacity with
  | error fault => simp [score, divided, bind, Except.bind] at scored
  | ok ratio =>
    simp only [score, divided, bind, Except.bind, pure, Except.pure, Except.ok.injEq] at scored
    rw [← scored]
    unfold fits
    cases conflict? l.session c r <;> simp

end Locus

namespace Genome

variable {loci : List Locus} {genome : Genome} {r : Reservations} {e : Evaluation}

theorem exists_locus_of_mem_lessons {lesson : Lesson} (membership : lesson ∈ genome.lessons loci) :
    ∃ l ∈ loci, l.session = lesson.session ∧ some lesson.placement ∈ genome := by
  obtain ⟨⟨l, gene⟩, paired, held⟩ := List.mem_filterMap.mp membership
  obtain ⟨c, rfl, rfl⟩ := Option.map_eq_some_iff.mp held
  obtain ⟨located, listed⟩ := List.of_mem_zip paired
  exact ⟨l, located, rfl, listed⟩

theorem fresh_lessons {l : Locus}
    (fresh : l.session.id ∉ loci.map fun other => other.session.id) :
    ∀ lesson ∈ genome.lessons loci, lesson.session.id ≠ l.session.id := by
  rintro lesson membership same
  obtain ⟨other, located, session, -⟩ := exists_locus_of_mem_lessons membership
  exact fresh (List.mem_map.mpr ⟨other, located, by rw [session, same]⟩)

/-- The genes counted as violating are those of the sections that an audit of the lessons blames. -/
theorem violations_eq_countP {earlier : List Lesson} (books : r.Books earlier)
    (nodup : (loci.map fun l => l.session.id).Nodup)
    (fresh : ∀ e ∈ earlier, ∀ l ∈ loci, e.session.id ≠ l.session.id)
    (complete : genome.length = loci.length) (evaluated : evaluateFrom loci genome r = .ok e) :
    e.violations = (loci.map fun l => l.session.id).countP fun id =>
      Blamed (Lesson.violationsAfter earlier (genome.lessons loci)) id := by
  -- Induction over the genes, with the reservations standing for the lessons told to the audit.
  induction loci generalizing genome r earlier e with
  | nil =>
    cases evaluated
    rfl
  | cons l loci ih =>
    cases genome with
    | nil => cases complete
    | cons gene genome =>
      obtain ⟨head, tail, scored, replayed, rfl⟩ := evaluateFrom_cons.mp evaluated
      obtain ⟨newId, nodup⟩ := List.nodup_cons.mp nodup
      have sameLength : genome.length = loci.length := Nat.succ.inj complete
      have freshHere : ∀ e ∈ earlier, e.session.id ≠ l.session.id :=
        fun e told => fresh e told l List.mem_cons_self
      have freshLater : ∀ e ∈ earlier, ∀ other ∈ loci, e.session.id ≠ other.session.id :=
        fun e told other located => fresh e told other (List.mem_cons_of_mem _ located)
      have noneLater : ∀ lesson ∈ lessons loci genome, lesson.session.id ≠ l.session.id :=
        fresh_lessons newId
      rw [List.map_cons]
      cases gene with
      | none =>
        rw [Locus.score_none] at scored
        have unblamed :
            ¬ Blamed (Lesson.violationsAfter earlier (lessons loci genome)) l.session.id :=
          Lesson.not_blamed_of_fresh noneLater
        rw [lessons_cons_none, List.countP_cons_of_neg (by simpa using unblamed),
          ← ih books nodup freshLater sameLength replayed, scored]
        exact Nat.zero_add _
      | some c =>
        obtain ⟨counted, -⟩ := Locus.counts_of_score_some scored
        have reported := Lesson.violations_eq_nil_iff_fits (l := ⟨l.session, c⟩) books freshHere
        have booked : (r.place l.session c).Books (earlier ++ [⟨l.session, c⟩]) :=
          (books.place l.session c).of_mem_iff (by simp [or_comm])
        have freshAfter : ∀ e ∈ earlier ++ [⟨l.session, c⟩], ∀ other ∈ loci,
            e.session.id ≠ other.session.id := by
          refine List.forall_mem_append.mpr ⟨freshLater, List.forall_mem_singleton.mpr ?_⟩
          intro other located same
          exact newId (List.mem_map.mpr ⟨other, located, same.symm⟩)
        rw [lessons_cons_some, Lesson.countP_blamed_cons newId noneLater,
          ← ih booked nodup freshAfter sameLength replayed]
        change head.violations + tail.violations = _
        rw [counted, Nat.add_comm]
        simp only [reported]

theorem unassigned_eq_countP (nodup : (loci.map fun l => l.session.id).Nodup)
    (complete : genome.length = loci.length) (evaluated : evaluateFrom loci genome r = .ok e) :
    e.unassigned = (loci.map fun l => l.session.id).countP fun id =>
      id ∉ (genome.lessons loci).map fun lesson => lesson.session.id := by
  induction loci generalizing genome r e with
  | nil =>
    cases evaluated
    rfl
  | cons l loci ih =>
    cases genome with
    | nil => cases complete
    | cons gene genome =>
      obtain ⟨head, tail, scored, replayed, rfl⟩ := evaluateFrom_cons.mp evaluated
      obtain ⟨newId, nodup⟩ := List.nodup_cons.mp nodup
      have later := ih nodup (Nat.succ.inj complete) replayed
      rw [List.map_cons]
      cases gene with
      | none =>
        rw [Locus.score_none] at scored
        have unassigned : l.session.id ∉
            (lessons loci genome).map fun lesson => lesson.session.id := by
          intro held
          obtain ⟨lesson, membership, same⟩ := List.mem_map.mp held
          exact fresh_lessons newId lesson membership same
        rw [lessons_cons_none, List.countP_cons_of_pos (by simpa using unassigned), ← later, scored]
        exact Nat.add_comm _ _
      | some c =>
        obtain ⟨-, counted⟩ := Locus.counts_of_score_some scored
        have others : ((loci.map fun other => other.session.id).countP fun id =>
              id ∉ (lessons (l :: loci) (some c :: genome)).map fun lesson => lesson.session.id) =
            (loci.map fun other => other.session.id).countP fun id =>
              id ∉ (lessons loci genome).map fun lesson => lesson.session.id := by
          refine List.countP_congr ?_
          intro id located
          have notSame : id ≠ l.session.id := by
            rintro rfl
            exact newId located
          rw [decide_eq_true_iff, decide_eq_true_iff, lessons_cons_some, List.map_cons,
            List.mem_cons, or_iff_right notSame]
        rw [List.countP_cons_of_neg (by simp [lessons_cons_some]), others, ← later]
        change head.unassigned + tail.unassigned = _
        rw [counted, Nat.zero_add]

end Genome

namespace Problem

variable {p : Problem} {genome : Genome}

theorem known_of_mem_lessons (located : ∀ c, some c ∈ genome → c.classroom ∈ p.classrooms)
    {lesson : Lesson} (membership : lesson ∈ genome.lessons p.loci) :
    lesson.session ∈ p.sessions ∧ lesson.placement.classroom ∈ p.classrooms := by
  obtain ⟨l, listed, session, placed⟩ := Genome.exists_locus_of_mem_lessons membership
  obtain ⟨sec, known, rfl⟩ := List.mem_map.mp listed
  exact ⟨List.mem_map.mpr ⟨sec, known, session⟩, located _ placed⟩

theorem Accepted.positive_of_mem_lessons (accepted : p.Accepted)
    (located : ∀ c, some c ∈ genome → c.classroom ∈ p.classrooms) {lesson : Lesson}
    (membership : lesson ∈ genome.lessons p.loci) : lesson.Positive := by
  obtain ⟨session, classroom⟩ := known_of_mem_lessons located membership
  obtain ⟨sec, known, same⟩ := List.mem_map.mp session
  refine ⟨?_, accepted.classroom_capacity_pos _ classroom⟩
  rw [← same]
  exact accepted.section_capacity_pos sec known

theorem Accepted.violations_decode (accepted : p.Accepted)
    (once : ∀ sectionId, (p.studentsOf sectionId).Nodup)
    (located : ∀ c, some c ∈ genome → c.classroom ∈ p.classrooms) :
    p.violations (genome.decode p.sections) =
      Lesson.violationsAfter [] (genome.lessons p.loci) := by
  have announced : ∀ lesson ∈ genome.lessons p.loci,
      p.lesson? lesson.assignment = some lesson := by
    intro lesson membership
    obtain ⟨session, classroom⟩ := known_of_mem_lessons located membership
    exact accepted.lesson?_assignment session classroom
  have told : ((genome.lessons p.loci).map Lesson.assignment).filterMap p.lesson? =
      genome.lessons p.loci := by
    rw [List.filterMap_map]
    exact (List.filterMap_congr announced).trans List.filterMap_some
  rw [violations, Genome.decode_eq, AuditState.records_empty.run once, told]
  refine List.forall_mem_map.mpr ?_
  intro lesson membership
  exact ⟨lesson, announced lesson membership⟩

/-- Whatever an evaluation counts, the audit of the decoded genome reports. -/
theorem Accepted.agrees (accepted : p.Accepted)
    (once : ∀ sectionId, (p.studentsOf sectionId).Nodup)
    (located : ∀ c, some c ∈ genome → c.classroom ∈ p.classrooms)
    (complete : genome.length = p.sections.length) {e : Evaluation}
    (evaluated : genome.evaluate p.loci = .ok e) : e.Agrees p (genome.decode p.sections) := by
  have ids : (p.loci.map fun l => l.session.id) = p.sectionIds := by
    simp [loci, locus, session, sectionIds]
  have nodup : (p.loci.map fun l => l.session.id).Nodup := ids ▸ accepted.sectionIds_nodup
  have sameLength : genome.length = p.loci.length := by
    rw [complete, loci, List.length_map]
  have violations : e.violations = p.sections.countP fun sec =>
      Blamed (p.violations (genome.decode p.sections)) sec.id := by
    rw [Genome.violations_eq_countP Reservations.books_empty nodup (by simp) sameLength evaluated,
      accepted.violations_decode once located, ids, sectionIds, List.countP_map]
    rfl
  have unassigned : e.unassigned = (p.unassigned (genome.decode p.sections)).length := by
    rw [Genome.unassigned_eq_countP nodup sameLength evaluated, ids, sectionIds, List.countP_map,
      Problem.unassigned, ← List.countP_eq_length_filter, Genome.decode_eq]
    refine List.countP_congr fun sec _ => ?_
    simp [Lesson.assignment, Assignment.place]
  refine ⟨violations, unassigned, ?_⟩
  rw [Evaluation.feasible_iff, violations, unassigned, List.length_eq_zero_iff,
    List.countP_eq_zero]
  refine and_congr_left fun _ => ?_
  simp only [decide_eq_true_eq]
  constructor
  · intro innocent
    rw [accepted.violations_decode once located] at innocent ⊢
    refine Lesson.violationsAfter_eq_nil_iff_not_blamed.mpr ?_
    intro lesson membership
    obtain ⟨session, -⟩ := known_of_mem_lessons located membership
    obtain ⟨sec, known, same⟩ := List.mem_map.mp session
    rw [← same]
    exact innocent sec known
  · rintro clean sec - ⟨v, reported, -⟩
    rw [clean] at reported
    cases reported

/-- A genome with classrooms of the problem is evaluated, whatever has been evaluated before, and
what is counted agrees with the audit of its assignments. The one exception is a genome with a
section so much larger than its classroom that their quotient is too large. -/
theorem evaluate_agrees_with_audit (sections : List Section) (classrooms : List Classroom)
    (slots : List TimeSlot) (preferences enrollments : List (String × List String))
    (accepted : (build sections classrooms slots preferences enrollments).fault? = none)
    (earlier : List Genome) (complete : genome.length = sections.length)
    (located : ∀ c, some c ∈ genome → c.classroom ∈ classrooms) :
    let p := build sections classrooms slots preferences enrollments
    let evaluation := ((EvaluationCache.after p.loci earlier).evaluate p.loci genome).1
    ((¬ ∃ lesson ∈ genome.lessons p.loci, lesson.Overfull) →
        ∃ e, evaluation = .ok e ∧ e.Agrees p (genome.decode p.sections)) ∧
      ((∃ lesson ∈ genome.lessons p.loci, lesson.Overfull) → evaluation = .error .tooLarge) := by
  intro p evaluation
  have accepted : p.Accepted := fault?_eq_none_iff.mp accepted
  have uncached : evaluation = genome.evaluate p.loci :=
    (EvaluationCache.sound_after earlier).evaluate_fst genome
  have positive : ∀ lesson ∈ genome.lessons p.loci, lesson.Positive :=
    fun _ membership => accepted.positive_of_mem_lessons located membership
  rw [uncached]
  constructor
  · intro moderate
    obtain ⟨e, evaluated⟩ : ∃ e, genome.evaluate p.loci = .ok e := by
      refine Genome.exists_evaluateFrom positive ?_ {}
      intro lesson membership overfull
      exact moderate ⟨lesson, membership, overfull⟩
    exact ⟨e, evaluated, accepted.agrees
      (nodup_students_build sections classrooms slots preferences enrollments) located complete
      evaluated⟩
  · intro overfull
    exact Genome.evaluateFrom_of_overfull positive overfull {}

def hall : Classroom :=
  ⟨"hall", 30, []⟩

def monday : TimeSlot :=
  ⟨"Monday", "09:00", "10:00"⟩

def crowd : List Section :=
  [⟨"algebra", "ada", 20, false⟩, ⟨"logic", "ada", 20, true⟩, ⟨"choir", "clara", 50, false⟩,
    ⟨"sets", "georg", 10, false⟩]

/-- All but the last section in the hall, at one time. -/
def crush : Genome :=
  [some ⟨hall, monday⟩, some ⟨hall, monday⟩, some ⟨hall, monday⟩, none]

theorem evaluate_agrees_crush :
    let p := build crowd [hall] [monday] [] []
    let evaluation := ((EvaluationCache.after p.loci [crush]).evaluate p.loci crush).1
    p.fault? = none ∧ crush.length = crowd.length ∧
      (∀ c, some c ∈ crush → c.classroom ∈ [hall]) ∧
      ((¬ ∃ lesson ∈ crush.lessons p.loci, lesson.Overfull) →
          ∃ e, evaluation = .ok e ∧ e.Agrees p (crush.decode p.sections)) ∧
        ((∃ lesson ∈ crush.lessons p.loci, lesson.Overfull) → evaluation = .error .tooLarge) :=
  ⟨by decide +kernel, rfl, by simp [crush],
    evaluate_agrees_with_audit crowd [hall] [monday] [] [] (by decide +kernel) [crush] rfl
      (by simp [crush])⟩

/-- A section whose quotient with a single seat is just too large. -/
def multitude : Section :=
  ⟨"everyone", "ada", Binary64.overflow, false⟩

def cell : Classroom :=
  ⟨"cell", 1, []⟩

/-- Not every genome with classrooms of the problem is evaluated. -/
theorem not_evaluated_multitude :
    let genome : Genome := [some ⟨cell, monday⟩]
    let p := build [multitude] [cell] [monday] [] []
    p.fault? = none ∧ genome.length = p.sections.length ∧
      (∀ c, some c ∈ genome → c.classroom ∈ p.classrooms) ∧
      ¬ ∃ e, (({} : EvaluationCache).evaluate p.loci genome).1 = .ok e ∧
        e.Agrees p (genome.decode p.sections) := by
  refine ⟨by decide +kernel, rfl, by simp [build], ?_⟩
  rintro ⟨e, evaluated, -⟩
  have fails : (({} : EvaluationCache).evaluate (build [multitude] [cell] [monday] [] []).loci
      [some ⟨cell, monday⟩]).1 = .error .tooLarge := by decide +kernel
  cases fails.symm.trans evaluated

end Problem

end Timetabling
