import Timetabling.Proofs.Auditing
import Timetabling.Proofs.Requests
import Timetabling.Service.Routes

/-!
# What an audit decides

`ValidateRequest.IsTimetable` says when the rows of a request are a correct timetable of its
sections, in terms of what the request lists alone. The answer to the request is that it is valid
exactly then.
-/

namespace Timetabling

namespace ValidateRequest

/-- Two rows collide if they have one slot key and share the instructor, the classroom or a
student. -/
def Collide (r : ValidateRequest) (a b : Assignment) : Prop :=
  a.slotKey = b.slotKey ∧
    ((∃ first ∈ r.sections, first.id = a.sectionId ∧ ∃ second ∈ r.sections,
        second.id = b.sectionId ∧ first.instructor = second.instructor) ∨
      a.classroomId = b.classroomId ∨
      ∃ student, Enrolled r.enrollments student a.sectionId ∧
        Enrolled r.enrollments student b.sectionId)

structure IsTimetable (r : ValidateRequest) : Prop where
  sections_listed : ∀ a ∈ r.assignments, a.sectionId ∈ r.sections.map Section.id
  classrooms_listed : ∀ a ∈ r.assignments, a.classroomId ∈ r.classrooms.map Classroom.id
  named_once : ∀ sec ∈ r.sections, (r.assignments.map Assignment.sectionId).count sec.id = 1
  large_enough : ∀ a ∈ r.assignments, ∀ sec ∈ r.sections, sec.id = a.sectionId →
    ∀ room ∈ r.classrooms, room.id = a.classroomId → sec.capacity ≤ room.capacity
  apart : r.assignments.Pairwise fun a b => ¬ r.Collide a b

variable {r : ValidateRequest} {a b : Assignment} {l m : Lesson}

theorem named_once_iff (listed : ∀ a ∈ r.assignments, a.sectionId ∈ r.sections.map Section.id) :
    (∀ sec ∈ r.sections, (r.assignments.map Assignment.sectionId).count sec.id = 1) ↔
      (r.assignments.map Assignment.sectionId).Nodup ∧
        r.problem.unassigned r.assignments = [] := by
  rw [Problem.unassigned_eq_nil_iff]
  constructor
  · intro once
    refine ⟨List.nodup_iff_count_le_one.mpr ?_, ?_⟩
    · intro id
      by_cases named : id ∈ r.assignments.map Assignment.sectionId
      · obtain ⟨a, membership, rfl⟩ := List.mem_map.mp named
        obtain ⟨sec, known, same⟩ := List.mem_map.mp (listed a membership)
        rw [← same, once sec known]
      · rw [List.count_eq_zero_of_not_mem named]
        exact Nat.zero_le 1
    · intro sec known
      apply List.count_pos_iff.mp
      rw [once sec known]
      exact Nat.one_pos
  · rintro ⟨nodup, all⟩ sec known
    exact List.count_eq_one_of_mem nodup (all sec known)

section

variable (sections : (r.sections.map Section.id).Nodup)
  (classrooms : (r.classrooms.map Classroom.id).Nodup)

include sections classrooms

theorem lesson?_eq_some_iff :
    r.problem.lesson? a = some l ↔ ∃ sec room, (sec ∈ r.sections ∧ sec.id = a.sectionId) ∧
      (room ∈ r.classrooms ∧ room.id = a.classroomId) ∧
      ⟨r.problem.session sec, ⟨room, a.slot⟩⟩ = l := by
  have sectionIds : r.problem.sectionIds.Nodup := sections
  have classroomIds : r.problem.classroomIds.Nodup := classrooms
  simp only [Problem.lesson?_eq_some_iff, Problem.section?_eq_some_iff sectionIds,
    Problem.classroom?_eq_some_iff classroomIds]
  rfl

theorem id_of_lesson? (announced : r.problem.lesson? a = some l) : l.session.id = a.sectionId := by
  obtain ⟨sec, room, ⟨-, named⟩, -, rfl⟩ := (lesson?_eq_some_iff sections classrooms).mp announced
  exact named

theorem collide_iff_clash (first : r.problem.lesson? a = some l)
    (second : r.problem.lesson? b = some m) : r.Collide a b ↔ l.Clash m := by
  obtain ⟨sec, room, ⟨listed, named⟩, ⟨-, located⟩, rfl⟩ :=
    (lesson?_eq_some_iff sections classrooms).mp first
  obtain ⟨other, place, ⟨alsoListed, alsoNamed⟩, ⟨-, alsoLocated⟩, rfl⟩ :=
    (lesson?_eq_some_iff sections classrooms).mp second
  have instructor : (∃ first ∈ r.sections, first.id = a.sectionId ∧ ∃ second ∈ r.sections,
      second.id = b.sectionId ∧ first.instructor = second.instructor) ↔
      sec.instructor = other.instructor := by
    constructor
    · rintro ⟨first, ofFirst, sameFirst, second, ofSecond, sameSecond, shared⟩
      cases List.inj_on_of_nodup_map sections ofFirst listed (sameFirst.trans named.symm)
      cases List.inj_on_of_nodup_map sections ofSecond alsoListed (sameSecond.trans alsoNamed.symm)
      exact shared
    · intro shared
      exact ⟨sec, listed, named, other, alsoListed, alsoNamed, shared⟩
  have student : (∃ student, Enrolled r.enrollments student a.sectionId ∧
      Enrolled r.enrollments student b.sectionId) ↔
      ∃ student ∈ r.problem.studentsOf sec.id, student ∈ r.problem.studentsOf other.id := by
    simp only [problem, Problem.mem_studentsOf_build, named, alsoNamed]
  unfold Collide
  rw [instructor, student, ← located, ← alsoLocated]
  rfl

/-- Every row announces a lesson that fits its classroom if what it names is listed and fits. -/
theorem announced_iff :
    (∀ a ∈ r.assignments, ∃ l, r.problem.lesson? a = some l ∧
        l.session.capacity ≤ l.placement.classroom.capacity) ↔
      (∀ a ∈ r.assignments, a.sectionId ∈ r.sections.map Section.id) ∧
      (∀ a ∈ r.assignments, a.classroomId ∈ r.classrooms.map Classroom.id) ∧
      ∀ a ∈ r.assignments, ∀ sec ∈ r.sections, sec.id = a.sectionId →
        ∀ room ∈ r.classrooms, room.id = a.classroomId → sec.capacity ≤ room.capacity := by
  rw [← forall₂_and, ← forall₂_and]
  refine forall₂_congr ?_
  intro a _
  constructor
  · rintro ⟨l, announced, fitting⟩
    obtain ⟨sec, room, ⟨known, named⟩, ⟨located, placed⟩, rfl⟩ :=
      (lesson?_eq_some_iff sections classrooms).mp announced
    refine ⟨List.mem_map.mpr ⟨sec, known, named⟩, List.mem_map.mpr ⟨room, located, placed⟩, ?_⟩
    intro other alsoKnown alsoNamed place alsoLocated alsoPlaced
    cases List.inj_on_of_nodup_map sections alsoKnown known (alsoNamed.trans named.symm)
    cases List.inj_on_of_nodup_map classrooms alsoLocated located (alsoPlaced.trans placed.symm)
    exact fitting
  · rintro ⟨listed, placed, large⟩
    obtain ⟨sec, known, named⟩ := List.mem_map.mp listed
    obtain ⟨room, located, placed⟩ := List.mem_map.mp placed
    have announced := (lesson?_eq_some_iff sections classrooms).mpr
      ⟨sec, room, ⟨known, named⟩, ⟨located, placed⟩, rfl⟩
    exact ⟨_, announced, large sec known named room located placed⟩

theorem separate_iff (announced : ∀ a ∈ r.assignments, ∃ l, r.problem.lesson? a = some l ∧
      l.session.capacity ≤ l.placement.classroom.capacity) :
    (r.assignments.Pairwise fun a b => ∀ l, r.problem.lesson? a = some l →
        ∀ m, r.problem.lesson? b = some m → l.session.id ≠ m.session.id ∧ ¬ l.Clash m) ↔
      (r.assignments.map Assignment.sectionId).Nodup ∧
        r.assignments.Pairwise fun a b => ¬ r.Collide a b := by
  rw [List.Nodup, List.pairwise_map, ← List.pairwise_and_iff]
  refine List.Pairwise.iff_of_mem ?_
  intro a b ofFirst ofSecond
  obtain ⟨l, first, -⟩ := announced a ofFirst
  obtain ⟨m, second, -⟩ := announced b ofSecond
  rw [collide_iff_clash sections classrooms first second,
    ← id_of_lesson? sections classrooms first, ← id_of_lesson? sections classrooms second]
  constructor
  · intro separate
    exact separate l first m second
  · rintro separate l' ofFirst m' ofSecond
    cases first.symm.trans ofFirst
    cases second.symm.trans ofSecond
    exact separate

/-- The audit finds nothing and misses nothing exactly in correct timetables. -/
theorem isTimetable_iff :
    r.IsTimetable ↔ r.problem.violations r.assignments = [] ∧
      r.problem.unassigned r.assignments = [] := by
  have once : ∀ sectionId, (r.problem.studentsOf sectionId).Nodup :=
    Problem.nodup_students_build r.sections r.classrooms [] [] r.enrollments
  rw [Problem.violations_eq_nil_iff once]
  constructor
  · rintro ⟨listed, placed, named, large, apart⟩
    have announced := (announced_iff sections classrooms).mpr ⟨listed, placed, large⟩
    obtain ⟨nodup, complete⟩ := (named_once_iff listed).mp named
    exact ⟨⟨announced, (separate_iff sections classrooms announced).mpr ⟨nodup, apart⟩⟩, complete⟩
  · rintro ⟨⟨announced, separate⟩, complete⟩
    obtain ⟨listed, placed, large⟩ := (announced_iff sections classrooms).mp announced
    obtain ⟨nodup, apart⟩ := (separate_iff sections classrooms announced).mp separate
    exact ⟨listed, placed, (named_once_iff listed).mpr ⟨nodup, complete⟩, large, apart⟩

end

end ValidateRequest

namespace Service

theorem perform_validate (host : Host) {body : Value} {r : ValidateRequest}
    (accepted : ValidateRequest.ofValue body = .valid r) :
    perform host .validate (some body) = .ok (validate r) := by
  obtain ⟨given, rfl, -⟩ := ValidateRequest.ofValue_eq_valid_iff.mp accepted
  simp only [perform, readBody, accepted]

/-- A request that is accepted is answered, and the answer calls it valid exactly if its rows are a
correct timetable. -/
theorem validate_decides (host : Host) {body : Value} {r : ValidateRequest}
    (accepted : ValidateRequest.ofValue body = .valid r) :
    ∃ entries valid, perform host .validate (some body) = .ok ⟨200, .record entries⟩ ∧
      Entries.get? "valid" entries = some (.bool valid) ∧ (valid = true ↔ r.IsTimetable) := by
  obtain ⟨-, -, -, sections, classrooms⟩ := ValidateRequest.ofValue_eq_valid_iff.mp accepted
  refine ⟨_, _, perform_validate host accepted, rfl, ?_⟩
  rw [ValidateRequest.isTimetable_iff sections classrooms, Bool.and_eq_true, List.isEmpty_iff,
    List.isEmpty_iff]

/-- A request whose two rows collide in a student. -/
def sharedStudent : ValidateRequest where
  sections := [⟨"algebra", "ada", 20, false⟩, ⟨"logic", "kurt", 20, true⟩]
  classrooms := [⟨"hall", 30, []⟩, ⟨"attic", 20, []⟩]
  enrollments := [("emmy", ["algebra", "logic"])]
  assignments := [⟨"algebra", "hall", ⟨"Monday", "09:00", "10:00"⟩⟩,
    ⟨"logic", "attic", ⟨"Monday", "09:00", "10:00"⟩⟩]

theorem validate_decides_sharedStudent :
    ValidateRequest.ofValue sharedStudent.toValue = .valid sharedStudent ∧
      ∃ entries valid,
        perform {} .validate (some sharedStudent.toValue) = .ok ⟨200, .record entries⟩ ∧
        Entries.get? "valid" entries = some (.bool valid) ∧
        (valid = true ↔ sharedStudent.IsTimetable) :=
  ⟨by decide +kernel, validate_decides {} (by decide +kernel)⟩

end Service

end Timetabling
