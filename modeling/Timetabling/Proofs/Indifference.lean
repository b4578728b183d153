import Mathlib.Logic.Equiv.Basic
import Timetabling.Proofs.Renaming.Evolution

/-!
# What a solve does not depend on

A solve without a time budget sees of the students no more than which sections share one, and of the
identifiers no more than which ones of a kind are equal. So it has the same outcome for other
students that make the same sections conflict, and the renamed outcome for a renamed problem.
-/

namespace Timetabling

/-- Whether some student is enrolled in both sections. -/
def Shared (enrollments : List (String × List String)) (a b : String) : Prop :=
  ∃ student, Enrolled enrollments student a ∧ Enrolled enrollments student b

namespace Problem

variable (sections : List Section) (classrooms : List Classroom) (slots : List TimeSlot)
  (preferences enrollments : List (String × List String))

theorem shared_build_iff (a b : String) :
    (∃ student ∈ (build sections classrooms slots preferences enrollments).studentsOf a,
        student ∈ (build sections classrooms slots preferences enrollments).studentsOf b) ↔
      Shared enrollments a b := by
  simp only [mem_studentsOf_build, Shared]

variable {sections classrooms slots preferences enrollments}

theorem Accepted.enroll {others : List (String × List String)}
    (accepted : (build sections classrooms slots preferences enrollments).Accepted)
    (known : ∀ student id, Enrolled others student id → id ∈ sections.map Section.id) :
    (build sections classrooms slots preferences others).Accepted where
  classrooms_ne_nil := accepted.classrooms_ne_nil
  slots_ne_nil := accepted.slots_ne_nil
  section_capacity_pos := accepted.section_capacity_pos
  classroom_capacity_pos := accepted.classroom_capacity_pos
  sectionIds_nodup := accepted.sectionIds_nodup
  classroomIds_nodup := accepted.classroomIds_nodup
  enrolled_known := (enrolled_known_build_iff ..).mpr known

end Problem

namespace Renaming

theorem map_timetable_refl (outcome : Except SolveFault Timetable) :
    outcome.map Renaming.refl.timetable = outcome := by
  have same : Renaming.refl.timetable = id := by
    funext t
    have assignments : t.assignments.map Renaming.refl.assignment = t.assignments :=
      List.map_id _
    unfold timetable
    rw [assignments]
    rfl
  rw [same]
  exact congrFun Except.map_id outcome

theorem carries_refl {sections : List Section} {classrooms : List Classroom}
    {slots : List TimeSlot} {preferences enrollments others : List (String × List String)}
    (same : ∀ a ∈ sections, ∀ b ∈ sections, a.id ≠ b.id →
      (Shared enrollments a.id b.id ↔ Shared others a.id b.id)) :
    Renaming.refl.Carries (.build sections classrooms slots preferences enrollments)
      (.build sections classrooms slots preferences others) where
  sections_eq := (List.map_id _).symm
  classrooms_eq := (List.map_id _).symm
  slots_eq := rfl
  preferredKeys_eq _ := rfl
  shared_iff a first b second different := by
    rw [Problem.shared_build_iff]
    exact ((Problem.shared_build_iff ..).trans (same a first b second different)).symm

end Renaming

section Enrollments

variable {enrollments others : List (String × List String)} {student new id : String}
  {ids : List String} (once : (enrollments.map Prod.fst).Nodup)

include once

theorem enrolled_perm (same : enrollments.Perm others) :
    Enrolled enrollments student id ↔ Enrolled others student id := by
  rw [enrolled_iff once, enrolled_iff ((same.map _).nodup_iff.mp once)]
  simp only [same.mem_iff]

theorem enrolled_cons (fresh : new ∉ enrollments.map Prod.fst) :
    Enrolled ((new, ids) :: enrollments) student id ↔
      (student = new ∧ id ∈ ids) ∨ Enrolled enrollments student id := by
  have onceAll : (((new, ids) :: enrollments).map Prod.fst).Nodup :=
    List.nodup_cons.mpr ⟨fresh, once⟩
  rw [enrolled_iff once, enrolled_iff onceAll]
  simp only [List.mem_cons, Prod.mk.injEq, or_and_right, exists_or]
  apply or_congr_left
  constructor
  · rintro ⟨ids, ⟨rfl, rfl⟩, named⟩
    exact ⟨rfl, named⟩
  · rintro ⟨rfl, named⟩
    exact ⟨ids, ⟨rfl, rfl⟩, named⟩

theorem shared_cons (fresh : new ∉ enrollments.map Prod.fst) {a b : String} :
    Shared ((new, ids) :: enrollments) a b ↔ (a ∈ ids ∧ b ∈ ids) ∨ Shared enrollments a b := by
  have absent (id : String) : ¬ Enrolled enrollments new id := by
    intro enrolled
    obtain ⟨ids, listed, -⟩ := (enrolled_iff once).mp enrolled
    exact fresh (List.mem_map_of_mem listed)
  simp only [Shared, enrolled_cons once fresh]
  constructor
  · rintro ⟨student, ⟨same, first⟩ | first, ⟨same', second⟩ | second⟩
    · exact .inl ⟨first, second⟩
    · exact absurd (same ▸ second) (absent b)
    · exact absurd (same' ▸ first) (absent a)
    · exact .inr ⟨student, first, second⟩
  · rintro (⟨first, second⟩ | ⟨student, first, second⟩)
    · exact ⟨new, .inl ⟨rfl, first⟩, .inl ⟨rfl, second⟩⟩
    · exact ⟨student, .inr first, .inr second⟩

end Enrollments

/-- Enrollments that come from others by putting the students in another order, by adding students
who take what a student takes already, and by adding students who take one section at most. -/
inductive Padded (known : List String) :
    List (String × List String) → List (String × List String) → Prop
  | reordered {first second : List (String × List String)} (same : first.Perm second) :
      Padded known first second
  | doubled {enrollments : List (String × List String)} {student : String} {ids : List String}
      (listed : (student, ids) ∈ enrollments) (double : String)
      (fresh : double ∉ enrollments.map Prod.fst) :
      Padded known enrollments ((double, ids) :: enrollments)
  | joined {enrollments : List (String × List String)} (student : String)
      (fresh : student ∉ enrollments.map Prod.fst) (ids : List String)
      (offered : ∀ id ∈ ids, id ∈ known) (single : ∀ a ∈ ids, ∀ b ∈ ids, a = b) :
      Padded known enrollments ((student, ids) :: enrollments)
  | trans {first second third : List (String × List String)} (earlier : Padded known first second)
      (later : Padded known second third) : Padded known first third

namespace Padded

variable {known : List String} {first second : List (String × List String)}

theorem once (padded : Padded known first second) (nodup : (first.map Prod.fst).Nodup) :
    (second.map Prod.fst).Nodup := by
  induction padded with
  | reordered same => exact (same.map _).nodup_iff.mp nodup
  | doubled _ _ fresh => exact List.nodup_cons.mpr ⟨fresh, nodup⟩
  | joined _ fresh => exact List.nodup_cons.mpr ⟨fresh, nodup⟩
  | trans _ _ ih₁ ih₂ => exact ih₂ (ih₁ nodup)

theorem known_of_enrolled (padded : Padded known first second)
    (nodup : (first.map Prod.fst).Nodup)
    (offered : ∀ student id, Enrolled first student id → id ∈ known) :
    ∀ student id, Enrolled second student id → id ∈ known := by
  induction padded with
  | reordered same =>
    intro student id enrolled
    exact offered student id ((enrolled_perm nodup same).mpr enrolled)
  | doubled listed double fresh =>
    intro student id enrolled
    rcases (enrolled_cons nodup fresh).mp enrolled with ⟨rfl, named⟩ | before
    · exact offered _ id ((enrolled_iff nodup).mpr ⟨_, listed, named⟩)
    · exact offered student id before
  | joined _ fresh ids named _ =>
    intro student id enrolled
    rcases (enrolled_cons nodup fresh).mp enrolled with ⟨rfl, attended⟩ | before
    · exact named id attended
    · exact offered student id before
  | trans earlier _ ih₁ ih₂ => exact ih₂ (earlier.once nodup) (ih₁ nodup offered)

/-- The students who are added bring no two sections together that were apart. -/
theorem shared_iff (padded : Padded known first second) (nodup : (first.map Prod.fst).Nodup)
    {a b : String} (different : a ≠ b) : Shared first a b ↔ Shared second a b := by
  induction padded with
  | reordered same =>
    apply exists_congr
    intro student
    exact and_congr (enrolled_perm nodup same) (enrolled_perm nodup same)
  | @doubled enrollments student ids listed double fresh =>
    rw [shared_cons nodup fresh]
    constructor
    · exact Or.inr
    · rintro (⟨first, second⟩ | before)
      · exact ⟨student, (enrolled_iff nodup).mpr ⟨ids, listed, first⟩,
          (enrolled_iff nodup).mpr ⟨ids, listed, second⟩⟩
      · exact before
  | joined _ fresh ids _ single =>
    rw [shared_cons nodup fresh]
    constructor
    · exact Or.inr
    · rintro (⟨first, second⟩ | before)
      · exact absurd (single a first b second) different
      · exact before
  | trans earlier _ ih₁ ih₂ => exact (ih₁ nodup).trans (ih₂ (earlier.once nodup))

end Padded

namespace Problem

variable {σ : Type} [RandomSource σ]

/-- Without a time budget the outcome of a solve depends on the students only through the pairs of
sections that share one: two accepted problems in which the same pairs do have the same outcome,
whenever they are solved. So the order of the students is of no account, and neither are students
who take the same sections as another one or take one section at most. -/
theorem solve_eq_of_shared (sections : List Section) (classrooms : List Classroom)
    (slots : List TimeSlot) (preferences enrollments : List (String × List String))
    (settings : Settings) (source : σ) (deadlines deadlines' : Deadlines)
    (accepted : (build sections classrooms slots preferences enrollments).fault? = none)
    (valid : settings.Valid) (unlimited : settings.timeBudget = none) :
    let outcome := fun students =>
      (build sections classrooms slots preferences students).solve settings source
    (∀ others, (build sections classrooms slots preferences others).fault? = none →
        (∀ a ∈ sections, ∀ b ∈ sections, a.id ≠ b.id →
          (Shared enrollments a.id b.id ↔ Shared others a.id b.id)) →
        outcome others deadlines' = outcome enrollments deadlines) ∧
      ∀ others, (enrollments.map Prod.fst).Nodup →
        Padded (sections.map Section.id) enrollments others →
          (build sections classrooms slots preferences others).fault? = none ∧
            outcome others deadlines' = outcome enrollments deadlines := by
  intro outcome
  have sound := fault?_eq_none_iff.mp accepted
  have indifferent : ∀ others,
      (build sections classrooms slots preferences others).Accepted →
        (∀ a ∈ sections, ∀ b ∈ sections, a.id ≠ b.id →
          (Shared enrollments a.id b.id ↔ Shared others a.id b.id)) →
        outcome others deadlines' = outcome enrollments deadlines := by
    intro others sound' same
    have once := nodup_students_build sections classrooms slots preferences
    have carries : Renaming.refl.Carries
        (build sections classrooms slots preferences enrollments)
        (build sections classrooms slots preferences others) := Renaming.carries_refl same
    have solved := carries.solve_eq sound sound' (once enrollments) (once others) settings valid
      unlimited source deadlines deadlines'
    rw [Renaming.map_timetable_refl] at solved
    exact solved
  constructor
  · intro others accepted' same
    exact indifferent others (fault?_eq_none_iff.mp accepted') same
  · intro others nodup padded
    have known := (enrolled_known_build_iff ..).mp sound.enrolled_known
    have sound' := sound.enroll (padded.known_of_enrolled nodup known)
    refine ⟨fault?_eq_none_iff.mpr sound', indifferent others sound' ?_⟩
    intro a _ b _ different
    exact padded.shared_iff nodup different

def couple (enrollments : List (String × List String)) : Problem :=
  build [⟨"algebra", "lecturer", 25, true⟩, ⟨"calculus", "teacher", 20, true⟩] [⟨"hall", 30, []⟩]
    [⟨"Monday", "09:00", "10:00"⟩, ⟨"Monday", "10:00", "11:00"⟩] [] enrollments

theorem solve_eq_of_shared_couple :
    let first := [("student", ["algebra", "calculus"])]
    let second := [("guest", ["calculus"]), ("friend", ["calculus", "algebra"])]
    (couple first).fault? = none ∧ Settings.Valid {} ∧ ({} : Settings).timeBudget = none ∧
      (couple second).fault? = none ∧
      (couple second).solve {} (MersenneTwister.ofSeed 1) .passed =
        (couple first).solve {} (MersenneTwister.ofSeed 1) .never := by
  intro first second
  have accepted : (couple first).fault? = none := by decide +kernel
  have accepted' : (couple second).fault? = none := by decide +kernel
  refine ⟨accepted, Settings.valid_default, rfl, accepted', ?_⟩
  have indifferent := solve_eq_of_shared _ _ _ _ _ {} (MersenneTwister.ofSeed 1) .never .passed
    accepted Settings.valid_default rfl
  refine indifferent.1 second accepted' ?_
  intro a firstSection b secondSection _
  -- Both sections are taken by the one student of the first list and by the friend of the second.
  have both : ∀ sec ∈ (couple first).sections,
      Enrolled first "student" sec.id ∧ Enrolled second "friend" sec.id := by
    intro sec listed
    refine ⟨⟨_, rfl, ?_⟩, ⟨_, rfl, ?_⟩⟩
    · revert sec
      decide
    · revert sec
      decide
  constructor
  · intro _
    exact ⟨"friend", (both a firstSection).2, (both b secondSection).2⟩
  · intro _
    exact ⟨"student", (both a firstSection).1, (both b secondSection).1⟩

end Problem

namespace Renaming

variable (ρ : Renaming)

def preferences (preferences : List (String × List String)) : List (String × List String) :=
  preferences.map (Prod.map ρ.instructor id)

def enrollments (enrollments : List (String × List String)) : List (String × List String) :=
  enrollments.map (Prod.map ρ.student (List.map ρ.sectionId))

variable {ρ} {given : List (String × List String)} {student id : String}

theorem enrolled_map_iff :
    Enrolled (ρ.enrollments given) (ρ.student student) (ρ.sectionId id) ↔
      Enrolled given student id := by
  unfold Enrolled enrollments
  rw [← List.map_reverse, Entries.get?_map ρ.student_injective]
  simp only [Option.map_eq_some_iff]
  constructor
  · rintro ⟨_, ⟨ids, listed, rfl⟩, named⟩
    exact ⟨ids, listed, (List.mem_map_of_injective ρ.sectionId_injective).mp named⟩
  · rintro ⟨ids, listed, named⟩
    exact ⟨_, ⟨ids, listed, rfl⟩, List.mem_map_of_mem named⟩

theorem exists_of_enrolled_map (enrolled : Enrolled (ρ.enrollments given) student id) :
    ∃ student' id', ρ.student student' = student ∧ ρ.sectionId id' = id ∧
      Enrolled given student' id' := by
  obtain ⟨ids, listed, named⟩ := enrolled
  obtain ⟨⟨student', ids'⟩, -, same⟩ := List.mem_map.mp
    (List.mem_reverse.mp (Entries.mem_of_get?_eq_some listed))
  obtain ⟨rfl, rfl⟩ := Prod.mk.inj same
  obtain ⟨id', -, rfl⟩ := List.mem_map.mp named
  exact ⟨student', id', rfl, rfl, enrolled_map_iff.mp ⟨_, listed, named⟩⟩

theorem shared_map_iff {a b : String} :
    Shared (ρ.enrollments given) (ρ.sectionId a) (ρ.sectionId b) ↔ Shared given a b := by
  constructor
  · rintro ⟨student, first, second⟩
    obtain ⟨student', _, rfl, -, -⟩ := exists_of_enrolled_map first
    exact ⟨student', enrolled_map_iff.mp first, enrolled_map_iff.mp second⟩
  · rintro ⟨student, first, second⟩
    exact ⟨ρ.student student, enrolled_map_iff.mpr first, enrolled_map_iff.mpr second⟩

variable (ρ)

theorem sectionIds_map (sections : List Section) :
    (sections.map ρ.sec).map Section.id = (sections.map Section.id).map ρ.sectionId := by
  rw [List.map_map, List.map_map]
  rfl

theorem classroomIds_map (classrooms : List Classroom) :
    (classrooms.map ρ.room).map Classroom.id =
      (classrooms.map Classroom.id).map ρ.classroomId := by
  rw [List.map_map, List.map_map]
  rfl

variable (sections : List Section) (classrooms : List Classroom) (slots : List TimeSlot)
  (preferences enrollments : List (String × List String))

theorem carries_build :
    ρ.Carries (.build sections classrooms slots preferences enrollments)
      (.build (sections.map ρ.sec) (classrooms.map ρ.room) slots (ρ.preferences preferences)
        (ρ.enrollments enrollments)) where
  sections_eq := rfl
  classrooms_eq := rfl
  slots_eq := rfl
  preferredKeys_eq instructor := by
    rw [Problem.preferredKeys_build, Problem.preferredKeys_build, Renaming.preferences,
      ← List.map_reverse, Entries.get?_map ρ.instructor_injective, Option.map_id, id_eq]
  shared_iff a _ b _ _ := by
    rw [Problem.shared_build_iff, Problem.shared_build_iff]
    exact shared_map_iff

variable {sections classrooms slots preferences enrollments}

theorem accepted_build
    (accepted : (Problem.build sections classrooms slots preferences enrollments).Accepted) :
    (Problem.build (sections.map ρ.sec) (classrooms.map ρ.room) slots (ρ.preferences preferences)
      (ρ.enrollments enrollments)).Accepted where
  classrooms_ne_nil := by
    intro noClassrooms
    exact accepted.classrooms_ne_nil (List.map_eq_nil_iff.mp noClassrooms)
  slots_ne_nil := by
    intro someSection
    exact accepted.slots_ne_nil fun noSection => someSection (List.map_eq_nil_iff.mpr noSection)
  section_capacity_pos := List.forall_mem_map.mpr accepted.section_capacity_pos
  classroom_capacity_pos := List.forall_mem_map.mpr accepted.classroom_capacity_pos
  sectionIds_nodup := by
    change ((sections.map ρ.sec).map Section.id).Nodup
    rw [sectionIds_map]
    exact accepted.sectionIds_nodup.map ρ.sectionId_injective
  classroomIds_nodup := by
    change ((classrooms.map ρ.room).map Classroom.id).Nodup
    rw [classroomIds_map]
    exact accepted.classroomIds_nodup.map ρ.classroomId_injective
  enrolled_known := by
    rw [Problem.enrolled_known_build_iff]
    intro student id enrolled
    obtain ⟨student', id', -, rfl, attends⟩ := exists_of_enrolled_map enrolled
    have known := (Problem.enrolled_known_build_iff ..).mp accepted.enrolled_known student' id'
      attends
    change _ ∈ (sections.map ρ.sec).map Section.id
    rw [sectionIds_map]
    exact List.mem_map_of_mem known

end Renaming

namespace Problem

variable {σ : Type} [RandomSource σ]

/-- Identifiers are opaque: where sections, classrooms, instructors and students are given new
names, the renamed problem is accepted as well, and without a time budget its solve has the renamed
outcome, whenever it is run. The assignments are renamed one by one; the statistics and every
failure stay as they are. -/
theorem solve_renamed (ρ : Renaming) (sections : List Section) (classrooms : List Classroom)
    (slots : List TimeSlot) (preferences enrollments : List (String × List String))
    (settings : Settings) (source : σ) (deadlines deadlines' : Deadlines)
    (accepted : (build sections classrooms slots preferences enrollments).fault? = none)
    (valid : settings.Valid) (unlimited : settings.timeBudget = none) :
    let p := build sections classrooms slots preferences enrollments
    let q := build (sections.map ρ.sec) (classrooms.map ρ.room) slots (ρ.preferences preferences)
      (ρ.enrollments enrollments)
    q.fault? = none ∧
      q.solve settings source deadlines' =
        (p.solve settings source deadlines).map ρ.timetable := by
  intro p q
  have sound := fault?_eq_none_iff.mp accepted
  have sound' := ρ.accepted_build sound
  have carries := ρ.carries_build sections classrooms slots preferences enrollments
  refine ⟨fault?_eq_none_iff.mpr sound', ?_⟩
  apply carries.solve_eq sound sound' _ _ settings valid unlimited
  · exact nodup_students_build sections classrooms slots preferences enrollments
  · exact nodup_students_build _ _ _ _ _

/-- The first lecture, its instructor and its student all get the name of the hall. -/
def namesake : Renaming where
  sectionId := Equiv.swap "algebra" "hall"
  classroomId := id
  instructor := Equiv.swap "ada" "hall"
  student := Equiv.swap "zoe" "hall"
  sectionId_injective := (Equiv.swap _ _).injective
  classroomId_injective := Function.injective_id
  instructor_injective := (Equiv.swap _ _).injective
  student_injective := (Equiv.swap _ _).injective

theorem solve_renamed_morning :
    let q := build
      [⟨"hall", "hall", 20, true⟩, ⟨"logic", "hall", 20, true⟩, ⟨"seminar", "emmy", 8, true⟩]
      morning.classrooms morning.slots [("hall", ["Monday_10:00_11:00"])]
      [("hall", ["hall", "seminar"])]
    let outcome := q.solve .brief MersenneTwister.multiples .passed
    morning.fault? = none ∧ Settings.brief.Valid ∧ Settings.brief.timeBudget = none ∧
      q.fault? = none ∧
      outcome = (morning.solve .brief MersenneTwister.multiples .never).map namesake.timetable ∧
      outcome.toOption.map (fun t => (t.statistics.method, t.assignments)) =
        some (.genetic,
          [⟨"hall", "hall", ⟨"Monday", "10:00", "11:00"⟩⟩,
            ⟨"logic", "hall", ⟨"Monday", "11:00", "12:00"⟩⟩,
            ⟨"seminar", "attic", ⟨"Monday", "09:00", "10:00"⟩⟩]) := by
  intro q outcome
  have accepted : morning.fault? = none := by decide +kernel
  obtain ⟨accepted', renamed⟩ := solve_renamed namesake _ _ _ _ _ .brief MersenneTwister.multiples
    .never .passed accepted Settings.valid_brief rfl
  exact ⟨accepted, Settings.valid_brief, rfl, accepted', renamed, by decide +kernel⟩

end Problem

end Timetabling
