import Mathlib.Algebra.GroupWithZero.Nat
import Timetabling.Problem.Statistics
import Timetabling.Proofs.Additions
import Timetabling.Proofs.Agreement

/-!
# What the statistics count

The sections that a list of assignments names, those that it leaves out, the rows for the listed
classrooms and the slot keys at which reservations hold a classroom are counted in different ways.
For known rows the counts fit together, and where an audit finds nothing no two rows use a classroom
at one slot key, so the mean number of rows is the mean number of slots in use.
-/

namespace Timetabling

/-- The slot keys at which assignments use a classroom. -/
def Assignment.keysIn (assignments : List Assignment) (classroomId : String) : Finset String :=
  ((assignments.filter fun a => a.classroomId == classroomId).map slotKey).toFinset

theorem length_classroomUses_cons (classrooms : List Classroom) (a : Assignment)
    (assignments : List Assignment) :
    (classroomUses classrooms (a :: assignments)).length =
      (classroomUses classrooms assignments).length +
        (classrooms.map Classroom.id).count a.classroomId := by
  induction classrooms with
  | nil => rfl
  | cons room rest ih =>
    simp only [classroomUses, List.flatMap_cons, List.length_append, List.map_cons] at ih ⊢
    rw [ih, List.filter_cons, List.count_cons, BEq.comm (a := room.id)]
    split
    next => rw [List.length_cons]; omega
    next => omega

theorem length_classroomUses {classrooms : List Classroom}
    (nodup : (classrooms.map Classroom.id).Nodup) {assignments : List Assignment}
    (known : ∀ a ∈ assignments, a.classroomId ∈ classrooms.map Classroom.id) :
    (classroomUses classrooms assignments).length = assignments.length := by
  induction assignments with
  | nil => simp [classroomUses]
  | cons a rest ih =>
    obtain ⟨here, later⟩ := List.forall_mem_cons.mp known
    rw [length_classroomUses_cons, ih later, List.count_eq_one_of_mem nodup here, List.length_cons]

theorem averageUsage_eq {classrooms : List Classroom} (someRoom : classrooms ≠ [])
    (nodup : (classrooms.map Classroom.id).Nodup) {assignments : List Assignment}
    (known : ∀ a ∈ assignments, a.classroomId ∈ classrooms.map Classroom.id) :
    averageUsage classrooms assignments =
      .ofRatio false assignments.length classrooms.length := by
  rw [averageUsage, if_neg (by simpa using someRoom), length_classroomUses nodup known]

namespace Lesson

/-- Lessons that do not clash use a classroom at as many slot keys as there are of them in it. -/
theorem card_keysIn {lessons : List Lesson} (apart : Apart lessons) (classroomId : String) :
    (keysIn lessons classroomId).card =
      (lessons.filter fun l => l.placement.classroom.id == classroomId).length := by
  have nodup : ((lessons.filter fun l => l.placement.classroom.id == classroomId).map
      slotKey).Nodup := by
    rw [List.Nodup, List.pairwise_map]
    apply (List.Pairwise.sublist List.filter_sublist apart).imp_of_mem
    intro a b first second separate sameKey
    have room := beq_iff_eq.mp (List.mem_filter.mp first).2
    have room' := beq_iff_eq.mp (List.mem_filter.mp second).2
    exact separate ⟨sameKey, .inr (.inl (room.trans room'.symm))⟩
  rw [keysIn, List.toFinset_card_of_nodup nodup, List.length_map]

end Lesson

namespace Problem

variable {p : Problem} {assignments : List Assignment}

theorem knows_iff {a : Assignment} :
    p.knows a = true ↔ a.sectionId ∈ p.sectionIds ∧ a.classroomId ∈ p.classroomIds := by
  simp [knows, section?, classroom?, sectionIds, classroomIds]

theorem length_named_add_unassigned (nodup : p.sectionIds.Nodup)
    (known : ∀ a ∈ assignments, a.sectionId ∈ p.sectionIds) :
    (assignments.map Assignment.sectionId).eraseDups.length + (p.unassigned assignments).length =
      p.sections.length := by
  have named : (assignments.map Assignment.sectionId).eraseDups.Perm
      ((p.sections.filter fun sec =>
        (assignments.map Assignment.sectionId).contains sec.id).map Section.id) := by
    rw [List.perm_ext_iff_of_nodup (nodup_eraseDups _)
      (nodup.sublist (List.filter_sublist.map Section.id))]
    intro id
    rw [List.mem_eraseDups]
    constructor
    · intro listed
      obtain ⟨a, membership, rfl⟩ := List.mem_map.mp listed
      obtain ⟨sec, found, same⟩ := List.mem_map.mp (known a membership)
      refine List.mem_map.mpr ⟨sec, List.mem_filter.mpr ⟨found, ?_⟩, same⟩
      rw [same]
      exact List.contains_iff_mem.mpr listed
    · intro kept
      obtain ⟨sec, passed, rfl⟩ := List.mem_map.mp kept
      exact List.contains_iff_mem.mp (List.mem_filter.mp passed).2
  rw [named.length_eq, List.length_map, unassigned]
  exact (List.length_eq_length_filter_add _).symm

section Known

variable (known : ∀ a ∈ assignments, p.knows a = true)

include known

theorem forall₂_classroom (classroomId : String) :
    List.Forall₂ (fun a l => p.lesson? a = some l)
      (assignments.filter fun a => a.classroomId == classroomId)
      ((assignments.filterMap p.lesson?).filter fun l =>
        l.placement.classroom.id == classroomId) := by
  have rows := forall₂_lessons (p := p) assignments
  rw [List.filter_eq_self.mpr known] at rows
  apply List.rel_filter _ rows
  intro a l announced
  obtain ⟨sec, room, -, located, rfl⟩ := lesson?_eq_some_iff.mp announced
  simp only [id_of_classroom? located]

theorem usage_reservations (classroomId : String) :
    (p.reservations assignments).usage ⟨.classroom, classroomId⟩ =
      (Assignment.keysIn assignments classroomId).card := by
  have keys := map_eq_of_forall₂ (forall₂_classroom known classroomId) fun _ _ announced =>
    (slotKey_of_lesson? announced).symm
  rw [(books_reservations known).usage_classroom, Lesson.keysIn, Assignment.keysIn, keys]

/-- Where an audit finds nothing, a classroom is used at as many slot keys as there are assignments
to it. -/
theorem usage_of_clean (once : ∀ sectionId, (p.studentsOf sectionId).Nodup)
    (clean : p.violations assignments = []) (classroomId : String) :
    (p.reservations assignments).usage ⟨.classroom, classroomId⟩ =
      (assignments.filter fun a => a.classroomId == classroomId).length := by
  rw [violations_of_known once known, Lesson.violationsAfter_eq_nil_iff] at clean
  have apart : Lesson.Apart (assignments.filterMap p.lesson?) :=
    clean.2.2.imp fun separate => separate.2
  rw [(books_reservations known).usage_classroom, Lesson.card_keysIn apart,
    (forall₂_classroom known classroomId).length_eq]

end Known

/-- What is reported about a list of known rows agrees with what is left out and with the
reservations of the rows. -/
theorem statistics_agree (sections : List Section) (classrooms : List Classroom)
    (slots : List TimeSlot) (preferences enrollments : List (String × List String))
    (assignments : List Assignment) (method : Method) :
    let p := build sections classrooms slots preferences enrollments
    let statistics := p.statistics assignments method
    let usage := fun room : Classroom => (p.reservations assignments).usage ⟨.classroom, room.id⟩
    p.classrooms ≠ [] → p.sectionIds.Nodup → p.classroomIds.Nodup →
      (∀ a ∈ assignments, a.sectionId ∈ p.sectionIds ∧ a.classroomId ∈ p.classroomIds) →
      statistics.total = sections.length ∧
      (statistics.assigned : Int) + statistics.unassigned = statistics.total ∧
      statistics.unassigned = (p.unassigned assignments).length ∧ 0 ≤ statistics.unassigned ∧
      statistics.usage = .ofRatio false assignments.length classrooms.length ∧
      (∀ room, usage room = (Assignment.keysIn assignments room.id).card) ∧
      (p.violations assignments = [] → (classrooms.map usage).sum = assignments.length) := by
  intro p statistics usage someRoom sectionIds classroomIds named
  have once : ∀ sectionId, (p.studentsOf sectionId).Nodup := by
    intro sectionId
    apply nodup_students_build
  have known : ∀ a ∈ assignments, p.knows a = true :=
    fun a listed => knows_iff.mpr (named a listed)
  have located : ∀ a ∈ assignments, a.classroomId ∈ p.classroomIds :=
    fun a listed => (named a listed).2
  have counted := length_named_add_unassigned sectionIds fun a listed => (named a listed).1
  have total : (statistics.assigned : Int) + statistics.unassigned = statistics.total := by
    change (statistics.assigned : Int) + (p.sections.length - statistics.assigned) =
      p.sections.length
    omega
  have unassigned : statistics.unassigned = (p.unassigned assignments).length := by
    change (p.sections.length : Int) - (assignments.map Assignment.sectionId).eraseDups.length = _
    omega
  refine ⟨rfl, total, unassigned, by omega, averageUsage_eq someRoom classroomIds located,
    fun room => usage_reservations known room.id, ?_⟩
  intro clean
  have uses : classrooms.map usage = classrooms.map fun room =>
      (assignments.filter fun a => a.classroomId == room.id).length :=
    List.map_congr_left fun room _ => usage_of_clean known once clean room.id
  have rows : (classroomUses classrooms assignments).length = assignments.length :=
    length_classroomUses classroomIds located
  rw [uses, ← rows, classroomUses, List.length_flatMap]

theorem statistics_agree_crowd :
    let annex : Classroom := ⟨"annex", 12, []⟩
    let tuesday : TimeSlot := ⟨"Tuesday", "09:00", "10:00"⟩
    let p := build crowd [hall, annex] [monday, tuesday] [] []
    let rows : List Assignment :=
      [⟨"algebra", "hall", monday⟩, ⟨"logic", "hall", tuesday⟩, ⟨"sets", "annex", monday⟩]
    p.violations rows = [] ∧ (p.statistics rows .genetic).unassigned = 1 ∧
      (p.statistics rows .genetic).usage = .ofRatio false 3 2 ∧
      ([hall, annex].map fun room =>
        (p.reservations rows).usage ⟨.classroom, room.id⟩).sum = 3 := by
  intro annex tuesday p rows
  have clean : p.violations rows = [] := by decide +kernel
  have named : ∀ a ∈ rows, a.sectionId ∈ p.sectionIds ∧ a.classroomId ∈ p.classroomIds := by
    decide +kernel
  obtain ⟨-, -, unassigned, -, mean, -, uses⟩ :=
    statistics_agree crowd [hall, annex] [monday, tuesday] [] [] rows .genetic (by decide)
      (by decide) (by decide) named
  refine ⟨clean, ?_, mean, uses clean⟩
  rw [unassigned]
  decide +kernel

end Problem

end Timetabling
