import Timetabling.Problem.Validity
import Timetabling.Proofs.Enrollment

/-!
# Accepted problems

`Problem.Accepted` spells out what a problem without a fault satisfies. In such a problem an
identifier stands for one section or one classroom, so an assignment can be traced back to the
lesson it announces.
-/

namespace Timetabling

/-- Searching from the end finds the only item with a given key. -/
theorem find?_reverse_eq_some_iff {α κ : Type} [DecidableEq κ] {key : α → κ} {items : List α}
    {item : α} {k : κ} (nodup : (items.map key).Nodup) :
    (items.reverse.find? fun other => key other == k) = some item ↔
      item ∈ items ∧ key item = k := by
  constructor
  · intro found
    have known : item ∈ items := List.mem_reverse.mp (List.mem_of_find?_eq_some found)
    exact ⟨known, by simpa using List.find?_some found⟩
  · rintro ⟨membership, rfl⟩
    cases found : items.reverse.find? fun other => key other == key item with
    | none =>
      have different := List.find?_eq_none.mp found item (List.mem_reverse.mpr membership)
      simp at different
    | some other =>
      have sameKey : key other = key item := by simpa using List.find?_some found
      have known : other ∈ items := List.mem_reverse.mp (List.mem_of_find?_eq_some found)
      rw [List.inj_on_of_nodup_map nodup known membership sameKey]

namespace Problem

structure Accepted (p : Problem) : Prop where
  classrooms_ne_nil : p.classrooms ≠ []
  slots_ne_nil : p.sections ≠ [] → p.slots ≠ []
  section_capacity_pos : ∀ sec ∈ p.sections, 0 < sec.capacity
  classroom_capacity_pos : ∀ room ∈ p.classrooms, 0 < room.capacity
  sectionIds_nodup : p.sectionIds.Nodup
  classroomIds_nodup : p.classroomIds.Nodup
  enrolled_known : ∀ entry ∈ p.enrollments, ∀ id ∈ entry.2, id ∈ p.sectionIds

theorem mem_unknownIds {known : List String} {enrollments : List (String × List String)}
    {id : String} :
    id ∈ unknownIds known enrollments ↔ (∃ entry ∈ enrollments, id ∈ entry.2) ∧ id ∉ known := by
  simp [unknownIds, Text.sortedSet, Text.sorted, stableSort_eq_mergeSort, List.mem_eraseDups]

theorem ite_fault_eq_none {broken : Prop} [Decidable broken] {fault : ProblemFault}
    {rest : Option ProblemFault} :
    (if broken then some fault else rest) = none ↔ ¬ broken ∧ rest = none := by
  by_cases holds : broken <;> simp [holds]

variable {p : Problem}

theorem unknownSections_eq_nil_iff :
    p.unknownSections = [] ↔ ∀ entry ∈ p.enrollments, ∀ id ∈ entry.2, id ∈ p.sectionIds := by
  rw [List.eq_nil_iff_forall_not_mem]
  simp only [unknownSections, mem_unknownIds, not_and, not_not]
  constructor
  · intro known entry membership id named
    exact known id ⟨entry, membership, named⟩
  · rintro known id ⟨entry, membership, named⟩
    exact known entry membership id named

theorem fault?_eq_none_iff : p.fault? = none ↔ p.Accepted := by
  simp only [fault?, ite_fault_eq_none, Bool.and_eq_true, Bool.not_eq_true', List.isEmpty_iff,
    List.isEmpty_eq_false_iff, not_and, not_not, and_true, ne_eq, emptySections, emptyClassrooms,
    List.filter_eq_nil_iff, decide_eq_true_eq, not_le, unknownSections_eq_nil_iff]
  constructor
  · rintro ⟨classrooms, slots, sectionCapacity, classroomCapacity, sections, rooms, enrolled⟩
    exact ⟨classrooms, slots, sectionCapacity, classroomCapacity, sections, rooms, enrolled⟩
  · intro accepted
    exact ⟨accepted.classrooms_ne_nil, accepted.slots_ne_nil, accepted.section_capacity_pos,
      accepted.classroom_capacity_pos, accepted.sectionIds_nodup, accepted.classroomIds_nodup,
      accepted.enrolled_known⟩

/-- The lesson announced by an assignment of a known section to a known classroom. -/
def lesson? (p : Problem) (a : Assignment) : Option Lesson :=
  (p.section? a.sectionId).bind fun sec =>
    (p.classroom? a.classroomId).map fun room => ⟨p.session sec, ⟨room, a.slot⟩⟩

theorem section?_eq_some_iff (nodup : p.sectionIds.Nodup) {id : String} {sec : Section} :
    p.section? id = some sec ↔ sec ∈ p.sections ∧ sec.id = id :=
  find?_reverse_eq_some_iff nodup

theorem classroom?_eq_some_iff (nodup : p.classroomIds.Nodup) {id : String} {room : Classroom} :
    p.classroom? id = some room ↔ room ∈ p.classrooms ∧ room.id = id :=
  find?_reverse_eq_some_iff nodup

theorem lesson?_eq_some_iff {a : Assignment} {l : Lesson} :
    p.lesson? a = some l ↔ ∃ sec room, p.section? a.sectionId = some sec ∧
      p.classroom? a.classroomId = some room ∧ ⟨p.session sec, ⟨room, a.slot⟩⟩ = l := by
  simp only [lesson?, Option.bind_eq_some_iff, Option.map_eq_some_iff, exists_and_left]

/-- The assignment of a lesson of a known session in a known classroom announces this lesson and no
other. -/
theorem Accepted.lesson?_assignment (accepted : p.Accepted) {l : Lesson}
    (known : l.session ∈ p.sessions) (located : l.placement.classroom ∈ p.classrooms) :
    p.lesson? l.assignment = some l := by
  obtain ⟨session, placement⟩ := l
  obtain ⟨sec, membership, rfl⟩ := List.mem_map.mp known
  refine lesson?_eq_some_iff.mpr ⟨sec, placement.classroom, ?_, ?_, rfl⟩
  · exact (section?_eq_some_iff accepted.sectionIds_nodup).mpr ⟨membership, rfl⟩
  · exact (classroom?_eq_some_iff accepted.classroomIds_nodup).mpr ⟨located, rfl⟩

theorem nodup_students_of_lesson? {a : Assignment} {l : Lesson} (announced : p.lesson? a = some l)
    (once : ∀ sectionId, (p.studentsOf sectionId).Nodup) : l.session.students.Nodup := by
  obtain ⟨sec, room, -, -, rfl⟩ := lesson?_eq_some_iff.mp announced
  exact once sec.id

end Problem

end Timetabling
