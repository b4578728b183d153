import Timetabling.Proofs.Auditing

/-!
# The findings of an audit, row by row

What an audit reports about a row depends on the earlier rows alone, and among these only on the
ones that were known. `Problem.findings` says so with no account of what the audit keeps. The audit
of any list of rows is the concatenation of their findings.
-/

namespace Timetabling

namespace Problem

/-- Whether an assignment puts a section of the problem into a classroom of the problem. -/
def knows (p : Problem) (a : Assignment) : Bool :=
  (p.section? a.sectionId).isSome && (p.classroom? a.classroomId).isSome

def takesUp (p : Problem) (a : Assignment) : Resource → Bool
  | ⟨.instructor, id⟩ => (p.section? a.sectionId).any fun sec => sec.instructor == id
  | ⟨.classroom, id⟩ => a.classroomId == id
  | ⟨.student, id⟩ => (p.studentsOf a.sectionId).contains id

/-- One double booking for each earlier assignment that takes up the resource at the slot key of
this one. -/
def collisions (p : Problem) (before : List Assignment) (a : Assignment) (resource : Resource) :
    List Violation :=
  (before.filter fun e => p.takesUp e resource && e.slotKey == a.slotKey).map fun e =>
    .doubleBooking resource e.sectionId a.sectionId a.slotKey

/-- What is to be reported about an assignment that follows others, all of them known. -/
def findings (p : Problem) (before : List Assignment) (a : Assignment) : List Violation :=
  match p.section? a.sectionId, p.classroom? a.classroomId with
  | none, _ => [.unknownSection a.sectionId a.slotKey]
  | some _, none => [.unknownClassroom a.sectionId a.classroomId a.slotKey]
  | some sec, some room =>
    (if before.any fun e => e.sectionId == a.sectionId then
      [.repeatedSection a.sectionId a.slotKey] else []) ++
    (if room.capacity < sec.capacity then [.smallClassroom sec room a.slotKey] else []) ++
    p.collisions before a ⟨.instructor, sec.instructor⟩ ++
    p.collisions before a ⟨.classroom, a.classroomId⟩ ++
    (p.studentsOf a.sectionId).flatMap fun student => p.collisions before a ⟨.student, student⟩

variable {p : Problem}

theorem id_of_section? {id : String} {sec : Section} (found : p.section? id = some sec) :
    sec.id = id := by
  simpa using List.find?_some found

theorem id_of_classroom? {id : String} {room : Classroom} (found : p.classroom? id = some room) :
    room.id = id := by
  simpa using List.find?_some found

theorem isSome_lesson? (a : Assignment) : (p.lesson? a).isSome = p.knows a := by
  cases found : p.section? a.sectionId <;> simp [lesson?, knows, found]

theorem takesUp_of_lesson? {a : Assignment} {l : Lesson} (announced : p.lesson? a = some l)
    (resource : Resource) : p.takesUp a resource = l.resources.contains resource := by
  obtain ⟨sec, room, found, located, rfl⟩ := lesson?_eq_some_iff.mp announced
  apply Bool.eq_iff_iff.mpr
  rw [List.contains_iff_mem, Lesson.mem_resources]
  obtain ⟨kind, id⟩ := resource
  cases kind with
  | instructor => 
    simp only [takesUp, found, Option.any_some, beq_iff_eq, Resource.mk.injEq, true_and,
      reduceCtorEq, false_and, and_false, exists_false, or_false, session]
    exact eq_comm
  | classroom => 
    simp only [takesUp, beq_iff_eq, id_of_classroom? located, Resource.mk.injEq, true_and,
      reduceCtorEq, false_and, and_false, exists_false, or_false, false_or, session]
    exact eq_comm
  | student => simp [takesUp, session, id_of_section? found]

theorem sectionId_of_lesson? {a : Assignment} {l : Lesson} (announced : p.lesson? a = some l) :
    l.session.id = a.sectionId := by
  obtain ⟨sec, room, found, -, rfl⟩ := lesson?_eq_some_iff.mp announced
  exact id_of_section? found

theorem slotKey_of_lesson? {a : Assignment} {l : Lesson} (announced : p.lesson? a = some l) :
    l.slotKey = a.slotKey := by
  obtain ⟨sec, room, -, -, rfl⟩ := lesson?_eq_some_iff.mp announced
  rfl

theorem forall₂_lessons (before : List Assignment) :
    List.Forall₂ (fun e l => p.lesson? e = some l) (before.filter p.knows)
      (before.filterMap p.lesson?) := by
  induction before with
  | nil => exact .nil
  | cons e rest ih =>
    cases announced : p.lesson? e with
    | none =>
      have unknown : ¬ p.knows e = true := by simp [← isSome_lesson?, announced]
      rw [List.filterMap_cons_none announced, List.filter_cons_of_neg unknown]
      exact ih
    | some l =>
      have known : p.knows e = true := by simp [← isSome_lesson?, announced]
      rw [List.filterMap_cons_some announced, List.filter_cons_of_pos known]
      exact .cons announced ih

theorem map_eq_of_forall₂ {β : Type} {rows : List Assignment} {lessons : List Lesson}
    {f : Assignment → β} {g : Lesson → β}
    (announced : List.Forall₂ (fun e l => p.lesson? e = some l) rows lessons)
    (same : ∀ e l, p.lesson? e = some l → f e = g l) : rows.map f = lessons.map g := by
  rw [← List.forall₂_eq_eq_eq]
  exact List.rel_map (fun e l => same e l) announced

theorem sectionIds_lessons (before : List Assignment) :
    (before.filter p.knows).map Assignment.sectionId =
      (before.filterMap p.lesson?).map fun l => l.session.id := by
  apply map_eq_of_forall₂ (forall₂_lessons before)
  intro e l announced
  exact (sectionId_of_lesson? announced).symm

theorem holders_lessons (before : List Assignment) (resource : Resource) (key : String) :
    ((before.filter p.knows).filter fun e => p.takesUp e resource && e.slotKey == key).map
        Assignment.sectionId =
      Lesson.holders (before.filterMap p.lesson?) resource key := by
  apply map_eq_of_forall₂ (p := p)
  · apply List.rel_filter _ (forall₂_lessons before)
    intro e l announced
    change _ = true ↔ _ = true
    rw [takesUp_of_lesson? announced, slotKey_of_lesson? announced]
  · intro e l announced
    exact (sectionId_of_lesson? announced).symm

theorem map_holders {before : List Assignment} {a : Assignment} (resource : Resource) :
    ((Lesson.holders (before.filterMap p.lesson?) resource a.slotKey).map fun id =>
        Violation.doubleBooking resource id a.sectionId a.slotKey) =
      p.collisions (before.filter p.knows) a resource := by
  rw [← holders_lessons, List.map_map]
  rfl

theorem violations_of_lesson? {before : List Assignment} {a : Assignment} {l : Lesson}
    (announced : p.lesson? a = some l) :
    l.violations (before.filterMap p.lesson?) = p.findings (before.filter p.knows) a := by
  have repeated : ((before.filterMap p.lesson?).map fun e => e.session.id).contains a.sectionId =
      (before.filter p.knows).any fun e => e.sectionId == a.sectionId := by
    rw [← sectionIds_lessons, List.contains_eq_any_beq, List.any_map]
    simp only [Function.comp_def, BEq.comm]
  obtain ⟨sec, room, found, located, rfl⟩ := lesson?_eq_some_iff.mp announced
  simp only [Lesson.violations, slotKey_of_lesson? announced, findings, found, located]
  simp only [Lesson.resources, Reservations.occupied, session, id_of_section? found,
    id_of_classroom? located, repeated, map_holders, List.flatMap_cons, List.flatMap_map,
    List.append_assoc]

end Problem

namespace AuditState

variable {p : Problem} {s : AuditState} {before : List Assignment}

/-- One row of an audit: what is kept about the rows told so far, and what is reported. -/
theorem Records.check_findings (records : s.Records (before.filterMap p.lesson?))
    (once : ∀ sectionId, (p.studentsOf sectionId).Nodup) (a : Assignment) :
    (s.check p a).1.Records ((before ++ [a]).filterMap p.lesson?) ∧
      (s.check p a).2 = p.findings (before.filter p.knows) a := by
  rw [List.filterMap_append]
  cases announced : p.lesson? a with
  | some l =>
    have attended := Problem.nodup_students_of_lesson? announced once
    obtain ⟨kept, reported⟩ := records.check announced attended
    rw [List.filterMap_cons_some announced]
    exact ⟨kept, reported.trans (Problem.violations_of_lesson? announced)⟩
  | none =>
    rw [List.filterMap_cons_none announced, List.filterMap_nil, List.append_nil]
    unfold AuditState.check Problem.findings
    split
    next missing =>
      rw [missing]
      exact ⟨records, rfl⟩
    next sec found =>
      split
      next missing =>
        rw [found, missing, Problem.id_of_section? found]
        exact ⟨records, rfl⟩
      next room located =>
        simp [Problem.lesson?, found, located] at announced

/-- An audit that goes on reports the findings of each row against all the rows before it. -/
theorem Records.run_findings (records : s.Records (before.filterMap p.lesson?))
    (once : ∀ sectionId, (p.studentsOf sectionId).Nodup) (assignments : List Assignment) :
    s.run p assignments = (assignments.zipIdx before.length).flatMap fun (a, j) =>
      p.findings (((before ++ assignments).take j).filter p.knows) a := by
  induction assignments generalizing s before with
  | nil => rfl
  | cons a rest ih =>
    obtain ⟨kept, reported⟩ := records.check_findings once a
    have later := ih kept
    rw [List.length_append, List.length_singleton, List.append_assoc] at later
    rw [List.zipIdx_cons, List.flatMap_cons]
    change (s.check p a).2 ++ (s.check p a).1.run p rest =
      p.findings (((before ++ a :: rest).take before.length).filter p.knows) a ++ _
    rw [List.take_left, reported, later, List.singleton_append]

end AuditState

namespace Problem

/-- An audit reports the findings of its rows one after another, each against the known ones among
the rows before it; no student is named twice for one section. -/
theorem violations_eq_flatMap_findings (sections : List Section) (classrooms : List Classroom)
    (slots : List TimeSlot) (preferences enrollments : List (String × List String))
    (assignments : List Assignment) :
    let p := build sections classrooms slots preferences enrollments
    (p.violations assignments = assignments.zipIdx.flatMap fun (a, j) =>
      p.findings ((assignments.take j).filter p.knows) a) ∧
    ∀ sectionId, (p.studentsOf sectionId).Nodup := by
  intro p
  have once : ∀ sectionId, (p.studentsOf sectionId).Nodup := by
    intro sectionId
    apply nodup_students_build
  have empty : AuditState.Records {} (([] : List Assignment).filterMap p.lesson?) :=
    AuditState.records_empty
  exact ⟨empty.run_findings once assignments, once⟩

end Problem

end Timetabling
