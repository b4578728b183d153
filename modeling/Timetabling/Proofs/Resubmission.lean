import Timetabling.Proofs.Generation
import Timetabling.Proofs.Outcome
import Timetabling.Proofs.Routing
import Timetabling.Proofs.Verdict

/-!
# A timetable that is sent back

What is answered to a request for a timetable can be sent back for an audit, with its rows under the
names that requests use. It is accepted and found to be in order, whichever search has made it.
-/

namespace Timetabling

/-- The name that requests have for an entry of an answered row. -/
def rowName : String → String
  | "sectionId" => "section_id"
  | "classroomId" => "classroom_id"
  | "dayOfWeek" => "day_of_week"
  | "startTime" => "start_time"
  | "endTime" => "end_time"
  | name => name

def renamedRow : Value → Value
  | .record entries => .record (entries.map fun (name, v) => (rowName name, v))
  | v => v

def renamedRows (answered : List (String × Value)) : Value :=
  match Entries.get? "assignments" answered with
  | some (.list rows) => .list (rows.map renamedRow)
  | _ => .null

/-- What a request for a timetable and a request for an audit have in common. -/
def isShared (name : String) : Bool :=
  ["sections", "classrooms", "student_enrollments"].contains name

/-- The request to audit an answered timetable, with what it was made from. -/
def resubmission (body answer : Value) : Value :=
  match body, answer with
  | .record given, .record answered =>
    .record (given.filter (fun entry => isShared entry.1) ++
      [("assignments", renamedRows answered)])
  | _, _ => .null

theorem renamedRow_assignment (a : Assignment) : renamedRow (Answer.assignment a) = a.toValue :=
  rfl

theorem resubmission_timetable (given : List (String × Value)) (t : Timetable) (s : Settings) :
    resubmission (.record given) (Answer.timetable t s) =
      .record (given.filter (fun entry => isShared entry.1) ++
        [("assignments", .list (t.assignments.map Assignment.toValue))]) := by
  have rows : renamedRows [("assignments", .list (t.assignments.map Answer.assignment)),
      ("stats", Answer.statistics t.statistics), ("settings_used", Answer.settings s)] =
      .list (t.assignments.map Assignment.toValue) := by
    change Value.list ((t.assignments.map Answer.assignment).map renamedRow) = _
    rw [List.map_map]
    exact congrArg Value.list (List.map_congr_left fun a _ => renamedRow_assignment a)
  rw [← rows]
  rfl

theorem get?_shared {given : List (String × Value)} {name : String} {rows : Value}
    (shared : isShared name = true) :
    Entries.get? name (given.filter (fun entry => isShared entry.1) ++ [("assignments", rows)]) =
      Entries.get? name given := by
  have other : Entries.get? name [("assignments", rows)] = none := by
    have different : "assignments" ≠ name := by
      rintro rfl
      exact absurd shared (by decide)
    simp [Entries.get?, different]
  rw [Entries.get?_append, Entries.get?_filter_key, if_pos shared, other, Option.or_none]

theorem get?_rows {given : List (String × Value)} {rows : Value} :
    Entries.get? "assignments"
      (given.filter (fun entry => isShared entry.1) ++ [("assignments", rows)]) = some rows := by
  rw [Entries.get?_append, Entries.get?_filter_key, if_neg (by decide)]
  rfl

namespace GenerateRequest

variable {body : Value} {r : GenerateRequest}

theorem readable_of_isSchedule (accepted : ofValue body = .valid r) {lessons : List Lesson}
    (schedule : r.problem.IsSchedule lessons) :
    ∀ l ∈ lessons, Assignment.ofValue l.assignment.toValue = .valid l.assignment := by
  obtain ⟨given, -, parts, -⟩ := ofValue_eq_valid_iff.mp accepted
  obtain ⟨sections, classrooms, slots, -⟩ := ofEntries_eq_valid_iff.mp parts
  obtain ⟨_, -, sections⟩ := Reader.field_eq_valid_iff.mp sections
  obtain ⟨_, -, classrooms⟩ := Reader.field_eq_valid_iff.mp classrooms
  obtain ⟨_, -, slots⟩ := Reader.field_eq_valid_iff.mp slots
  intro l membership
  refine Assignment.ofValue_toValue ?known ?located ?slot
  case known =>
    obtain ⟨sec, listed, same⟩ := List.mem_map.mp (schedule.known membership)
    obtain ⟨u, read⟩ := Reader.exists_reading_of_mem sections listed
    obtain ⟨entries, -, id, -⟩ := Section.ofValue_eq_valid_iff.mp read
    change IsIdentifier l.session.id
    rw [← same]
    exact Reader.isIdentifier_of_field id
  case located =>
    have listed := (schedule.offered l membership).classroom_mem
    obtain ⟨u, read⟩ := Reader.exists_reading_of_mem
      (Reader.listUpTo_of_nonemptyUpTo classrooms) listed
    obtain ⟨entries, -, id, -⟩ := Classroom.ofValue_eq_valid_iff.mp read
    exact Reader.isIdentifier_of_field id
  case slot =>
    have listed : l.placement.slot ∈ r.slots :=
      List.mem_eraseDups.mp (schedule.offered l membership).slot_mem
    obtain ⟨u, read⟩ := Reader.exists_reading_of_mem
      (Reader.listUpTo_of_nonemptyUpTo slots) listed
    exact TimeSlot.canonical_of_ofValue read

theorem length_le_of_isSchedule (accepted : ofValue body = .valid r) {lessons : List Lesson}
    (schedule : r.problem.IsSchedule lessons) : lessons.length ≤ 2000 := by
  rw [schedule.length_eq]
  exact length_sections_le accepted

theorem ofValue_resubmission (accepted : ofValue body = .valid r) {lessons : List Lesson}
    (schedule : r.problem.IsSchedule lessons) {t : Timetable}
    (assignments : t.assignments = lessons.map Lesson.assignment) (s : Settings) :
    ValidateRequest.ofValue (resubmission body (Answer.timetable t s)) =
      .valid ⟨r.sections, r.classrooms, r.enrollments, t.assignments⟩ := by
  have readable : ∀ a ∈ t.assignments, Assignment.ofValue a.toValue = .valid a := by
    rw [assignments]
    exact List.forall_mem_map.mpr (readable_of_isSchedule accepted schedule)
  have few : t.assignments.length ≤ 5000 := by
    have sections := length_le_of_isSchedule accepted schedule
    rw [assignments, List.length_map]
    omega
  obtain ⟨given, rfl, parts, sectionIds, classroomIds, -⟩ := ofValue_eq_valid_iff.mp accepted
  obtain ⟨sections, classrooms, -, -, enrollments, -⟩ := ofEntries_eq_valid_iff.mp parts
  rw [resubmission_timetable]
  refine ValidateRequest.ofValue_eq_valid_iff.mpr ⟨_, rfl,
    ValidateRequest.ofEntries_eq_valid_iff.mpr ⟨?sections, ?classrooms, ?enrollments, ?rows⟩,
    sectionIds, classroomIds⟩
  case sections =>
    obtain ⟨v, found, read⟩ := Reader.field_eq_valid_iff.mp sections
    exact Reader.field_eq_valid_iff.mpr ⟨v, (get?_shared rfl).trans found, read⟩
  case classrooms =>
    obtain ⟨v, found, read⟩ := Reader.field_eq_valid_iff.mp classrooms
    exact Reader.field_eq_valid_iff.mpr
      ⟨v, (get?_shared rfl).trans found, Reader.listUpTo_of_nonemptyUpTo read⟩
  case enrollments =>
    rw [Reader.fieldOr_eq_valid_iff] at enrollments ⊢
    rw [get?_shared rfl]
    exact enrollments
  case rows =>
    refine Reader.field_eq_valid_iff.mpr ⟨_, get?_rows, Reader.listUpTo_eq_valid_iff.mpr
      ⟨_, rfl, ?_, ?_⟩⟩
    · rw [List.length_map]
      exact few
    · rw [List.forall₂_map_left_iff, List.forall₂_same]
      exact readable

end GenerateRequest

theorem isFinite_resubmission {given : List (String × Value)}
    (finite : (Value.record given).isFinite = true) (t : Timetable) (s : Settings) :
    (resubmission (.record given) (Answer.timetable t s)).isFinite = true := by
  rw [resubmission_timetable]
  simp only [Value.isFinite, Value.haveFinite_iff, List.forall_mem_append,
    List.forall_mem_singleton, Value.areFinite_iff, List.forall_mem_map] at finite ⊢
  constructor
  · intro entry kept
    exact finite entry (List.mem_of_mem_filter kept)
  · intro a _
    rfl

namespace Problem

variable (sections : List Section) (classrooms : List Classroom) (slots : List TimeSlot)
  (preferences enrollments : List (String × List String)) (assignments : List Assignment)

/-- Neither slots nor preferences matter to an audit. -/
theorem run_build (state : AuditState) :
    state.run (build sections classrooms slots preferences enrollments) assignments =
      state.run (build sections classrooms [] [] enrollments) assignments := by
  induction assignments generalizing state with
  | nil => rfl
  | cons a rest ih => exact congrArg _ (ih _)

theorem violations_build :
    (build sections classrooms slots preferences enrollments).violations assignments =
      (build sections classrooms [] [] enrollments).violations assignments :=
  run_build sections classrooms slots preferences enrollments assignments {}

theorem unassigned_build :
    (build sections classrooms slots preferences enrollments).unassigned assignments =
      (build sections classrooms [] [] enrollments).unassigned assignments :=
  rfl

end Problem

namespace Service

/-- A timetable that has been answered is found to be in order when it is sent back. -/
theorem respond_resubmission (host other : Host) {body answer : Value}
    (generated : respond host ⟨"POST", Operation.generate.path, some body⟩ =
      .ok ⟨201, answer⟩) :
    respond other ⟨"POST", Operation.validate.path, some (resubmission body answer)⟩ =
      .ok ⟨200, .record [("valid", .bool true), ("violations", .list []),
        ("unassigned_section_ids", .list [])]⟩ := by
  have reached := respond_operation host .generate (some body)
  rw [Option.all_some] at reached
  cases finite : body.isFinite with
  | false =>
    rw [finite] at reached
    cases reached.symm.trans generated
  | true =>
    rw [finite, if_pos rfl] at reached
    obtain ⟨r, s, t, accepted, valid, solved, rfl⟩ :=
      exists_solve_of_perform (reached.symm.trans generated)
    have once : ∀ sectionId, (r.problem.studentsOf sectionId).Nodup :=
      Problem.nodup_students_build r.sections r.classrooms r.slots _ r.enrollments
    obtain ⟨sound, lessons, schedule, assignments⟩ :=
      Problem.exists_schedule_of_solve once valid solved
    have read := GenerateRequest.ofValue_resubmission accepted schedule assignments s
    have clean := schedule.violations_eq_nil sound once
    have complete := schedule.unassigned_eq_nil
    rw [← assignments, GenerateRequest.problem, Problem.violations_build] at clean
    rw [← assignments, GenerateRequest.problem, Problem.unassigned_build] at complete
    have sent := respond_operation other .validate
      (some (resubmission body (Answer.timetable t s)))
    obtain ⟨given, rfl, -⟩ := GenerateRequest.ofValue_eq_valid_iff.mp accepted
    rw [Option.all_some, isFinite_resubmission finite, if_pos rfl, perform_validate other read,
      validate, ValidateRequest.problem, clean, complete] at sent
    exact sent

def lecturesBody : Value :=
  .record [
    ("sections", .list [
      .record [("id", .text "calculus"), ("instructor_id", .text "ada"), ("capacity", .int 20)],
      .record [("id", .text "algebra"), ("instructor_id", .text "ada"), ("capacity", .int 30)]]),
    ("classrooms", .list [.record [("id", .text "hall"), ("capacity", .int 30)]]),
    ("time_slots", .list [
      .record [("day_of_week", .text "mon"), ("start_time", .text "09:00"),
        ("end_time", .text "10:00")],
      .record [("day_of_week", .text "TUESDAY"), ("start_time", .text "09:00"),
        ("end_time", .text "10:00")]]),
    ("student_enrollments", .record [("emmy", .list [.text "calculus", .text "algebra"])]),
    ("settings_override", .record [])]

def lectures : GenerateRequest where
  sections := [⟨"calculus", "ada", 20, false⟩, ⟨"algebra", "ada", 30, false⟩]
  classrooms := [⟨"hall", 30, []⟩]
  slots := [⟨"Monday", "09:00", "10:00"⟩, ⟨"Tuesday", "09:00", "10:00"⟩]
  enrollments := [("emmy", ["calculus", "algebra"])]
  settings := some {}

def lecturesTimetable : Timetable where
  assignments := [⟨"algebra", "hall", ⟨"Monday", "09:00", "10:00"⟩⟩,
    ⟨"calculus", "hall", ⟨"Tuesday", "09:00", "10:00"⟩⟩]
  statistics :=
    { total := 2
      assigned := 2
      unassigned := 0
      usage := .ofInt 2
      method := .backtracking
      steps := some 3 }

/-- A solve is compared by what it finds, since its faults have no decidable equality. -/
theorem eq_ok_of_toOption {result : Except SolveFault Timetable} {t : Timetable}
    (found : result.toOption = some t) : result = .ok t := by
  cases result with
  | ok found' => exact congrArg Except.ok (Option.some.inj found)
  | error fault => cases found

theorem respond_lectures :
    respond {} ⟨"POST", Operation.generate.path, some lecturesBody⟩ =
      .ok ⟨201, Answer.timetable lecturesTimetable {}⟩ := by
  have read : readBody GenerateRequest.ofValue (some lecturesBody) = .valid lectures := by
    decide +kernel
  have solved : lectures.problem.solve {} (Settings.generator {} ({} : Host).seed)
      (({} : Host).deadlines {}) = .ok lecturesTimetable :=
    eq_ok_of_toOption (by decide +kernel)
  refine (respond_operation {} .generate (some lecturesBody)).trans ?_
  rw [if_pos (by decide +kernel)]
  simp only [perform, read]
  change generateWith {} lectures {} = _
  simp only [generateWith, solved]

theorem respond_resubmission_lectures :
    respond {} ⟨"POST", Operation.generate.path, some lecturesBody⟩ =
        .ok ⟨201, Answer.timetable lecturesTimetable {}⟩ ∧
      respond {} ⟨"POST", Operation.validate.path,
          some (resubmission lecturesBody (Answer.timetable lecturesTimetable {}))⟩ =
        .ok ⟨200, .record [("valid", .bool true), ("violations", .list []),
          ("unassigned_section_ids", .list [])]⟩ :=
  ⟨respond_lectures, respond_resubmission {} {} respond_lectures⟩

end Service

end Timetabling
