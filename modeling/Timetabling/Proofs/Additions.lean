import Timetabling.Proofs.Findings
import Timetabling.Proofs.Occupancy

/-!
# What one more assignment adds to an audit

A check against reservations stops at the first conflict and sees slot keys without owners. An audit
goes on to the end and names who collides with whom. For an assignment that follows others they
agree all the same: the check gives the first kind of conflict among those that the audit adds.
-/

namespace Timetabling

namespace Conflict

def all : List Conflict :=
  [instructor, classroom, student, capacity]

theorem kind_injective {a b : Conflict} (same : a.kind = b.kind) : a = b := by
  revert same
  cases a <;> cases b <;> decide

theorem find?_all (broken : Conflict → Bool) :
    all.find? broken =
      if broken .instructor then some .instructor
      else if broken .classroom then some .classroom
      else if broken .student then some .student
      else if broken .capacity then some .capacity
      else none := by
  simp only [all, List.find?_cons, List.find?_nil]
  cases broken .instructor <;> cases broken .classroom <;> cases broken .student <;>
    cases broken .capacity <;> rfl

end Conflict

def Resource.Kind.conflict : Resource.Kind → Conflict
  | .instructor => .instructor
  | .classroom => .classroom
  | .student => .student

theorem Resource.Kind.kind_conflict (kind : Resource.Kind) :
    kind.conflict.kind = kind.name ++ "_conflict" := by
  cases kind <;> decide

theorem Violation.kind_doubleBooking (resource : Resource) (earlier later key : String) :
    (doubleBooking resource earlier later key).kind = resource.kind.conflict.kind :=
  resource.kind.kind_conflict.symm

theorem Violation.kind_repeatedSection_ne (sectionId key : String) (c : Conflict) :
    (repeatedSection sectionId key).kind ≠ c.kind := by
  change "duplicate_section" ≠ c.kind
  cases c <;> decide

namespace Lesson

variable {earlier : List Lesson} {l : Lesson}

theorem violationsAfter_append (earlier first second : List Lesson) :
    violationsAfter earlier (first ++ second) =
      violationsAfter earlier first ++ violationsAfter (earlier ++ first) second := by
  induction first generalizing earlier with
  | nil => simp [violationsAfter]
  | cons l rest ih =>
    rw [List.cons_append, violationsAfter, violationsAfter, ih, List.append_assoc,
      List.append_assoc, List.singleton_append]

/-- Whether a lesson that follows others breaks a constraint. -/
def Breaks (earlier : List Lesson) (l : Lesson) : Conflict → Prop
  | .instructor => holders earlier ⟨.instructor, l.session.instructor⟩ l.slotKey ≠ []
  | .classroom => holders earlier ⟨.classroom, l.placement.classroom.id⟩ l.slotKey ≠ []
  | .student => ∃ student ∈ l.session.students, holders earlier ⟨.student, student⟩ l.slotKey ≠ []
  | .capacity => l.placement.classroom.capacity < l.session.capacity

theorem breaks_iff {c : Conflict} :
    l.Breaks earlier c ↔
      (c = .capacity ∧ l.placement.classroom.capacity < l.session.capacity) ∨
        ∃ resource ∈ l.resources, resource.kind.conflict = c ∧
          holders earlier resource l.slotKey ≠ [] := by
  cases c <;> simp [Breaks, resources, Reservations.occupied, Resource.Kind.conflict]

/-- The kinds of what is reported about a lesson are those of the constraints that it breaks. -/
theorem exists_kind_iff_breaks {c : Conflict} :
    (∃ v ∈ l.violations earlier, v.kind = c.kind) ↔ l.Breaks earlier c := by
  rw [breaks_iff]
  constructor
  · rintro ⟨v, reported, sameKind⟩
    simp only [violations, List.mem_append, List.mem_ite_nil_right, List.mem_singleton,
      List.mem_flatMap, List.mem_map] at reported
    rcases reported with (⟨-, rfl⟩ | ⟨small, rfl⟩) | ⟨resource, occupied, id, holds, rfl⟩
    · exact absurd sameKind (Violation.kind_repeatedSection_ne _ _ c)
    · exact .inl ⟨(Conflict.kind_injective (a := .capacity) sameKind).symm, small⟩
    · rw [Violation.kind_doubleBooking] at sameKind
      exact .inr ⟨resource, occupied, Conflict.kind_injective sameKind, List.ne_nil_of_mem holds⟩
  · rintro (⟨rfl, small⟩ | ⟨resource, occupied, rfl, held⟩)
    · refine ⟨.smallClassroom l.session.toSection l.placement.classroom l.slotKey, ?_, rfl⟩
      simp [violations, small]
    · obtain ⟨id, holds⟩ := List.exists_mem_of_ne_nil _ held
      refine ⟨.doubleBooking resource id l.session.id l.slotKey, ?_,
        Violation.kind_doubleBooking ..⟩
      apply List.mem_append_right
      exact List.mem_flatMap.mpr ⟨resource, occupied, List.mem_map_of_mem holds⟩

end Lesson

namespace Reservations.Books

variable {r : Reservations} {earlier : List Lesson}

theorem isFree_eq_false_iff (books : r.Books earlier) {resource : Resource} {key : String} :
    r.isFree resource key = false ↔ Lesson.holders earlier resource key ≠ [] := by
  rw [Ne, Lesson.holders_eq_nil_iff, ← Bool.not_eq_true, books.isFree_iff]
  simp only [not_and]

/-- The first conflict is the first one that an audit after the same lessons reports. -/
theorem conflict?_eq_find? (books : r.Books earlier) (l : Lesson) :
    conflict? l.session l.placement r = Conflict.all.find? fun c =>
      (l.violations earlier).any fun v => v.kind == c.kind := by
  have reported (c : Conflict) : ((l.violations earlier).any fun v => v.kind == c.kind) = true ↔
      l.Breaks earlier c := by
    rw [← Lesson.exists_kind_iff_breaks]
    simp
  have taken (resource : Resource) : (!r.isFree resource l.placement.slot.key) = true ↔
      Lesson.holders earlier resource l.slotKey ≠ [] := by
    rw [Bool.not_eq_true']
    exact books.isFree_eq_false_iff
  simp only [Conflict.find?_all, reported, Lesson.Breaks, conflict?, taken, List.any_eq_true]

end Reservations.Books

namespace Problem

/-- Reserves what an assignment takes up: the instructor and the students of its section, and its
classroom. -/
def reserve (p : Problem) (r : Reservations) (a : Assignment) : Reservations :=
  match p.section? a.sectionId with
  | none => r
  | some sec => r.reservePlacement sec.instructor a.classroomId a.slotKey (p.studentsOf sec.id)

def reservations (p : Problem) (assignments : List Assignment) : Reservations :=
  assignments.foldl p.reserve {}

variable {p : Problem}

theorem exists_lesson?_of_knows {a : Assignment} (known : p.knows a = true) :
    ∃ l, p.lesson? a = some l := by
  rw [← isSome_lesson?] at known
  exact Option.isSome_iff_exists.mp known

theorem reserve_of_lesson? {a : Assignment} {l : Lesson} (announced : p.lesson? a = some l)
    (r : Reservations) : p.reserve r a = r.place l.session l.placement := by
  obtain ⟨sec, room, found, located, rfl⟩ := lesson?_eq_some_iff.mp announced
  simp only [reserve, found, Reservations.place, session, id_of_classroom? located,
    Assignment.slotKey]

theorem books_foldl_reserve {r : Reservations} {earlier : List Lesson}
    {assignments : List Assignment} (books : r.Books earlier)
    (known : ∀ a ∈ assignments, p.knows a = true) :
    (assignments.foldl p.reserve r).Books (earlier ++ assignments.filterMap p.lesson?) := by
  induction assignments generalizing r earlier with
  | nil => simpa using books
  | cons a rest ih =>
    obtain ⟨first, others⟩ := List.forall_mem_cons.mp known
    obtain ⟨l, announced⟩ := exists_lesson?_of_knows first
    rw [List.foldl_cons, reserve_of_lesson? announced, List.filterMap_cons_some announced]
    apply (ih (books.place l.session l.placement) others).of_mem_iff
    intro m
    rw [List.mem_append, List.mem_append, List.mem_cons, List.mem_cons, or_assoc]
    exact or_left_comm

theorem books_reservations {assignments : List Assignment}
    (known : ∀ a ∈ assignments, p.knows a = true) :
    (p.reservations assignments).Books (assignments.filterMap p.lesson?) :=
  books_foldl_reserve Reservations.books_empty known

/-- An audit of known assignments reports what their lessons do to the lessons before them. -/
theorem violations_of_known {assignments : List Assignment}
    (once : ∀ sectionId, (p.studentsOf sectionId).Nodup)
    (known : ∀ a ∈ assignments, p.knows a = true) :
    p.violations assignments = Lesson.violationsAfter [] (assignments.filterMap p.lesson?) := by
  apply AuditState.records_empty.run once
  intro a listed
  exact exists_lesson?_of_knows (known a listed)

theorem violations_append_singleton {assignments : List Assignment} {a : Assignment} {l : Lesson}
    (once : ∀ sectionId, (p.studentsOf sectionId).Nodup)
    (known : ∀ a ∈ assignments, p.knows a = true) (announced : p.lesson? a = some l) :
    p.violations (assignments ++ [a]) =
      p.violations assignments ++ l.violations (assignments.filterMap p.lesson?) := by
  have knownAll : ∀ b ∈ assignments ++ [a], p.knows b = true := by
    rw [List.forall_mem_append, List.forall_mem_singleton, ← isSome_lesson?, announced]
    exact ⟨known, rfl⟩
  rw [violations_of_known once knownAll, violations_of_known once known, List.filterMap_append,
    List.filterMap_cons_some announced, List.filterMap_nil, Lesson.violationsAfter_append,
    List.nil_append]
  simp only [Lesson.violationsAfter, List.append_nil]

/-- Reservations of known assignments, whether or not these keep the constraints, tell what an audit
adds for one more: nothing of the kinds that are checked where there is no conflict, and otherwise
the conflict is the first of those kinds that is added. -/
theorem conflict?_agrees_with_audit (sections : List Section) (classrooms : List Classroom)
    (slots : List TimeSlot) (preferences enrollments : List (String × List String))
    (placed : List Assignment) (sec : Section) (room : Classroom) (slot : TimeSlot) :
    let p := build sections classrooms slots preferences enrollments
    (∀ a ∈ placed, p.knows a = true) → p.section? sec.id = some sec →
      p.classroom? room.id = some room →
      ∃ added, p.violations (placed ++ [Assignment.place sec ⟨room, slot⟩]) =
          p.violations placed ++ added ∧
        (conflict? (p.session sec) ⟨room, slot⟩ (p.reservations placed) = none ↔
          ∀ v ∈ added, ∀ c : Conflict, v.kind ≠ c.kind) ∧
        conflict? (p.session sec) ⟨room, slot⟩ (p.reservations placed) =
          [.instructor, .classroom, .student, .capacity].find? fun c =>
            added.any fun v => v.kind == c.kind := by
  intro p known found located
  have once : ∀ sectionId, (p.studentsOf sectionId).Nodup := by
    intro sectionId
    apply nodup_students_build
  have announced : p.lesson? (Assignment.place sec ⟨room, slot⟩) =
      some ⟨p.session sec, ⟨room, slot⟩⟩ :=
    lesson?_eq_some_iff.mpr ⟨sec, room, found, located, rfl⟩
  have first := (books_reservations known).conflict?_eq_find? ⟨p.session sec, ⟨room, slot⟩⟩
  refine ⟨_, violations_append_singleton once known announced, ?none, first⟩
  case none =>
    rw [first, List.find?_eq_none]
    constructor
    · intro unreported v added c sameKind
      have listed : c ∈ Conflict.all := by cases c <;> decide
      apply unreported c listed
      exact List.any_eq_true.mpr ⟨v, added, beq_iff_eq.mpr sameKind⟩
    · intro different c _ reported
      obtain ⟨v, added, sameKind⟩ := List.any_eq_true.mp reported
      exact different v added c (beq_iff_eq.mp sameKind)

/-- A section that is placed twice at one slot, and another one that shares a student with it and is
too large for the classroom. -/
theorem conflict?_agrees_with_audit_crowd :
    let algebra : Section := ⟨"algebra", "ada", 20, false⟩
    let logic : Section := ⟨"logic", "kurt", 40, false⟩
    let hall : Classroom := ⟨"hall", 30, []⟩
    let monday : TimeSlot := ⟨"Monday", "09:00", "10:00"⟩
    let p := build [algebra, logic] [hall] [monday] [] [("emmy", ["algebra", "logic"])]
    let placed := [Assignment.place algebra ⟨hall, monday⟩, Assignment.place algebra ⟨hall, monday⟩]
    ((∀ a ∈ placed, p.knows a = true) ∧ p.section? "logic" = some logic ∧
      p.classroom? "hall" = some hall) ∧
    conflict? (p.session logic) ⟨hall, monday⟩ (p.reservations placed) = some .classroom ∧
    ∃ added, p.violations (placed ++ [Assignment.place logic ⟨hall, monday⟩]) =
        p.violations placed ++ added ∧
      (conflict? (p.session logic) ⟨hall, monday⟩ (p.reservations placed) = none ↔
        ∀ v ∈ added, ∀ c : Conflict, v.kind ≠ c.kind) ∧
      conflict? (p.session logic) ⟨hall, monday⟩ (p.reservations placed) =
        [.instructor, .classroom, .student, .capacity].find? fun c =>
          added.any fun v => v.kind == c.kind := by
  intro algebra logic hall monday p placed
  have known : ∀ a ∈ placed, p.knows a = true := by decide +kernel
  have found : p.section? "logic" = some logic := by decide +kernel
  have located : p.classroom? "hall" = some hall := by decide +kernel
  exact ⟨⟨known, found, located⟩, by decide +kernel,
    conflict?_agrees_with_audit [algebra, logic] [hall] [monday] []
      [("emmy", ["algebra", "logic"])] placed logic hall monday known found located⟩

end Problem

end Timetabling
