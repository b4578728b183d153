import Mathlib.Data.Finset.Card
import Mathlib.Data.List.Pairwise
import Mathlib.Data.List.Perm.Basic
import Timetabling.Problem.Reservations

/-!
# Lessons and schedules

The declarative side of timetabling. A lesson is a session at a placement, and a schedule holds one
lesson for every section such that no two lessons clash. Neither notion knows of reservations or of
the order in which sections are placed.
-/

namespace Timetabling

/-- A session held at a placement. -/
structure Lesson where
  session : Session
  placement : Placement
deriving DecidableEq, Repr

namespace Lesson

def slotKey (l : Lesson) : String :=
  l.placement.slot.key

/-- What the lesson occupies: its instructor, its classroom and its students. -/
def resources (l : Lesson) : List Resource :=
  Reservations.occupied l.session.instructor l.placement.classroom.id l.session.students

def assignment (l : Lesson) : Assignment :=
  Assignment.place l.session.toSection l.placement

/-- Two lessons clash if they have one slot key and share the instructor, the classroom or a
student. -/
def Clash (a b : Lesson) : Prop :=
  a.slotKey = b.slotKey ∧
    (a.session.instructor = b.session.instructor ∨
      a.placement.classroom.id = b.placement.classroom.id ∨
      ∃ student ∈ a.session.students, student ∈ b.session.students)

instance (a b : Lesson) : Decidable (a.Clash b) :=
  inferInstanceAs (Decidable (_ ∧ (_ ∨ _ ∨ ∃ student ∈ a.session.students,
    student ∈ b.session.students)))

theorem Clash.symm {a b : Lesson} (clash : a.Clash b) : b.Clash a := by
  obtain ⟨sameKey, instructor | classroom | ⟨student, ofFirst, ofSecond⟩⟩ := clash
  · exact ⟨sameKey.symm, .inl instructor.symm⟩
  · exact ⟨sameKey.symm, .inr (.inl classroom.symm)⟩
  · exact ⟨sameKey.symm, .inr (.inr ⟨student, ofSecond, ofFirst⟩)⟩

theorem mem_resources {l : Lesson} {resource : Resource} :
    resource ∈ l.resources ↔
      resource = ⟨.instructor, l.session.instructor⟩ ∨
        resource = ⟨.classroom, l.placement.classroom.id⟩ ∨
        ∃ student ∈ l.session.students, resource = ⟨.student, student⟩ := by
  simp [resources, Reservations.occupied, eq_comm]

/-- Lessons clash exactly when one resource is needed twice at one slot key. -/
theorem clash_iff {a b : Lesson} :
    a.Clash b ↔ a.slotKey = b.slotKey ∧ ∃ resource ∈ a.resources, resource ∈ b.resources := by
  constructor
  · rintro ⟨sameKey, instructor | classroom | ⟨student, ofFirst, ofSecond⟩⟩
    · exact ⟨sameKey, ⟨.instructor, a.session.instructor⟩, mem_resources.mpr (.inl rfl),
        mem_resources.mpr (.inl (by rw [instructor]))⟩
    · exact ⟨sameKey, ⟨.classroom, a.placement.classroom.id⟩, mem_resources.mpr (.inr (.inl rfl)),
        mem_resources.mpr (.inr (.inl (by rw [classroom])))⟩
    · exact ⟨sameKey, ⟨.student, student⟩,
        mem_resources.mpr (.inr (.inr ⟨student, ofFirst, rfl⟩)),
        mem_resources.mpr (.inr (.inr ⟨student, ofSecond, rfl⟩))⟩
  · rintro ⟨sameKey, resource, ofFirst, ofSecond⟩
    refine ⟨sameKey, ?_⟩
    -- The kinds of two equal resources agree, so only three of the nine cases are left.
    rcases mem_resources.mp ofFirst with rfl | rfl | ⟨student, attends, rfl⟩ <;>
      rcases mem_resources.mp ofSecond with same | same | ⟨other, otherAttends, same⟩ <;>
      simp only [Resource.mk.injEq, reduceCtorEq, false_and, true_and] at same
    · exact .inl same
    · exact .inr (.inl same)
    · exact .inr (.inr ⟨student, attends, same ▸ otherAttends⟩)

/-- No two of the lessons clash. -/
def Apart (lessons : List Lesson) : Prop :=
  lessons.Pairwise fun a b => ¬ a.Clash b

theorem apart_cons {l : Lesson} {lessons : List Lesson} :
    Apart (l :: lessons) ↔ (∀ other ∈ lessons, ¬ l.Clash other) ∧ Apart lessons :=
  List.pairwise_cons

theorem Apart.perm {first second : List Lesson} (apart : Apart first)
    (same : first.Perm second) : Apart second :=
  same.pairwise apart fun separate clash => separate clash.symm

theorem Apart.separate {lessons : List Lesson} (apart : Apart lessons) {a b : Lesson}
    (first : a ∈ lessons) (second : b ∈ lessons) (different : a ≠ b) : ¬ a.Clash b := by
  have : Std.Symm fun a b : Lesson => ¬ a.Clash b := ⟨fun _ _ separate clash => separate clash.symm⟩
  exact List.Pairwise.forall apart first second different

def keysIn (lessons : List Lesson) (classroomId : String) : Finset String :=
  ((lessons.filter fun l => l.placement.classroom.id == classroomId).map slotKey).toFinset

theorem mem_keysIn {lessons : List Lesson} {classroomId key : String} :
    key ∈ keysIn lessons classroomId ↔
      ∃ l ∈ lessons, l.slotKey = key ∧ l.placement.classroom.id = classroomId := by
  simp only [keysIn, List.mem_toFinset, List.mem_map, List.mem_filter, beq_iff_eq]
  constructor
  · rintro ⟨l, ⟨membership, room⟩, sameKey⟩
    exact ⟨l, membership, sameKey, room⟩
  · rintro ⟨l, membership, sameKey, room⟩
    exact ⟨l, ⟨membership, room⟩, sameKey⟩

end Lesson

namespace Problem

/-- Whether a lesson has a classroom of the problem, large enough for it, and a slot of the
problem. -/
structure Offers (p : Problem) (l : Lesson) : Prop where
  classroom_mem : l.placement.classroom ∈ p.classrooms
  slot_mem : l.placement.slot ∈ p.slots
  capacity_le : l.session.capacity ≤ l.placement.classroom.capacity

/-- One offered lesson for every section of the problem, no two of them clashing. -/
structure IsSchedule (p : Problem) (lessons : List Lesson) : Prop where
  complete : (lessons.map Lesson.session).Perm p.sessions
  offered : ∀ l ∈ lessons, p.Offers l
  apart : Lesson.Apart lessons

theorem IsSchedule.perm {p : Problem} {first second : List Lesson}
    (schedule : p.IsSchedule first) (same : first.Perm second) : p.IsSchedule second where
  complete := (same.symm.map _).trans schedule.complete
  offered l membership := schedule.offered l (same.mem_iff.mpr membership)
  apart := schedule.apart.perm same

theorem IsSchedule.length_eq {p : Problem} {lessons : List Lesson}
    (schedule : p.IsSchedule lessons) : lessons.length = p.sections.length := by
  have placed := schedule.complete.length_eq
  rw [List.length_map, sessions, List.length_map] at placed
  exact placed

theorem IsSchedule.exists_lesson {p : Problem} {lessons : List Lesson} {sec : Section}
    (schedule : p.IsSchedule lessons) (listed : sec ∈ p.sections) :
    ∃ l ∈ lessons, l.session = p.session sec :=
  List.mem_map.mp (schedule.complete.mem_iff.mpr (List.mem_map_of_mem listed))

theorem IsSchedule.exists_listing {p : Problem} {lessons : List Lesson} {order : List Session}
    (schedule : p.IsSchedule lessons) (same : order.Perm p.sessions) :
    ∃ listing, p.IsSchedule listing ∧ listing.map Lesson.session = order := by
  obtain ⟨listing, sessions, permuted⟩ : Relation.Comp (· = List.map Lesson.session ·) List.Perm
      order lessons := by
    rw [List.eq_map_comp_perm]
    exact same.trans schedule.complete.symm
  exact ⟨listing, schedule.perm permuted.symm, sessions.symm⟩

end Problem

end Timetabling
