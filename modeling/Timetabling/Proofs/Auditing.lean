import Timetabling.Problem.Audit
import Timetabling.Proofs.Acceptance

/-!
# What an audit knows and reports

An audit is told assignments one by one. As long as they announce lessons, `AuditState.Records` says
that the bookings are those of the lessons told so far, in their order, so each report can be read
off from the lessons. A schedule is reported clean.
-/

namespace Timetabling

namespace Bookings

theorem all_add (b : Bookings) (a resource : Resource) (key sectionId : String) :
    (b.add a key sectionId).all resource =
      b.all resource ++ if a = resource then [(key, sectionId)] else [] := by
  by_cases same : a = resource
  · subst same
    simp [all, add, Std.TreeMap.getD_insert_self]
  · have different : ¬Resource.order a resource = .eq :=
      fun h => same (Std.LawfulEqCmp.eq_of_compare h)
    simp [all, add, Std.TreeMap.getD_insert, different, same]

end Bookings

namespace Lesson

def holders (lessons : List Lesson) (resource : Resource) (key : String) : List String :=
  (lessons.filter fun l => l.resources.contains resource && l.slotKey == key).map fun l =>
    l.session.id

theorem holders_eq_nil_iff {lessons : List Lesson} {resource : Resource} {key : String} :
    holders lessons resource key = [] ↔
      ∀ l ∈ lessons, ¬ (l.slotKey = key ∧ resource ∈ l.resources) := by
  simp [holders, List.filter_eq_nil_iff, and_comm]

/-- What an audit reports about a lesson that follows others. -/
def violations (earlier : List Lesson) (l : Lesson) : List Violation :=
  (if (earlier.map fun e => e.session.id).contains l.session.id then
    [.repeatedSection l.session.id l.slotKey] else []) ++
  (if l.placement.classroom.capacity < l.session.capacity then
    [.smallClassroom l.session.toSection l.placement.classroom l.slotKey] else []) ++
  l.resources.flatMap fun resource =>
    (holders earlier resource l.slotKey).map fun id =>
      .doubleBooking resource id l.session.id l.slotKey

theorem violations_eq_nil_iff {earlier : List Lesson} {l : Lesson} :
    l.violations earlier = [] ↔
      (∀ e ∈ earlier, e.session.id ≠ l.session.id ∧ ¬ e.Clash l) ∧
        l.session.capacity ≤ l.placement.classroom.capacity := by
  have separate : (∀ resource ∈ l.resources, holders earlier resource l.slotKey = []) ↔
      ∀ e ∈ earlier, ¬ e.Clash l := by
    simp only [holders_eq_nil_iff, clash_iff]
    constructor
    · rintro free e membership ⟨sameKey, resource, ofEarlier, ofLater⟩
      exact free resource ofLater e membership ⟨sameKey, ofEarlier⟩
    · rintro apart resource ofLater e membership ⟨sameKey, ofEarlier⟩
      exact apart e membership ⟨sameKey, resource, ofEarlier, ofLater⟩
  have repeated : (earlier.map fun e => e.session.id).contains l.session.id = false ↔
      ∀ e ∈ earlier, e.session.id ≠ l.session.id := by
    simp
  rw [forall₂_and]
  simp only [violations, List.append_eq_nil_iff, List.flatMap_eq_nil_iff, List.map_eq_nil_iff,
    separate, ite_eq_right_iff, imp_false, not_lt, List.cons_ne_nil, Bool.not_eq_true, repeated]
  constructor
  · rintro ⟨⟨fresh, large⟩, apart⟩
    exact ⟨⟨fresh, apart⟩, large⟩
  · rintro ⟨⟨fresh, apart⟩, large⟩
    exact ⟨⟨fresh, large⟩, apart⟩

def violationsAfter (earlier : List Lesson) : List Lesson → List Violation
  | [] => []
  | l :: later => l.violations earlier ++ violationsAfter (earlier ++ [l]) later

theorem violationsAfter_eq_nil_iff {earlier lessons : List Lesson} :
    violationsAfter earlier lessons = [] ↔
      (∀ l ∈ lessons, l.session.capacity ≤ l.placement.classroom.capacity) ∧
        (∀ e ∈ earlier, ∀ l ∈ lessons, e.session.id ≠ l.session.id ∧ ¬ e.Clash l) ∧
        lessons.Pairwise fun a b => a.session.id ≠ b.session.id ∧ ¬ a.Clash b := by
  induction lessons generalizing earlier with
  | nil => simp [violationsAfter]
  | cons l later ih =>
    simp only [violationsAfter, List.append_eq_nil_iff, violations_eq_nil_iff, ih,
      List.forall_mem_append, List.forall_mem_singleton, List.forall_mem_cons, List.pairwise_cons,
      forall₂_and]
    constructor
    · rintro ⟨⟨first, large⟩, others, ⟨before, after⟩, rest⟩
      exact ⟨⟨large, others⟩, ⟨first, before⟩, after, rest⟩
    · rintro ⟨⟨large, others⟩, ⟨first, before⟩, after, rest⟩
      exact ⟨⟨first, large⟩, others, ⟨before, after⟩, rest⟩

end Lesson

theorem Lesson.nodup_resources {l : Lesson} (once : l.session.students.Nodup) :
    l.resources.Nodup := by
  have students : (l.session.students.map fun student => (⟨.student, student⟩ : Resource)).Nodup :=
    once.map fun a b same => congrArg Resource.id same
  simpa [Lesson.resources, Reservations.occupied] using students

namespace AuditState

variable {s : AuditState}

theorem bookAll_spec (s : AuditState) (key sectionId : String) {resources : List Resource}
    (nodup : resources.Nodup) :
    (∀ b, (s.bookAll key sectionId resources).1.bookings.all b =
        s.bookings.all b ++ if b ∈ resources then [(key, sectionId)] else []) ∧
      (s.bookAll key sectionId resources).1.seen = s.seen ∧
      (s.bookAll key sectionId resources).2 = resources.flatMap fun resource =>
        (s.bookings.holders resource key).map fun earlier =>
          .doubleBooking resource earlier sectionId key := by
  induction resources generalizing s with
  | nil => simp [bookAll]
  | cons resource rest ih =>
    obtain ⟨fresh, nodup⟩ := List.nodup_cons.mp nodup
    obtain ⟨all, seen, found⟩ := ih (s.book resource key sectionId).1 nodup
    refine ⟨?_, seen, ?_⟩
    · intro b
      change ((s.book resource key sectionId).1.bookAll key sectionId rest).1.bookings.all b = _
      rw [all, book, Bookings.all_add, List.append_assoc]
      congr 1
      by_cases same : resource = b
      · subst same
        simp [fresh]
      · simp [same, Ne.symm same]
    · change (s.book resource key sectionId).2 ++
        ((s.book resource key sectionId).1.bookAll key sectionId rest).2 = _
      rw [found, List.flatMap_cons]
      congr 1
      apply List.flatMap_congr
      intro other membership
      -- The first booking is of another resource than all that follow.
      have different : resource ≠ other := fun same => fresh (same ▸ membership)
      simp [book, Bookings.holders, Bookings.all_add, different]

/-- The audit has been told exactly these lessons, in this order. -/
structure Records (s : AuditState) (lessons : List Lesson) : Prop where
  all : ∀ resource, s.bookings.all resource =
    (lessons.filter fun l => l.resources.contains resource).map fun l => (l.slotKey, l.session.id)
  seen : s.seen = (lessons.map fun l => l.session.id).reverse

theorem records_empty : Records {} [] where
  all resource := by simp [Bookings.all]
  seen := rfl

theorem Records.holders {lessons : List Lesson} (records : s.Records lessons) (resource : Resource)
    (key : String) : s.bookings.holders resource key = Lesson.holders lessons resource key := by
  simp [Bookings.holders, records.all, Lesson.holders, List.filter_map, List.filter_filter,
    Function.comp_def, Bool.and_comm]

theorem Records.checkKnown {lessons : List Lesson} {l : Lesson} (records : s.Records lessons)
    (once : l.session.students.Nodup) :
    (s.checkKnown l.session.toSection l.placement.classroom l.session.students l.slotKey).1.Records
        (lessons ++ [l]) ∧
      (s.checkKnown l.session.toSection l.placement.classroom l.session.students l.slotKey).2 =
        l.violations lessons := by
  have booked := bookAll_spec { s with seen := l.session.id :: s.seen } l.slotKey l.session.id
    (Lesson.nodup_resources once)
  obtain ⟨all, seen, reported⟩ := booked
  refine ⟨⟨?_, ?_⟩, ?_⟩
  · intro resource
    refine (all resource).trans ?_
    change s.bookings.all resource ++ _ = _
    rw [records.all, List.filter_append, List.map_append]
    congr 1
    by_cases held : resource ∈ l.resources <;> simp [held]
  · refine seen.trans ?_
    simp [records.seen]
  · have repeated : s.seen.contains l.session.id =
        (lessons.map fun e => e.session.id).contains l.session.id := by
      rw [records.seen]
      simp
    simp only [records.holders] at reported
    rw [Lesson.violations, ← repeated, ← reported]
    rfl

/-- An assignment that announces a lesson is recorded, and reported as the lesson. -/
theorem Records.check {p : Problem} {lessons : List Lesson} {a : Assignment} {l : Lesson}
    (records : s.Records lessons) (known : p.lesson? a = some l) (once : l.session.students.Nodup) :
    (s.check p a).1.Records (lessons ++ [l]) ∧ (s.check p a).2 = l.violations lessons := by
  obtain ⟨sec, room, found, located, rfl⟩ := Problem.lesson?_eq_some_iff.mp known
  have checked : s.check p a = s.checkKnown sec room (p.studentsOf sec.id) a.slotKey := by
    simp only [AuditState.check, found, located]
  rw [checked]
  exact records.checkKnown once

/-- An audit that goes on with lessons reports what each of them does to those before it. -/
theorem Records.run {p : Problem} {earlier : List Lesson} {assignments : List Assignment}
    (records : s.Records earlier) (once : ∀ sectionId, (p.studentsOf sectionId).Nodup)
    (announced : ∀ a ∈ assignments, ∃ l, p.lesson? a = some l) :
    s.run p assignments = Lesson.violationsAfter earlier (assignments.filterMap p.lesson?) := by
  induction assignments generalizing s earlier with
  | nil => rfl
  | cons a rest ih =>
    obtain ⟨⟨l, first⟩, others⟩ := List.forall_mem_cons.mp announced
    obtain ⟨after, reported⟩ := records.check first (Problem.nodup_students_of_lesson? first once)
    rw [List.filterMap_cons_some first, Lesson.violationsAfter, ← reported, ← ih after others]
    rfl

theorem exists_lesson_of_check {p : Problem} {a : Assignment} (clean : (s.check p a).2 = []) :
    ∃ l, p.lesson? a = some l := by
  unfold AuditState.check at clean
  split at clean
  next => cases clean
  next sec found =>
    split at clean
    next => cases clean
    next room located => exact ⟨_, Problem.lesson?_eq_some_iff.mpr ⟨sec, room, found, located, rfl⟩⟩

theorem exists_lesson_of_run {p : Problem} {assignments : List Assignment}
    (clean : s.run p assignments = []) : ∀ a ∈ assignments, ∃ l, p.lesson? a = some l := by
  induction assignments generalizing s with
  | nil => simp
  | cons a rest ih =>
    obtain ⟨first, others⟩ := List.append_eq_nil_iff.mp clean
    exact List.forall_mem_cons.mpr ⟨exists_lesson_of_check first, ih others⟩

end AuditState

namespace Problem

variable {p : Problem} {assignments : List Assignment}

/-- A clean audit has been told lessons that fit their classrooms, no two of them of one section or
clashing. -/
theorem violations_eq_nil_iff (once : ∀ sectionId, (p.studentsOf sectionId).Nodup) :
    p.violations assignments = [] ↔
      (∀ a ∈ assignments, ∃ l, p.lesson? a = some l ∧
        l.session.capacity ≤ l.placement.classroom.capacity) ∧
      assignments.Pairwise fun a b => ∀ l, p.lesson? a = some l → ∀ m, p.lesson? b = some m →
        l.session.id ≠ m.session.id ∧ ¬ l.Clash m := by
  have reported (announced : ∀ a ∈ assignments, ∃ l, p.lesson? a = some l) :
      p.violations assignments = [] ↔
        (∀ a ∈ assignments, ∀ l, p.lesson? a = some l →
          l.session.capacity ≤ l.placement.classroom.capacity) ∧
        assignments.Pairwise fun a b => ∀ l, p.lesson? a = some l → ∀ m, p.lesson? b = some m →
          l.session.id ≠ m.session.id ∧ ¬ l.Clash m := by
    rw [violations, AuditState.records_empty.run once announced, Lesson.violationsAfter_eq_nil_iff,
      List.pairwise_filterMap, List.forall_mem_filterMap]
    simp
  constructor
  · intro clean
    have announced := AuditState.exists_lesson_of_run clean
    obtain ⟨large, apart⟩ := (reported announced).mp clean
    refine ⟨?_, apart⟩
    intro a membership
    obtain ⟨l, found⟩ := announced a membership
    exact ⟨l, found, large a membership l found⟩
  · rintro ⟨large, apart⟩
    refine (reported ?_).mpr ⟨?_, apart⟩
    · intro a membership
      obtain ⟨l, found, -⟩ := large a membership
      exact ⟨l, found⟩
    · intro a membership l found
      obtain ⟨m, same, fits⟩ := large a membership
      cases found.symm.trans same
      exact fits

theorem unassigned_eq_nil_iff :
    p.unassigned assignments = [] ↔
      ∀ sec ∈ p.sections, sec.id ∈ assignments.map Assignment.sectionId := by
  simp [unassigned, List.filter_eq_nil_iff]

end Problem

namespace Problem.IsSchedule

variable {p : Problem} {lessons : List Lesson}

theorem known (schedule : p.IsSchedule lessons) {l : Lesson} (membership : l ∈ lessons) :
    l.session ∈ p.sessions :=
  schedule.complete.mem_iff.mp (List.mem_map_of_mem membership)

theorem ids_pairwise (schedule : p.IsSchedule lessons) (accepted : p.Accepted) :
    lessons.Pairwise fun a b => a.session.id ≠ b.session.id := by
  have ids : (p.sessions.map fun session => session.id) = p.sectionIds := by
    simp [sessions, session, sectionIds]
  have nodup : ((lessons.map Lesson.session).map fun session => session.id).Nodup := by
    rw [(schedule.complete.map _).nodup_iff, ids]
    exact accepted.sectionIds_nodup
  rw [List.map_map] at nodup
  exact List.pairwise_map.mp nodup

theorem violations_eq_nil (schedule : p.IsSchedule lessons) (accepted : p.Accepted)
    (once : ∀ sectionId, (p.studentsOf sectionId).Nodup) :
    p.violations (lessons.map Lesson.assignment) = [] := by
  have announced : ∀ l ∈ lessons, p.lesson? l.assignment = some l := by
    intro l membership
    exact accepted.lesson?_assignment (schedule.known membership)
      (schedule.offered l membership).classroom_mem
  refine (violations_eq_nil_iff once).mpr ⟨?large, ?apart⟩
  case large =>
    refine List.forall_mem_map.mpr ?_
    intro l membership
    exact ⟨l, announced l membership, (schedule.offered l membership).capacity_le⟩
  case apart =>
    refine List.pairwise_map.mpr
      (((schedule.ids_pairwise accepted).and schedule.apart).imp_of_mem ?_)
    intro l m first second separate l' ofFirst m' ofSecond
    cases (announced l first).symm.trans ofFirst
    cases (announced m second).symm.trans ofSecond
    exact separate

theorem unassigned_eq_nil (schedule : p.IsSchedule lessons) :
    p.unassigned (lessons.map Lesson.assignment) = [] := by
  apply unassigned_eq_nil_iff.mpr
  intro sec membership
  have placed : p.session sec ∈ lessons.map Lesson.session :=
    schedule.complete.mem_iff.mpr (List.mem_map_of_mem membership)
  obtain ⟨l, listed, same⟩ := List.mem_map.mp placed
  have id : l.session.id = sec.id := by rw [same]; rfl
  simpa [← id] using ⟨l, listed, rfl⟩

end Problem.IsSchedule

end Timetabling
