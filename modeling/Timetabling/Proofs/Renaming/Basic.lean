import Timetabling.Problem.Statistics
import Timetabling.Proofs.Schedule
import Timetabling.Search.Locus
import Timetabling.Sorting

/-!
# Problems under new names

A renaming gives new names to the identifiers of sections, classrooms, instructors and students.
`Renaming.Carries` relates a problem to another one that is the same under new names, as far as a
solve can tell: of the students it asks nothing but which sections share one. Lessons of two
different sections clash under the new names exactly if they clash under the old ones.
-/

namespace Timetabling

/-- Sorting does not see a change of the items that the order does not see. -/
theorem stableSort_map {α β : Type} {f : α → β} {le : α → α → Bool} {le' : β → β → Bool}
    (same : ∀ a b, le' (f a) (f b) = le a b) (items : List α) :
    stableSort le' (items.map f) = (stableSort le items).map f := by
  rw [stableSort_eq_mergeSort, stableSort_eq_mergeSort]
  symm
  apply List.map_mergeSort
  intro a _ b _
  exact (same a b).symm

theorem eraseDups_map {α β : Type} [DecidableEq α] [DecidableEq β] {f : α → β}
    (injective : Function.Injective f) (items : List α) :
    (items.map f).eraseDups = items.eraseDups.map f := by
  -- The induction is on the length: what is left of a list without its first item is shorter.
  induction size : items.length using Nat.strongRecOn generalizing items with
  | ind n ih =>
    cases items with
    | nil => rfl
    | cons first rest =>
      have others : (rest.map f).filter (fun item => !item == f first) =
          (rest.filter fun item => !item == first).map f := by
        rw [List.filter_map]
        congr 2
        funext item
        simp only [Function.comp_apply, injective.beq_eq]
      have shorter : (rest.filter fun item => !item == first).length < n := by
        rw [← size, List.length_cons]
        exact Nat.lt_succ_of_le (List.length_filter_le _ _)
      rw [List.map_cons, List.eraseDups_cons, List.eraseDups_cons, others, List.map_cons,
        ih _ shorter _ rfl]

/-- New names for identifiers. No two identifiers of one kind have the same new name, but two of
different kinds may have. -/
structure Renaming where
  sectionId : String → String
  classroomId : String → String
  instructor : String → String
  student : String → String
  sectionId_injective : Function.Injective sectionId
  classroomId_injective : Function.Injective classroomId
  instructor_injective : Function.Injective instructor
  student_injective : Function.Injective student

namespace Renaming

def refl : Renaming where
  sectionId := id
  classroomId := id
  instructor := id
  student := id
  sectionId_injective := Function.injective_id
  classroomId_injective := Function.injective_id
  instructor_injective := Function.injective_id
  student_injective := Function.injective_id

variable (ρ : Renaming)

def sec (s : Section) : Section :=
  { s with id := ρ.sectionId s.id, instructor := ρ.instructor s.instructor }

def room (r : Classroom) : Classroom :=
  { r with id := ρ.classroomId r.id }

def placement (c : Placement) : Placement :=
  ⟨ρ.room c.classroom, c.slot⟩

def assignment (a : Assignment) : Assignment :=
  ⟨ρ.sectionId a.sectionId, ρ.classroomId a.classroomId, a.slot⟩

def timetable (t : Timetable) : Timetable :=
  { t with assignments := t.assignments.map ρ.assignment }

def gene (gene : Option Placement) : Option Placement :=
  gene.map ρ.placement

def genome (genome : Genome) : Genome :=
  genome.map ρ.gene

def session (q : Problem) (s : Session) : Session :=
  q.session (ρ.sec s.toSection)

def lesson (q : Problem) (l : Lesson) : Lesson :=
  ⟨ρ.session q l.session, ρ.placement l.placement⟩

/-- The second problem is the first one under new names. The students of the two may be different
ones and attend in a different order, as long as the same sections share a student. -/
structure Carries (p q : Problem) : Prop where
  sections_eq : q.sections = p.sections.map ρ.sec
  classrooms_eq : q.classrooms = p.classrooms.map ρ.room
  slots_eq : q.slots = p.slots
  preferredKeys_eq : ∀ instructor,
    q.preferredKeys (ρ.instructor instructor) = p.preferredKeys instructor
  shared_iff : ∀ a ∈ p.sections, ∀ b ∈ p.sections, a.id ≠ b.id →
    ((∃ student ∈ q.studentsOf (ρ.sectionId a.id), student ∈ q.studentsOf (ρ.sectionId b.id)) ↔
      ∃ student ∈ p.studentsOf a.id, student ∈ p.studentsOf b.id)

variable {ρ}

theorem eligibleClassrooms_map (rooms : List Classroom) (s : Section) :
    eligibleClassrooms (rooms.map ρ.room) (ρ.sec s) = (eligibleClassrooms rooms s).map ρ.room :=
  List.filter_map

theorem priorityOrder_map (sections : List Section) :
    priorityOrder (sections.map ρ.sec) = (priorityOrder sections).map ρ.sec :=
  stableSort_map (fun _ _ => rfl) sections

@[simp] theorem slotKey_lesson (q : Problem) (l : Lesson) :
    (ρ.lesson q l).slotKey = l.slotKey := rfl

theorem keysIn_map (q : Problem) (lessons : List Lesson) (classroomId : String) :
    Lesson.keysIn (lessons.map (ρ.lesson q)) (ρ.classroomId classroomId) =
      Lesson.keysIn lessons classroomId := by
  ext key
  simp only [Lesson.mem_keysIn, List.mem_map, exists_exists_and_eq_and, slotKey_lesson]
  refine exists_congr fun l => and_congr_right fun _ => and_congr_right fun _ => ?_
  exact ρ.classroomId_injective.eq_iff

theorem classroomUses_map (rooms : List Classroom) (assignments : List Assignment) :
    classroomUses (rooms.map ρ.room) (assignments.map ρ.assignment) =
      (classroomUses rooms assignments).map ρ.assignment := by
  unfold classroomUses
  rw [List.flatMap_map, List.map_flatMap]
  congr 1
  funext room
  rw [List.filter_map]
  congr 2
  funext a
  exact ρ.classroomId_injective.beq_eq

theorem averageUsage_map (rooms : List Classroom) (assignments : List Assignment) :
    averageUsage (rooms.map ρ.room) (assignments.map ρ.assignment) =
      averageUsage rooms assignments := by
  unfold averageUsage
  rw [classroomUses_map, List.length_map, List.length_map, List.isEmpty_map]

theorem decode_map (sections : List Section) (genome : Genome) :
    (ρ.genome genome).decode (sections.map ρ.sec) =
      (genome.decode sections).map ρ.assignment := by
  unfold Genome.decode Renaming.genome
  rw [List.zip_map, List.filterMap_map, List.map_filterMap]
  congr 1
  funext ⟨sec, gene⟩
  cases gene <;> rfl

namespace Carries

variable {p q : Problem} (carries : ρ.Carries p q)

include carries

theorem statistics_eq (assignments : List Assignment) (method : Method) :
    q.statistics (assignments.map ρ.assignment) method = p.statistics assignments method := by
  have assigned : ((assignments.map ρ.assignment).map Assignment.sectionId).eraseDups.length =
      (assignments.map Assignment.sectionId).eraseDups.length := by
    have renamed : (assignments.map ρ.assignment).map Assignment.sectionId =
        (assignments.map Assignment.sectionId).map ρ.sectionId := by
      rw [List.map_map, List.map_map]
      rfl
    rw [renamed, eraseDups_map ρ.sectionId_injective, List.length_map]
  unfold Problem.statistics
  simp only [assigned, carries.sections_eq, carries.classrooms_eq, averageUsage_map,
    List.length_map]

theorem clash_iff {a b : Lesson} (first : a.session ∈ p.sessions) (second : b.session ∈ p.sessions)
    (different : a.session.id ≠ b.session.id) :
    (ρ.lesson q a).Clash (ρ.lesson q b) ↔ a.Clash b := by
  obtain ⟨⟨s, ofFirst⟩, c⟩ := a
  obtain ⟨⟨t, ofSecond⟩, d⟩ := b
  obtain ⟨s', knownFirst, sameFirst⟩ := List.mem_map.mp first
  obtain ⟨t', knownSecond, sameSecond⟩ := List.mem_map.mp second
  obtain ⟨rfl, rfl⟩ := Session.mk.inj sameFirst
  obtain ⟨rfl, rfl⟩ := Session.mk.inj sameSecond
  refine and_congr_right fun _ => ?_
  apply or_congr
  · exact ρ.instructor_injective.eq_iff
  · apply or_congr
    · exact ρ.classroomId_injective.eq_iff
    · exact carries.shared_iff s' knownFirst t' knownSecond different

end Carries

end Renaming

/-- Sessions of a problem, each with an identifier of its own. -/
structure Problem.Listed (p : Problem) (sessions : List Session) : Prop where
  known : ∀ s ∈ sessions, s ∈ p.sessions
  nodup : (sessions.map fun s => s.id).Nodup

namespace Problem.Listed

variable {p : Problem} {session : Session} {later : List Session} {lessons : List Lesson}

theorem perm {first second : List Session} (listed : p.Listed first) (same : first.Perm second) :
    p.Listed second where
  known s membership := listed.known s (same.mem_iff.mpr membership)
  nodup := (same.map _).nodup_iff.mp listed.nodup

theorem tail (listed : p.Listed (session :: later)) : p.Listed later where
  known s membership := listed.known s (List.mem_cons_of_mem _ membership)
  nodup := listed.nodup.of_cons

theorem place (listed : p.Listed (session :: later ++ lessons.map Lesson.session)) (c : Placement) :
    p.Listed (later ++ (⟨session, c⟩ :: lessons).map Lesson.session) :=
  listed.perm List.perm_middle.symm

theorem clash_iff {ρ : Renaming} {q : Problem} (carries : ρ.Carries p q)
    (listed : p.Listed (session :: later ++ lessons.map Lesson.session)) (c : Placement)
    {other : Lesson} (membership : other ∈ lessons) :
    (ρ.lesson q ⟨session, c⟩).Clash (ρ.lesson q other) ↔ (⟨session, c⟩ : Lesson).Clash other := by
  have member : other.session ∈ later ++ lessons.map Lesson.session :=
    List.mem_append_right _ (List.mem_map_of_mem membership)
  apply carries.clash_iff
  · exact listed.known session List.mem_cons_self
  · exact listed.known other.session (List.mem_cons_of_mem _ member)
  · intro same
    have fresh := (List.nodup_cons.mp listed.nodup).1
    exact fresh (List.mem_map.mpr ⟨other.session, member, same.symm⟩)

theorem separate_iff {ρ : Renaming} {q : Problem} (carries : ρ.Carries p q)
    (listed : p.Listed (session :: later ++ lessons.map Lesson.session)) (c : Placement) :
    (∀ other ∈ lessons.map (ρ.lesson q), ¬ (ρ.lesson q ⟨session, c⟩).Clash other) ↔
      ∀ other ∈ lessons, ¬ (⟨session, c⟩ : Lesson).Clash other := by
  rw [List.forall_mem_map]
  refine forall₂_congr fun other membership => not_congr ?_
  exact listed.clash_iff carries c membership

end Problem.Listed

theorem Problem.listed_sessions {p : Problem} (nodup : p.sectionIds.Nodup) :
    p.Listed p.sessions where
  known _ membership := membership
  nodup := by
    rw [Problem.sessions, List.map_map]
    exact nodup

end Timetabling
