import Timetabling.Problem.Resource
import Timetabling.Problem.Basic

/-!
# Auditing a timetable

Checks a list of assignments, in order, against every hard constraint. A double booking is reported
once for each earlier assignment that it collides with. An assignment to an unknown section or
classroom is reported and then left out of the remaining checks.
-/

namespace Timetabling

inductive Violation where
  | unknownSection (sectionId slotKey : String)
  | unknownClassroom (sectionId classroomId slotKey : String)
  | repeatedSection (sectionId slotKey : String)
  | smallClassroom (sec : Section) (room : Classroom) (slotKey : String)
  | doubleBooking (resource : Resource) (earlier later slotKey : String)
deriving DecidableEq, Repr

namespace Violation

def kind : Violation → String
  | unknownSection .. => "unknown_section"
  | unknownClassroom .. => "unknown_classroom"
  | repeatedSection .. => "duplicate_section"
  | smallClassroom .. => "classroom_capacity"
  | doubleBooking resource .. => resource.kind.name ++ "_conflict"

def description : Violation → String
  | unknownSection sectionId _ => "Assignment references unknown section " ++ sectionId
  | unknownClassroom sectionId classroomId _ =>
    "Section " ++ sectionId ++ " is placed in unknown classroom " ++ classroomId
  | repeatedSection sectionId _ => "Section " ++ sectionId ++ " is assigned more than once"
  | smallClassroom sec room _ =>
    "Classroom " ++ room.id ++ " capacity (" ++ toString room.capacity ++ ") < section " ++
      sec.id ++ " capacity (" ++ toString sec.capacity ++ ")"
  | doubleBooking ⟨.instructor, id⟩ earlier later key =>
    "Instructor " ++ id ++ " double-booked at " ++ key ++ ": " ++ earlier ++ " and " ++ later
  | doubleBooking ⟨.classroom, id⟩ earlier later key =>
    "Classroom " ++ id ++ " double-booked at " ++ key ++ ": " ++ earlier ++ " and " ++ later
  | doubleBooking ⟨.student, id⟩ earlier later key =>
    "Student " ++ id ++ " has " ++ earlier ++ " and " ++ later ++ " at " ++ key

/-- The sections concerned, the earlier one first. -/
def sectionIds : Violation → List String
  | unknownSection sectionId _ => [sectionId]
  | unknownClassroom sectionId _ _ => [sectionId]
  | repeatedSection sectionId _ => [sectionId]
  | smallClassroom sec _ _ => [sec.id]
  | doubleBooking _ earlier later _ => [earlier, later]

def resourceId? : Violation → Option String
  | unknownSection .. => none
  | unknownClassroom _ classroomId _ => some classroomId
  | repeatedSection .. => none
  | smallClassroom _ room _ => some room.id
  | doubleBooking resource .. => some resource.id

def slotKey : Violation → String
  | unknownSection _ key => key
  | unknownClassroom _ _ key => key
  | repeatedSection _ key => key
  | smallClassroom _ _ key => key
  | doubleBooking _ _ _ key => key

end Violation

/-- Who booked each resource at which slot key, in the order of the bookings. -/
structure Bookings where
  owners : Std.TreeMap Resource (List (String × String)) Resource.order := ∅

namespace Bookings

def all (b : Bookings) (resource : Resource) : List (String × String) :=
  b.owners.getD resource []

def holders (b : Bookings) (resource : Resource) (key : String) : List String :=
  ((b.all resource).filter fun booking => booking.1 == key).map Prod.snd

def add (b : Bookings) (resource : Resource) (key sectionId : String) : Bookings :=
  ⟨b.owners.insert resource (b.all resource ++ [(key, sectionId)])⟩

end Bookings

structure AuditState where
  bookings : Bookings := {}
  seen : List String := []

namespace AuditState

/-- Books a resource for a section and reports every section that already has it. -/
def book (s : AuditState) (resource : Resource) (key sectionId : String) :
    AuditState × List Violation :=
  ({ s with bookings := s.bookings.add resource key sectionId },
    (s.bookings.holders resource key).map fun earlier =>
      .doubleBooking resource earlier sectionId key)

def bookAll (s : AuditState) (key sectionId : String) :
    List Resource → AuditState × List Violation
  | [] => (s, [])
  | resource :: rest =>
    let (s', found) := s.book resource key sectionId
    let (s'', more) := s'.bookAll key sectionId rest
    (s'', found ++ more)

def checkKnown (s : AuditState) (sec : Section) (room : Classroom) (students : List String)
    (key : String) : AuditState × List Violation :=
  let repeated := if s.seen.contains sec.id then [.repeatedSection sec.id key] else []
  let small := if room.capacity < sec.capacity then [.smallClassroom sec room key] else []
  let resources : List Resource :=
    ⟨.instructor, sec.instructor⟩ :: ⟨.classroom, room.id⟩ :: students.map fun t => ⟨.student, t⟩
  let (s', found) := { s with seen := sec.id :: s.seen }.bookAll key sec.id resources
  (s', repeated ++ small ++ found)

def check (p : Problem) (s : AuditState) (a : Assignment) : AuditState × List Violation :=
  match p.section? a.sectionId with
  | none => (s, [.unknownSection a.sectionId a.slotKey])
  | some sec =>
    match p.classroom? a.classroomId with
    | none => (s, [.unknownClassroom sec.id a.classroomId a.slotKey])
    | some room => s.checkKnown sec room (p.studentsOf sec.id) a.slotKey

def run (p : Problem) (s : AuditState) : List Assignment → List Violation
  | [] => []
  | a :: rest =>
    let (s', found) := s.check p a
    found ++ s'.run p rest

end AuditState

namespace Problem

/-- Every violation of a hard constraint by a list of assignments. -/
def violations (p : Problem) (assignments : List Assignment) : List Violation :=
  AuditState.run p {} assignments

def unassigned (p : Problem) (assignments : List Assignment) : List Section :=
  let assigned := assignments.map Assignment.sectionId
  p.sections.filter fun sec => !assigned.contains sec.id

end Problem

end Timetabling
