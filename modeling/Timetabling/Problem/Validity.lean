import Timetabling.Failure
import Timetabling.Problem.Basic

/-!
# Validity of problems

What a problem must satisfy before it is given to a solver. `Problem.fault?` reports the first
fault, and only the offenders against the rule that is broken first.
-/

namespace Timetabling

inductive ProblemFault where
  | noClassrooms
  | noSlots
  | sectionCapacity (ids : List String)
  | classroomCapacity (ids : List String)
  | repeatedSections
  | repeatedClassrooms
  | unknownSections (ids : List String)
deriving DecidableEq, Repr

namespace ProblemFault

def message : ProblemFault → String
  | noClassrooms => "At least one classroom is required for timetable generation"
  | noSlots => "At least one time slot is required for timetable generation"
  | sectionCapacity _ => "Section capacity must be positive"
  | classroomCapacity _ => "Classroom capacity must be positive"
  | repeatedSections => "Section ids must be unique"
  | repeatedClassrooms => "Classroom ids must be unique"
  | unknownSections _ => "Student enrollments reference unknown sections"

def details : ProblemFault → List (String × Value)
  | sectionCapacity ids => [("section_ids", .list (ids.map .text))]
  | classroomCapacity ids => [("classroom_ids", .list (ids.map .text))]
  | unknownSections ids => [("section_ids", .list (ids.map .text))]
  | _ => []

def failure (fault : ProblemFault) : Failure :=
  .of .invalidInput fault.message fault.details

end ProblemFault

/-- The identifiers named in enrollments that are not among the known ones, in order and each once.
-/
def unknownIds (known : List String) (enrollments : List (String × List String)) : List String :=
  Text.sortedSet ((enrollments.flatMap Prod.snd).filter fun id => !known.contains id)

namespace Problem

def emptySections (p : Problem) : List Section :=
  p.sections.filter fun sec => decide (sec.capacity ≤ 0)

def emptyClassrooms (p : Problem) : List Classroom :=
  p.classrooms.filter fun room => decide (room.capacity ≤ 0)

def unknownSections (p : Problem) : List String :=
  unknownIds p.sectionIds p.enrollments

def fault? (p : Problem) : Option ProblemFault :=
  if p.classrooms.isEmpty then some .noClassrooms
  else if !p.sections.isEmpty && p.slots.isEmpty then some .noSlots
  else if !p.emptySections.isEmpty then some (.sectionCapacity (p.emptySections.map Section.id))
  else if !p.emptyClassrooms.isEmpty then
    some (.classroomCapacity (p.emptyClassrooms.map Classroom.id))
  else if ¬p.sectionIds.Nodup then some .repeatedSections
  else if ¬p.classroomIds.Nodup then some .repeatedClassrooms
  else if !p.unknownSections.isEmpty then some (.unknownSections p.unknownSections)
  else none

end Problem

end Timetabling
