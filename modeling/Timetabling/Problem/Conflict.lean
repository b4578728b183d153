import Timetabling.Problem.Reservations

/-!
# Conflicts

The hard constraints on one placement, checked against the reservations made so far. `conflict?`
names the first constraint that is broken, in the order instructor, classroom, students, capacity.
-/

namespace Timetabling

inductive Conflict where
  | instructor
  | classroom
  | student
  | capacity
deriving DecidableEq, Repr

def Conflict.kind : Conflict → String
  | instructor => "instructor_conflict"
  | classroom => "classroom_conflict"
  | student => "student_conflict"
  | capacity => "classroom_capacity"

/-- The first constraint broken by putting a session at a placement. -/
def conflict? (session : Session) (placement : Placement) (reservations : Reservations) :
    Option Conflict :=
  let key := placement.slot.key
  if !reservations.isFree ⟨.instructor, session.instructor⟩ key then some .instructor
  else if !reservations.isFree ⟨.classroom, placement.classroom.id⟩ key then some .classroom
  else if session.students.any fun s => !reservations.isFree ⟨.student, s⟩ key then some .student
  else if placement.classroom.capacity < session.capacity then some .capacity
  else none

def fits (session : Session) (placement : Placement) (reservations : Reservations) : Bool :=
  (conflict? session placement reservations).isNone

end Timetabling
