import Timetabling.Calendar.SlotKey
import Timetabling.Json.Value
import Timetabling.Text.Order

/-!
# Timetabling problems

Sections are to be taught in classrooms at time slots. A problem lists all three, the slot keys that
each instructor prefers and the sections that each student attends. `Problem.build` makes a problem
from raw lists: what is repeated within a list is dropped, and a repeated instructor or student
keeps the first place and the last value.
-/

namespace Timetabling

structure Section where
  id : String
  instructor : String
  capacity : Int
  required : Bool := false
deriving DecidableEq, Repr

structure Classroom where
  id : String
  capacity : Int
  features : List String := []
deriving DecidableEq, Repr

structure TimeSlot where
  day : String
  start : String
  finish : String
deriving DecidableEq, Repr

def TimeSlot.key (slot : TimeSlot) : String :=
  SlotKey.of slot.day slot.start slot.finish

structure Placement where
  classroom : Classroom
  slot : TimeSlot
deriving DecidableEq, Repr

structure Assignment where
  sectionId : String
  classroomId : String
  slot : TimeSlot
deriving DecidableEq, Repr

namespace Assignment

def slotKey (a : Assignment) : String :=
  a.slot.key

def place (sec : Section) (placement : Placement) : Assignment :=
  ⟨sec.id, placement.classroom.id, placement.slot⟩

end Assignment

structure Session extends Section where
  students : List String := []
deriving DecidableEq, Repr

structure Problem where
  sections : List Section
  classrooms : List Classroom
  slots : List TimeSlot
  preferences : List (String × List String) := []
  enrollments : List (String × List String) := []
deriving DecidableEq, Repr

namespace Problem

def build (sections : List Section) (classrooms : List Classroom) (slots : List TimeSlot)
    (preferences enrollments : List (String × List String)) : Problem where
  sections := sections
  classrooms := classrooms
  slots := slots.eraseDups
  preferences := Entries.collect (preferences.map fun (id, keys) => (id, keys.eraseDups))
  enrollments := Entries.collect (enrollments.map fun (id, ids) => (id, ids.eraseDups))

/-- The students whose list names the section, in the order of the enrollments. -/
def studentsOf (p : Problem) (sectionId : String) : List String :=
  (p.enrollments.filter fun entry => entry.2.contains sectionId).map Prod.fst

/-- The students of every section, and of every identifier that students name without there being
such a section. -/
def rosters (p : Problem) : List (String × List String) :=
  (Text.sortedSet (p.sections.map Section.id ++ p.enrollments.flatMap Prod.snd)).map fun id =>
    (id, p.studentsOf id)

def session (p : Problem) (sec : Section) : Session :=
  { sec with students := p.studentsOf sec.id }

def sessions (p : Problem) : List Session :=
  p.sections.map p.session

def preferredKeys (p : Problem) (instructor : String) : List String :=
  (Entries.get? instructor p.preferences).getD []

/-- The section of an identifier, the last one if it is repeated. -/
def section? (p : Problem) (id : String) : Option Section :=
  p.sections.reverse.find? fun sec => sec.id == id

def classroom? (p : Problem) (id : String) : Option Classroom :=
  p.classrooms.reverse.find? fun room => room.id == id

def sectionIds (p : Problem) : List String :=
  p.sections.map Section.id

def classroomIds (p : Problem) : List String :=
  p.classrooms.map Classroom.id

end Problem

/-- Whether a section is to be placed no later than another: required sections come first, larger
ones before smaller. -/
def Section.precedes (a b : Section) : Bool :=
  (a.required && !b.required) || (a.required == b.required && decide (b.capacity ≤ a.capacity))

/-- The sections in the order in which they are placed; ties keep the given order. -/
def priorityOrder (sections : List Section) : List Section :=
  stableSort Section.precedes sections

end Timetabling
