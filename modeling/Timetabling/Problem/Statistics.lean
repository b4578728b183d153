import Timetabling.Number.Quotient
import Timetabling.Problem.Basic

/-!
# Statistics of a timetable

What is reported about a list of assignments: how many sections it places, and how many assignments
an average classroom has.
-/

namespace Timetabling

inductive Method where
  | backtracking
  | genetic
  | other (name : String)
deriving DecidableEq, Repr

namespace Method

def name : Method → String
  | backtracking => "backtracking"
  | genetic => "genetic"
  | other name => name

def ofName : String → Method
  | "backtracking" => backtracking
  | "genetic" => genetic
  | name => other name

end Method

structure Statistics where
  total : Nat
  assigned : Nat
  unassigned : Int
  usage : Binary64
  method : Method
  generations : Option Int := none
  fitness : Option Binary64 := none
  steps : Option Int := none
deriving DecidableEq, Repr

structure Timetable where
  assignments : List Assignment
  statistics : Statistics
deriving DecidableEq, Repr

def classroomUses (classrooms : List Classroom) (assignments : List Assignment) : List Assignment :=
  classrooms.flatMap fun room => assignments.filter fun a => a.classroomId == room.id

/-- The mean number of assignments of a classroom; zero where there are no classrooms. -/
def averageUsage (classrooms : List Classroom) (assignments : List Assignment) : Binary64 :=
  if classrooms.isEmpty then .zero false
  else .ofRatio false (classroomUses classrooms assignments).length classrooms.length

namespace Problem

def statistics (p : Problem) (assignments : List Assignment) (method : Method) : Statistics :=
  let assigned := (assignments.map Assignment.sectionId).eraseDups.length
  { total := p.sections.length
    assigned := assigned
    unassigned := (p.sections.length : Int) - assigned
    usage := averageUsage p.classrooms assignments
    method := method }

end Problem

end Timetabling
