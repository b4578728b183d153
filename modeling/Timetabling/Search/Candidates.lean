import Timetabling.Problem.Conflict
import Timetabling.Sorting

/-!
# Candidate placements

The placements that the exact search tries for a session: large enough classrooms, the least used
first and among equally used ones the largest first, each with every slot in the given order.
-/

namespace Timetabling

/-- Whether a classroom is to be tried no later than another. -/
def Reservations.prefers (r : Reservations) (a b : Classroom) : Bool :=
  let usedA := r.usage ⟨.classroom, a.id⟩
  let usedB := r.usage ⟨.classroom, b.id⟩
  usedA < usedB || (usedA == usedB && decide (b.capacity ≤ a.capacity))

def eligibleClassrooms (classrooms : List Classroom) (sec : Section) : List Classroom :=
  classrooms.filter fun room => decide (sec.capacity ≤ room.capacity)

def Problem.candidateClassrooms (p : Problem) (sec : Section) (r : Reservations) :
    List Classroom :=
  stableSort r.prefers (eligibleClassrooms p.classrooms sec)

def Problem.candidates (p : Problem) (sec : Section) (r : Reservations) : List Placement :=
  (p.candidateClassrooms sec r).flatMap fun room => p.slots.map fun slot => ⟨room, slot⟩

theorem Problem.length_candidates_le (p : Problem) (sec : Section) (r : Reservations) :
    (p.candidates sec r).length ≤ p.classrooms.length * p.slots.length := by
  have hlen : (p.candidates sec r).length =
      (p.candidateClassrooms sec r).length * p.slots.length := by
    simp [candidates, List.length_flatMap, List.map_const', Nat.mul_comm]
  have hle : (p.candidateClassrooms sec r).length ≤ p.classrooms.length := by
    simp only [candidateClassrooms, stableSort_eq_mergeSort, List.length_mergeSort]
    exact List.length_filter_le _ _
  rw [hlen]
  exact Nat.mul_le_mul_right _ hle

end Timetabling
