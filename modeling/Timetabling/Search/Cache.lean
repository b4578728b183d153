import Timetabling.Order
import Timetabling.Search.Evaluation

/-!
# Evaluation cache

Evaluations already made, by genome. Placements are ordered by all that they hold, so two genomes
share an entry only if they are equal.
-/

namespace Timetabling

instance : Ord Classroom :=
  ⟨compareLex (compareOn Classroom.id)
    (compareLex (compareOn Classroom.capacity) (compareOn Classroom.features))⟩

instance : Std.TransOrd Classroom :=
  inferInstanceAs (Std.TransCmp (compareLex (compareOn Classroom.id)
    (compareLex (compareOn Classroom.capacity) (compareOn Classroom.features))))

instance : Std.LawfulEqOrd Classroom where
  eq_of_compare {a b} h := by
    simp only [compare, compareLex_eq_eq] at h
    have hi : a.id = b.id := eq_of_compareOn h.1
    have hc : a.capacity = b.capacity := eq_of_compareOn h.2.1
    have hf : a.features = b.features := eq_of_compareOn h.2.2
    cases a
    cases b
    simp_all

instance : Ord TimeSlot :=
  ⟨compareLex (compareOn TimeSlot.day)
    (compareLex (compareOn TimeSlot.start) (compareOn TimeSlot.finish))⟩

instance : Std.TransOrd TimeSlot :=
  inferInstanceAs (Std.TransCmp (compareLex (compareOn TimeSlot.day)
    (compareLex (compareOn TimeSlot.start) (compareOn TimeSlot.finish))))

instance : Std.LawfulEqOrd TimeSlot where
  eq_of_compare {a b} h := by
    simp only [compare, compareLex_eq_eq] at h
    have hd : a.day = b.day := eq_of_compareOn h.1
    have hs : a.start = b.start := eq_of_compareOn h.2.1
    have hf : a.finish = b.finish := eq_of_compareOn h.2.2
    cases a
    cases b
    simp_all

instance : Ord Placement :=
  ⟨compareLex (compareOn Placement.classroom) (compareOn Placement.slot)⟩

instance : Std.TransOrd Placement :=
  inferInstanceAs
    (Std.TransCmp (compareLex (compareOn Placement.classroom) (compareOn Placement.slot)))

instance : Std.LawfulEqOrd Placement where
  eq_of_compare {a b} h := by
    simp only [compare, compareLex_eq_eq] at h
    have hc : a.classroom = b.classroom := eq_of_compareOn h.1
    have hs : a.slot = b.slot := eq_of_compareOn h.2
    cases a
    cases b
    simp_all

structure EvaluationCache where
  known : Std.TreeMap Genome Evaluation compare := ∅

namespace EvaluationCache

def size (cache : EvaluationCache) : Nat :=
  cache.known.size

/-- The evaluation of a genome, made only if it is not yet known. A failure is not remembered. -/
def evaluate (loci : List Locus) (genome : Genome) (cache : EvaluationCache) :
    Except ArithmeticFault Evaluation × EvaluationCache :=
  match cache.known[genome]? with
  | some e => (.ok e, cache)
  | none =>
    match genome.evaluate loci with
    | .ok e => (.ok e, ⟨cache.known.insert genome e⟩)
    | .error fault => (.error fault, cache)

end EvaluationCache

end Timetabling
