import Timetabling.Number.Quotient
import Timetabling.Search.Locus

/-!
# Evaluation of genomes

Replays the genes in order on fresh reservations and adds up what each of them earns: a reward for a
placement, bonuses for a preferred slot and for a well filled classroom, penalties for a conflict
and for a section that is left out. A conflicting placement is reserved all the same.
-/

namespace Timetabling

structure Evaluation where
  fitness : Int
  violations : Nat
  unassigned : Nat
deriving DecidableEq, Repr

namespace Evaluation

def assignedReward : Int := 100

def preferenceBonus : Int := 20

def fillBonus : Int := 10

def violationPenalty : Int := 100

def unassignedPenalty : Int := 50

def zero : Evaluation :=
  ⟨0, 0, 0⟩

def add (a b : Evaluation) : Evaluation :=
  ⟨a.fitness + b.fitness, a.violations + b.violations, a.unassigned + b.unassigned⟩

def feasible (e : Evaluation) : Bool :=
  e.violations == 0 && e.unassigned == 0

/-- Whether a classroom is filled well: more than seven tenths and less than nineteen twentieths. -/
def wellFilled (ratio : Binary64) : Bool :=
  (Binary64.ofRatio false 7 10).lt ratio && ratio.lt (.ofRatio false 19 20)

end Evaluation

/-- What a gene earns on top of the reservations of the genes before it. -/
def Locus.score (l : Locus) (gene : Option Placement) (r : Reservations) :
    Except ArithmeticFault Evaluation :=
  match gene with
  | none => .ok ⟨-Evaluation.unassignedPenalty, 0, 1⟩
  | some c => do
    let ratio ← quotient l.session.capacity c.classroom.capacity
    let violated := (conflict? l.session c r).isSome
    return {
      fitness := Evaluation.assignedReward
        - (if violated then Evaluation.violationPenalty else 0)
        + (if l.preferred.contains c.slot.key then Evaluation.preferenceBonus else 0)
        + (if Evaluation.wellFilled ratio then Evaluation.fillBonus else 0)
      violations := if violated then 1 else 0
      unassigned := 0 }

namespace Genome

def evaluateFrom : List Locus → Genome → Reservations → Except ArithmeticFault Evaluation
  | l :: ls, gene :: genes, r => do
    let head ← l.score gene r
    let tail ← evaluateFrom ls genes (l.reserve gene r)
    return head.add tail
  | _, _, _ => .ok .zero

def evaluate (loci : List Locus) (genome : Genome) : Except ArithmeticFault Evaluation :=
  evaluateFrom loci genome {}

end Genome

end Timetabling
