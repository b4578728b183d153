import Timetabling.Search.Locus

/-!
# Variation

How new genomes are made from old ones: crossover swaps the tails of two genomes, mutation draws one
gene anew.
-/

namespace Timetabling.Genome

variable {σ : Type} [RandomSource σ]

def swapTails (point : Nat) (a b : Genome) : Genome × Genome :=
  (a.take point ++ b.drop point, b.take point ++ a.drop point)

theorem length_swapTails {point : Nat} {a b : Genome} (h : a.length = b.length) :
    (swapTails point a b).1.length = a.length ∧ (swapTails point a b).2.length = a.length := by
  simp only [swapTails, List.length_append, List.length_take, List.length_drop]
  omega

/-- Swaps tails at a random point that leaves both sides of the first genome something. -/
def crossover (a b : Genome) (s : σ) : (Genome × Genome) × σ :=
  if a.length < 2 then ((a, b), s)
  else
    let (k, s') := RandomSource.below (a.length - 1) s
    (swapTails (k + 1) a b, s')

/-- Draws one gene anew, with the given probability. There is no result if the gene has no locus. -/
def mutate? (slots : List TimeSlot) (loci : List Locus) (rate : Binary64) (genome : Genome)
    (s : σ) : Option Genome × σ :=
  if genome.isEmpty then (some genome, s)
  else
    let (u, s₁) := RandomSource.unit s
    if rate.le u then (some genome, s₁)
    else
      let (i, s₂) := RandomSource.below genome.length s₁
      match loci[i]? with
      | none => (none, s₂)
      | some l =>
        let (gene, s₃) := l.randomPlacement slots s₂
        (some (genome.set i gene), s₃)

def mutate (slots : List TimeSlot) (loci : List Locus) (rate : Binary64) (genome : Genome) (s : σ) :
    Genome × σ :=
  let (mutant?, s') := mutate? slots loci rate genome s
  (mutant?.getD genome, s')

end Timetabling.Genome
