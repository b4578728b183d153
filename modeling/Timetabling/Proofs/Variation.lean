import Mathlib.Data.Sym.Sym2
import Timetabling.Proofs.Accounting
import Timetabling.Proofs.Stocked

/-!
# What variation keeps

Crossover shares out the genes of two parents: position by position the children have what the
parents have, cut at one point. Mutation replaces one gene at most, by a placement that the problem
offers to its section. It cannot take a placement away, for where one is eligible a random draw is
one too. So a section that is placed in both parents is placed in both of their offspring.
-/

namespace Timetabling.Genome

variable {σ : Type} [RandomSource σ] {p : Problem} {a b a' b' genome child mutant : Genome}

def Places (genome : Genome) (i : Nat) : Prop :=
  ∃ c, genome[i]? = some (some c)

/-- Whether every placement is one that the problem offers to the section at its position. -/
def Eligible (p : Problem) (genome : Genome) : Prop :=
  ∀ (i : Nat) c, genome[i]? = some (some c) →
    ∃ sec, p.sections[i]? = some sec ∧ p.Offers ⟨p.session sec, c⟩

theorem Admissible.eligible (admissible : genome.Admissible p.slots p.loci) :
    genome.Eligible p := by
  intro i c carried
  obtain ⟨inGenome, -⟩ := List.getElem?_eq_some_iff.mp carried
  rw [admissible.proper.length_eq] at inGenome
  have located := List.getElem?_eq_getElem inGenome
  exact ⟨_, located, Problem.offers_iff.mpr (admissible.admits located carried c rfl)⟩

/-- Two genomes that share out the genes of two others, one from each at every position. Of two
positions or more each of them has the first genes of one and, from some point on, those of the
other. -/
structure Divide (a b a' b' : Genome) : Prop where
  length_first : a'.length = a.length
  length_second : b'.length = a.length
  genes : ∀ i : Nat, s(a'[i]?, b'[i]?) = s(a[i]?, b[i]?)
  point : 2 ≤ a.length → ∃ k, 0 < k ∧ k < a.length ∧ a' = a.take k ++ b.drop k ∧
    b' = b.take k ++ a.drop k

theorem getElem?_take_append_drop {k i : Nat} (bound : k ≤ a.length) :
    (a.take k ++ b.drop k)[i]? = if i < k then a[i]? else b[i]? := by
  have cut : (a.take k).length = k := List.length_take_of_le bound
  by_cases before : i < k
  · rw [if_pos before, List.getElem?_append_left (by omega), List.getElem?_take_of_lt before]
  · rw [if_neg before, List.getElem?_append_right (by omega), cut, List.getElem?_drop]
    congr 1
    omega

theorem divide_crossover (sameLength : a.length = b.length) (s : σ) :
    Divide a b (crossover a b s).1.1 (crossover a b s).1.2 := by
  unfold crossover
  split
  next short => exact ⟨rfl, sameLength.symm, fun _ => rfl, fun long => absurd short (by omega)⟩
  next long =>
    have bound := RandomSource.below_lt (show 0 < a.length - 1 by omega) s
    simp only
    generalize (RandomSource.below (a.length - 1) s).1 = k at bound ⊢
    refine ⟨(length_swapTails sameLength).1, (length_swapTails sameLength).2, ?_,
      fun _ => ⟨k + 1, by omega, by omega, rfl, rfl⟩⟩
    intro i
    rw [swapTails, getElem?_take_append_drop (by omega), getElem?_take_append_drop (by omega)]
    by_cases before : i < k + 1
    · rw [if_pos before, if_pos before]
    · rw [if_neg before, if_neg before]
      exact Sym2.eq_swap

namespace Divide

variable (divide : Divide a b a' b') (isChild : child = a' ∨ child = b')

include divide isChild

theorem length_child : child.length = a.length := by
  rcases isChild with rfl | rfl
  · exact divide.length_first
  · exact divide.length_second

theorem gene_child (i : Nat) : child[i]? = a[i]? ∨ child[i]? = b[i]? := by
  rcases Sym2.eq_iff.mp (divide.genes i) with ⟨first, second⟩ | ⟨first, second⟩ <;>
    rcases isChild with rfl | rfl
  · exact .inl first
  · exact .inr second
  · exact .inr first
  · exact .inl second

theorem eligible (first : a.Eligible p) (second : b.Eligible p) : child.Eligible p := by
  intro i c placed
  rcases divide.gene_child isChild i with ofFirst | ofSecond
  · exact first i c (ofFirst.symm.trans placed)
  · exact second i c (ofSecond.symm.trans placed)

theorem places {i : Nat} (first : a.Places i) (second : b.Places i) : child.Places i := by
  rcases divide.gene_child isChild i with ofFirst | ofSecond
  · rw [Places, ofFirst]
    exact first
  · rw [Places, ofSecond]
    exact second

end Divide

/-- A genome that differs from another at one position at most, and there by an eligible
placement. -/
structure Mutates (p : Problem) (child mutant : Genome) : Prop where
  length_eq : mutant.length = child.length
  gene : ∃ i : Nat, (∀ j, j ≠ i → mutant[j]? = child[j]?) ∧
    (mutant[i]? = child[i]? ∨ ∃ sec c, p.sections[i]? = some sec ∧
      p.Offers ⟨p.session sec, c⟩ ∧ mutant[i]? = some (some c))

namespace Mutates

theorem refl (p : Problem) (child : Genome) : child.Mutates p child :=
  ⟨rfl, 0, fun _ _ => rfl, .inl rfl⟩

theorem places (mutates : child.Mutates p mutant) {i : Nat} (placed : child.Places i) :
    mutant.Places i := by
  obtain ⟨-, j, same, changed⟩ := mutates
  by_cases here : i = j
  · subst here
    rcases changed with same | ⟨-, c, -, -, new⟩
    · rw [Places, same]
      exact placed
    · exact ⟨c, new⟩
  · rw [Places, same i here]
    exact placed

end Mutates

theorem mutates_set (eligible : child.Eligible p) {i : Nat} {sec : Section}
    (located : p.sections[i]? = some sec) (inRange : i < child.length) (s : σ) :
    child.Mutates p (child.set i ((p.locus sec).randomPlacement p.slots s).1) := by
  refine ⟨List.length_set, i, fun j different => List.getElem?_set_ne different.symm, ?_⟩
  rw [List.getElem?_set_self inRange]
  cases drawn : ((p.locus sec).randomPlacement p.slots s).1 with
  | some c =>
    have admits : (p.locus sec).Admits p.slots ((p.locus sec).randomPlacement p.slots s).1 :=
      Locus.admits_randomPlacement s
    exact .inr ⟨sec, c, located, Problem.offers_iff.mpr (admits c drawn), rfl⟩
  | none =>
    left
    have carried := List.getElem?_eq_getElem inRange
    cases gene : child[i] with
    | none => rw [carried, gene]
    | some c =>
      -- What is placed here is eligible, so a draw cannot come out empty.
      rw [gene] at carried
      obtain ⟨sec', located', offers⟩ := eligible i c carried
      obtain rfl : sec = sec' := Option.some.inj (located.symm.trans located')
      obtain ⟨eligibleRoom, offered⟩ := Problem.offers_iff.mp offers
      obtain ⟨c', s', placed, -, -⟩ := Locus.exists_randomPlacement_eq_some
        (List.ne_nil_of_mem eligibleRoom) (List.ne_nil_of_mem offered) s
      rw [placed] at drawn
      cases drawn

theorem mutates_mutate (eligible : child.Eligible p) (rate : Binary64) (s : σ) :
    child.Mutates p (child.mutate p.slots p.loci rate s).1 := by
  change child.Mutates p ((child.mutate? p.slots p.loci rate s).1.getD child)
  rcases mutate?_cases p.slots p.loci rate child s with unchanged | ⟨i, s', inRange, changed⟩
  · rw [unchanged]
    exact .refl p child
  · rw [changed, Problem.loci, List.getElem?_map]
    cases located : p.sections[i]? with
    | none => exact .refl p child
    | some sec => exact mutates_set eligible located inRange s'

theorem mutate?_eq_some_mutate (complete : child.length ≤ p.sections.length) (rate : Binary64)
    (s : σ) :
    (child.mutate? p.slots p.loci rate s).1 = some (child.mutate p.slots p.loci rate s).1 := by
  change _ = some ((child.mutate? p.slots p.loci rate s).1.getD child)
  rcases mutate?_cases p.slots p.loci rate child s with unchanged | ⟨i, s', inRange, changed⟩
  · rw [unchanged, Option.getD_some]
  · have located := List.getElem?_eq_getElem (inRange.trans_le complete)
    rw [changed, Problem.loci, List.getElem?_map, located, Option.map_some, Option.map_some,
      Option.getD_some]

/-- Whatever is drawn, two parents of one length with eligible placements are shared out among two
children, and a mutation of a child keeps every section placed that the child places. -/
theorem variation_keeps_genes (p : Problem) (rate : Binary64) (a b : Genome) (s s' : σ)
    (sameLength : a.length = b.length) (first : a.Eligible p) (second : b.Eligible p) :
    let children := (crossover a b s).1
    Divide a b children.1 children.2 ∧
      ∀ child, child = children.1 ∨ child = children.2 →
        let mutant := (child.mutate p.slots p.loci rate s').1
        (a.length ≤ p.sections.length →
          (child.mutate? p.slots p.loci rate s').1 = some mutant) ∧
        child.Mutates p mutant ∧ (∀ i, child.Places i → mutant.Places i) ∧
        ∀ i, a.Places i → b.Places i → mutant.Places i := by
  intro children
  have divide : Divide a b children.1 children.2 := divide_crossover sameLength s
  refine ⟨divide, ?_⟩
  intro child isChild mutant
  have mutates : child.Mutates p mutant :=
    mutates_mutate (divide.eligible isChild first second) rate s'
  refine ⟨?_, mutates, fun _ => mutates.places, ?_⟩
  · intro complete
    exact mutate?_eq_some_mutate (divide.length_child isChild ▸ complete) rate s'
  · intro i placed placed'
    exact mutates.places (divide.places isChild placed placed')

theorem variation_keeps_genes_rush :
    let p := Problem.rush
    let gene : Option Placement := some ⟨Problem.hall, Problem.monday⟩
    let a : Genome := [none, gene, none, gene]
    let b : Genome := [none, gene, none, none]
    let source : MersenneTwister := ⟨.replicate 624 0, 0⟩
    let child := (crossover a b source).1.1
    let mutant := (child.mutate p.slots p.loci (.ofRatio false 1 2) source).1
    a.length = b.length ∧ a.Eligible p ∧ b.Eligible p ∧ child = [none, gene, none, none] ∧
      mutant = [gene, gene, none, none] ∧
      (child.mutate? p.slots p.loci (.ofRatio false 1 2) source).1 = some mutant ∧
      child.Mutates p mutant ∧ mutant.Places 1 := by
  intro p gene a b source child mutant
  have first : a.Eligible p := by
    apply Admissible.eligible
    unfold Admissible Locus.Admits
    decide +kernel
  have second : b.Eligible p := by
    apply Admissible.eligible
    unfold Admissible Locus.Admits
    decide +kernel
  have drawn : child = [none, gene, none, none] := by decide +kernel
  have mutated : mutant = [gene, gene, none, none] := by decide +kernel
  obtain ⟨-, kept⟩ :=
    variation_keeps_genes p (.ofRatio false 1 2) a b source source rfl first second
  obtain ⟨succeeds, mutates, -, places⟩ := kept child (.inl rfl)
  exact ⟨rfl, first, second, drawn, mutated, succeeds le_rfl, mutates,
    places 1 ⟨_, rfl⟩ ⟨_, rfl⟩⟩

end Timetabling.Genome
