import Mathlib.Tactic.ByContra
import Timetabling.Number.Quotient

/-!
# Quotients with a value

A quotient has a value unless it is rounded to infinity, which starts half a step above the largest
finite number. The quotients of a solve stay far below that: a section is never larger than its
classroom, and the assignments of a timetable are no more than its sections.
-/

namespace Timetabling

theorem pow2_pos (k : Nat) : 0 < pow2 k :=
  Nat.two_pow_pos k

theorem pow2_add (j k : Nat) : pow2 (j + k) = pow2 j * pow2 k :=
  Nat.pow_add 2 j k

theorem pow2_le_pow2 {j k : Nat} (le : j ≤ k) : pow2 j ≤ pow2 k :=
  Nat.pow_le_pow_right Nat.two_pos le

namespace Binary64

variable {num den k m : Nat}

theorem le_binaryOrder_iff (numPos : 0 < num) (denPos : 0 < den) :
    (k : Int) ≤ binaryOrder num den ↔ den * pow2 k ≤ num := by
  have numLow : pow2 num.log2 ≤ num := Nat.log2_self_le (Nat.ne_of_gt numPos)
  have numHigh : num < pow2 (num.log2 + 1) := Nat.lt_log2_self
  have denLow : pow2 den.log2 ≤ den := Nat.log2_self_le (Nat.ne_of_gt denPos)
  have denHigh : den < pow2 (den.log2 + 1) := Nat.lt_log2_self
  simp only [binaryOrder]
  split
  next reached =>
    constructor
    · intro order
      calc den * pow2 k
        _ ≤ den * pow2 ((num.log2 : Int) - den.log2).toNat :=
          Nat.mul_le_mul_left _ (pow2_le_pow2 (by omega))
        _ ≤ num * pow2 (-((num.log2 : Int) - den.log2)).toNat := reached
        _ = num * pow2 0 := by congr 2; omega
        _ = num := Nat.mul_one num
    · intro bounded
      by_contra order
      have : num < den * pow2 k := calc num
        _ < pow2 (num.log2 + 1) := numHigh
        _ ≤ pow2 (den.log2 + k) := pow2_le_pow2 (by omega)
        _ = pow2 den.log2 * pow2 k := pow2_add _ _
        _ ≤ den * pow2 k := Nat.mul_le_mul_right _ denLow
      omega
  next missed =>
    constructor
    · intro order
      calc den * pow2 k
        _ ≤ pow2 (den.log2 + 1) * pow2 k := Nat.mul_le_mul_right _ (Nat.le_of_lt denHigh)
        _ = pow2 (den.log2 + 1 + k) := (pow2_add _ _).symm
        _ ≤ pow2 num.log2 := pow2_le_pow2 (by omega)
        _ ≤ num := numLow
    · intro bounded
      by_contra order
      apply missed
      calc den * pow2 ((num.log2 : Int) - den.log2).toNat
        _ ≤ den * pow2 k := Nat.mul_le_mul_left _ (pow2_le_pow2 (by omega))
        _ ≤ num := bounded
        _ ≤ num * pow2 (-((num.log2 : Int) - den.log2)).toNat :=
          Nat.le_mul_of_pos_right _ (pow2_pos _)

theorem roundHalfEven_le : roundHalfEven num den ≤ num / den + 1 := by
  unfold roundHalfEven
  dsimp only
  split
  next => exact Nat.le_succ _
  next =>
    split
    next => exact Nat.le_refl _
    next => split <;> omega

/-- Half a step above an odd number rounding goes up, the tie included. -/
theorem roundHalfEven_eq_succ_iff (odd : m % 2 = 1) (below : num < den * m + den) :
    roundHalfEven num den = m + 1 ↔ 2 * (den * m) + den ≤ 2 * num := by
  have denPos : 0 < den := by
    by_contra zero
    simp [Nat.eq_zero_of_not_pos zero] at below
  have divided := Nat.div_add_mod num den
  have remainder := Nat.mod_lt num denPos
  have floor : num / den ≤ m := by
    apply Nat.le_of_lt_succ
    rw [Nat.div_lt_iff_lt_mul denPos, Nat.succ_mul, Nat.mul_comm]
    exact below
  rcases Nat.eq_or_lt_of_le floor with same | less
  · unfold roundHalfEven
    dsimp only
    rw [same] at divided ⊢
    split
    next => omega
    next =>
      split
      next => omega
      next =>
        rw [if_neg (by omega)]
        omega
  · have step : den * (num / den) + den ≤ den * m := Nat.mul_le_mul_left den less
    have up : roundHalfEven num den ≤ num / den + 1 := roundHalfEven_le
    omega

theorem isFinite_ofRounded_iff {negative : Bool} {significand : Nat} {exponent : Int} :
    (ofRounded negative significand exponent).isFinite = true ↔
      exponent < greatestExponent ∨ exponent = greatestExponent ∧ significand ≠ pow2 53 := by
  unfold ofRounded
  by_cases carried : significand = pow2 53
  · simp only [carried, if_true]
    split <;> simp [isFinite] <;> omega
  · simp only [carried, if_false]
    split <;> simp [isFinite] <;> omega

/-- The least magnitude that is rounded to infinity. -/
def overflow : Nat :=
  pow2 1024 - pow2 970

theorem isFinite_ofRatio_iff {negative : Bool} (denPos : 0 < den) :
    (ofRatio negative num den).isFinite = true ↔ num < den * overflow := by
  -- All bounds are multiples of this, which is half a step of the greatest exponent.
  obtain ⟨half, positive, named⟩ : ∃ half, 0 < half ∧ half = den * pow2 970 :=
    ⟨_, Nat.mul_pos denPos (pow2_pos 970), rfl⟩
  have scaled (j : Nat) : den * pow2 (970 + j) = half * pow2 j := by
    rw [pow2_add, named, Nat.mul_assoc]
  have limit : den * overflow = half * 18014398509481983 := by
    have : den * pow2 1024 = half * 18014398509481984 := scaled 54
    rw [overflow, Nat.mul_sub, this, ← named]
    omega
  rw [limit]
  unfold ofRatio
  by_cases nothing : num = 0
  · simp [nothing, zero, isFinite, positive]
  have numPos := Nat.pos_of_ne_zero nothing
  rw [if_neg nothing, isFinite_ofRounded_iff]
  have reaches (j : Nat) : (970 + j : Nat) ≤ binaryOrder num den ↔ half * pow2 j ≤ num := by
    rw [le_binaryOrder_iff numPos denPos, scaled]
  have above := reaches 54
  have below := reaches 53
  change _ ↔ half * 18014398509481984 ≤ num at above
  change _ ↔ half * 9007199254740992 ≤ num at below
  have rounded : binaryOrder num den = 1023 →
      (roundHalfEven num (den * pow2 971) = pow2 53 ↔ half * 18014398509481983 ≤ num) := by
    intro order
    have step : den * pow2 971 = half * 2 := scaled 1
    rw [step]
    refine (roundHalfEven_eq_succ_iff (m := 9007199254740991) rfl ?_).trans ?_
    · omega
    · omega
  unfold greatestExponent leastExponent
  rcases Int.lt_trichotomy (binaryOrder num den) 1023 with less | same | greater
  · omega
  · have exponent : max (binaryOrder num den - 52) (-1074) = 971 := by omega
    rw [exponent]
    change 971 < 971 ∨ _ ∧ roundHalfEven (num * pow2 0) (den * pow2 971) ≠ _ ↔ _
    rw [show num * pow2 0 = num from Nat.mul_one num, ne_eq, rounded same]
    omega
  · omega

theorem isFinite_ofRatio {negative : Bool} (bounded : num ≤ den * pow2 k) (small : k ≤ 1022) :
    (ofRatio negative num den).isFinite = true := by
  by_cases nothing : num = 0
  · rw [ofRatio, if_pos nothing]
    rfl
  have denPos : 0 < den := by
    by_contra zero
    rw [Nat.eq_zero_of_not_pos zero, Nat.zero_mul] at bounded
    exact nothing (Nat.le_zero.mp bounded)
  rw [isFinite_ofRatio_iff denPos]
  refine Nat.lt_of_le_of_lt bounded (Nat.mul_lt_mul_of_pos_left ?_ denPos)
  calc pow2 k
    _ ≤ pow2 1022 := pow2_le_pow2 small
    _ < overflow := by decide +kernel

end Binary64

theorem quotient_eq {a b : Int} (nonzero : b ≠ 0) {ratio : Binary64}
    (rounded : .ofRatio (decide (a < 0) != decide (b < 0)) a.natAbs b.natAbs = ratio) :
    quotient a b = if ratio.isFinite then .ok ratio else .error .tooLarge := by
  unfold quotient
  rw [if_neg nonzero, rounded]
  cases ratio <;> rfl

/-- A quotient by a positive number has a value unless its magnitude is too large. -/
theorem exists_quotient_eq_ok {a b : Int} (positive : 0 < b)
    (bounded : a.natAbs < b.natAbs * Binary64.overflow) : ∃ ratio, quotient a b = .ok ratio := by
  refine ⟨_, (quotient_eq (by omega) rfl).trans (if_pos ?_)⟩
  exact (Binary64.isFinite_ofRatio_iff (by omega)).mpr bounded

theorem quotient_eq_tooLarge {a b : Int} (positive : 0 < b)
    (large : b.natAbs * Binary64.overflow ≤ a.natAbs) : quotient a b = .error .tooLarge := by
  refine (quotient_eq (by omega) rfl).trans (if_neg ?_)
  rw [Binary64.isFinite_ofRatio_iff (by omega)]
  omega

end Timetabling
