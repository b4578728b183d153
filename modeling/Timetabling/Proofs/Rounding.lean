import Mathlib.Algebra.Order.Field.Power
import Mathlib.Data.Rat.Cast.Order
import Mathlib.Tactic.GCongr
import Mathlib.Tactic.Linarith
import Mathlib.Tactic.NormNum
import Mathlib.Tactic.Positivity
import Mathlib.Tactic.Ring
import Timetabling.Proofs.Quotients

/-!
# The order of numbers and of what is rounded

Numbers are ordered as the rationals that they stand for, with an infinity at either end, and
rounding keeps the order of quotients. So quotients by moderate numbers are on the same side of a
bound before and after rounding.
-/

namespace Timetabling.Binary64

/-! ### The order of numbers -/

/-- The place of a number among the rationals and the two infinities. -/
def value : Binary64 → WithBot (WithTop ℚ)
  | nan => 0
  | infinite negative => if negative then ⊥ else ⊤
  | finite n m e => ((signed n m * 2 ^ e : ℚ) : WithTop ℚ)

theorem value_finite_false (m : Nat) (e : Int) :
    (finite false m e).value = ((m * 2 ^ e : ℚ) : WithTop ℚ) := by
  simp [value, signed]

theorem cast_pow2 (k : Nat) : (pow2 k : ℚ) = 2 ^ k := by
  simp [pow2]

theorem cast_scaled (negative : Bool) (m : Nat) {e base : Int} (le : base ≤ e) :
    (scaled negative m e base : ℚ) * 2 ^ base = signed negative m * 2 ^ e := by
  have exponent : (2 : ℚ) ^ e = 2 ^ (e - base).toNat * 2 ^ base := by
    rw [← zpow_natCast, ← zpow_add₀ two_ne_zero]
    congr 1
    omega
  cases negative <;> simp [scaled, signed, cast_pow2, exponent] <;> ring

theorem compare_scaled (n₁ n₂ : Bool) (m₁ m₂ : Nat) (e₁ e₂ : Int) :
    compare (scaled n₁ m₁ e₁ (min e₁ e₂)) (scaled n₂ m₂ e₂ (min e₁ e₂)) =
      compare (signed n₁ m₁ * 2 ^ e₁ : ℚ) (signed n₂ m₂ * 2 ^ e₂) := by
  have positive : (0 : ℚ) < 2 ^ min e₁ e₂ := by positivity
  have increasing : StrictMono fun i : Int => (i * 2 ^ min e₁ e₂ : ℚ) :=
    Int.cast_strictMono.mul_const positive
  rw [← cast_scaled n₁ m₁ (min_le_left e₁ e₂), ← cast_scaled n₂ m₂ (min_le_right e₁ e₂),
    ← cmp_eq_compare, ← cmp_eq_compare]
  exact (increasing.cmp_map_eq _ _).symm

variable {x y z : Binary64}

theorem compare?_eq_compare_value (numberX : x.isNan = false) (numberY : y.isNan = false) :
    compare? x y = some (compare x.value y.value) := by
  have coe_lt_top (q : ℚ) : ((q : WithTop ℚ) : WithBot (WithTop ℚ)) < ⊤ :=
    WithBot.coe_lt_coe.mpr (WithTop.coe_lt_top q)
  cases x with
  | nan => cases numberX
  | infinite a =>
    cases y with
    | nan => cases numberY
    | infinite b => cases a <;> cases b <;> rfl
    | finite =>
      cases a with
      | true => exact congrArg some (compare_lt_iff_lt.mpr (WithBot.bot_lt_coe _)).symm
      | false => exact congrArg some (compare_gt_iff_gt.mpr (coe_lt_top _)).symm
  | finite n₁ m₁ e₁ =>
    cases y with
    | nan => cases numberY
    | infinite b =>
      cases b with
      | true => exact congrArg some (compare_gt_iff_gt.mpr (WithBot.bot_lt_coe _)).symm
      | false => exact congrArg some (compare_lt_iff_lt.mpr (coe_lt_top _)).symm
    | finite n₂ m₂ e₂ =>
      have increasing : StrictMono fun q : ℚ => ((q : WithTop ℚ) : WithBot (WithTop ℚ)) :=
        WithBot.coe_strictMono.comp WithTop.coe_strictMono
      simp only [compare?, value, compare_scaled, Option.some.injEq]
      rw [← cmp_eq_compare, ← cmp_eq_compare]
      exact (increasing.cmp_map_eq _ _).symm

theorem number_of_le (le : x.le y = true) : x.isNan = false ∧ y.isNan = false := by
  cases x <;> cases y <;> first | exact ⟨rfl, rfl⟩ | cases le

theorem le_iff_value_le (numberX : x.isNan = false) (numberY : y.isNan = false) :
    x.le y = true ↔ x.value ≤ y.value := by
  rw [le, compare?_eq_compare_value numberX numberY, ← compare_le_iff_le]
  generalize compare x.value y.value = order
  cases order <;> simp

theorem lt_iff_value_lt (numberX : x.isNan = false) (numberY : y.isNan = false) :
    x.lt y = true ↔ x.value < y.value := by
  rw [lt, compare?_eq_compare_value numberX numberY, ← compare_lt_iff_lt, beq_iff_eq,
    Option.some.injEq]

theorem le_trans (first : x.le y = true) (second : y.le z = true) : x.le z = true := by
  obtain ⟨numberX, numberY⟩ := number_of_le first
  obtain ⟨-, numberZ⟩ := number_of_le second
  rw [le_iff_value_le numberX numberY] at first
  rw [le_iff_value_le numberY numberZ] at second
  rw [le_iff_value_le numberX numberZ]
  exact first.trans second

/-! ### Rounding to a natural number -/

variable {num den num' den' k : Nat}

theorem roundHalfEven_le_iff (denPos : 0 < den) :
    roundHalfEven num den ≤ k ↔
      2 * num < (2 * k + 1) * den ∨ 2 * num = (2 * k + 1) * den ∧ k % 2 = 0 := by
  have divided := Nat.div_add_mod num den
  have remainder := Nat.mod_lt num denPos
  unfold roundHalfEven
  dsimp only
  generalize num / den = q at divided ⊢
  generalize num % den = r at divided remainder ⊢
  have above : (2 * k + 1) * den = 2 * (den * k) + den := by ring
  rcases Nat.lt_trichotomy k q with less | rfl | greater
  · have step : den * k + den ≤ den * q := Nat.mul_le_mul_left den less
    rw [above]
    split_ifs <;> omega
  · rw [above]
    split_ifs <;> omega
  · have step : den * q + den ≤ den * k := Nat.mul_le_mul_left den greater
    rw [above]
    split_ifs <;> omega

theorem roundHalfEven_mono (denPos : 0 < den) (denPos' : 0 < den')
    (le : num * den' ≤ num' * den) : roundHalfEven num den ≤ roundHalfEven num' den' := by
  have least := (roundHalfEven_le_iff denPos').mp (Nat.le_refl (roundHalfEven num' den'))
  generalize roundHalfEven num' den' = k at least ⊢
  rw [roundHalfEven_le_iff denPos]
  have scaled : 2 * num * den' ≤ 2 * num' * den := by linarith
  rcases least with less | ⟨tie, even⟩
  · left
    apply Nat.lt_of_mul_lt_mul_right (a := den')
    calc 2 * num * den'
      _ ≤ 2 * num' * den := scaled
      _ < (2 * k + 1) * den' * den := Nat.mul_lt_mul_of_pos_right less denPos
      _ = (2 * k + 1) * den * den' := by ring
  · have bounded : 2 * num ≤ (2 * k + 1) * den := by
      apply Nat.le_of_mul_le_mul_right _ denPos'
      calc 2 * num * den'
        _ ≤ 2 * num' * den := scaled
        _ = (2 * k + 1) * den' * den := by rw [tie]
        _ = (2 * k + 1) * den * den' := by ring
    exact (Nat.lt_or_eq_of_le bounded).imp_right fun same => ⟨same, even⟩

theorem roundHalfEven_le_of_le (denPos : 0 < den) (le : num ≤ k * den) :
    roundHalfEven num den ≤ k := by
  rw [roundHalfEven_le_iff denPos]
  left
  linarith

theorem le_roundHalfEven_of_le (denPos : 0 < den) (le : k * den ≤ num) :
    k ≤ roundHalfEven num den := by
  have whole : roundHalfEven k 1 = k := by simp [roundHalfEven, Nat.mod_one]
  calc k
    _ = roundHalfEven k 1 := whole.symm
    _ ≤ roundHalfEven num den := roundHalfEven_mono Nat.one_pos denPos (by rwa [Nat.mul_one])

/-! ### Rounding to a number of the format -/

theorem cast_pow2_toNat (e : Int) : (pow2 e.toNat : ℚ) = 2 ^ e * pow2 (-e).toNat := by
  rw [cast_pow2, cast_pow2, ← zpow_natCast, ← zpow_natCast, ← zpow_add₀ two_ne_zero]
  congr 1
  omega

theorem cast_mul_den (e : Int) :
    ((k * (den * pow2 e.toNat) : Nat) : ℚ) = k * 2 ^ e * den * pow2 (-e).toNat := by
  push_cast
  rw [cast_pow2_toNat e]
  ring

theorem mul_zpow_le_div_iff (denPos : 0 < den) (e : Int) :
    (k * 2 ^ e : ℚ) ≤ num / den ↔ k * (den * pow2 e.toNat) ≤ num * pow2 (-e).toNat := by
  rw [le_div_iff₀ (Nat.cast_pos.mpr denPos), ← Nat.cast_le (α := ℚ), cast_mul_den, Nat.cast_mul,
    mul_le_mul_iff_left₀ (Nat.cast_pos.mpr (pow2_pos _))]

theorem div_le_mul_zpow_iff (denPos : 0 < den) (e : Int) :
    (num / den : ℚ) ≤ k * 2 ^ e ↔ num * pow2 (-e).toNat ≤ k * (den * pow2 e.toNat) := by
  rw [div_le_iff₀ (Nat.cast_pos.mpr denPos), ← Nat.cast_le (α := ℚ), cast_mul_den, Nat.cast_mul,
    mul_le_mul_iff_left₀ (Nat.cast_pos.mpr (pow2_pos _))]

theorem binaryOrder_spec (numPos : 0 < num) (denPos : 0 < den) :
    (2 : ℚ) ^ binaryOrder num den ≤ num / den ∧
      (num / den : ℚ) < 2 ^ (binaryOrder num den + 1) := by
  have den_pos : (0 : ℚ) < den := Nat.cast_pos.mpr denPos
  have numLow : (2 : ℚ) ^ (num.log2 : Int) ≤ num := by
    exact_mod_cast Nat.log2_self_le (Nat.ne_of_gt numPos)
  have numHigh : (num : ℚ) < 2 ^ (num.log2 + 1 : Int) := by
    exact_mod_cast Nat.lt_log2_self
  have denLow : (2 : ℚ) ^ (den.log2 : Int) ≤ den := by
    exact_mod_cast Nat.log2_self_le (Nat.ne_of_gt denPos)
  have denHigh : (den : ℚ) < 2 ^ (den.log2 + 1 : Int) := by
    exact_mod_cast Nat.lt_log2_self
  have factor (i j : Int) : (2 : ℚ) ^ i = 2 ^ (i - j) * 2 ^ j := by
    rw [← zpow_add₀ two_ne_zero, Int.sub_add_cancel]
  have condition : (2 : ℚ) ^ (num.log2 - den.log2 : Int) ≤ num / den ↔
      den * pow2 (num.log2 - den.log2 : Int).toNat ≤
        num * pow2 (-(num.log2 - den.log2 : Int)).toNat := by
    simpa using mul_zpow_le_div_iff (k := 1) denPos (num.log2 - den.log2)
  unfold binaryOrder
  dsimp only
  split
  next reached =>
    refine ⟨condition.mpr reached, ?_⟩
    rw [div_lt_iff₀ den_pos]
    calc (num : ℚ)
      _ < 2 ^ (num.log2 + 1 : Int) := numHigh
      _ = 2 ^ (num.log2 + 1 - den.log2 : Int) * 2 ^ (den.log2 : Int) := factor _ _
      _ ≤ 2 ^ (num.log2 - den.log2 + 1 : Int) * den := by
        rw [add_sub_right_comm]
        gcongr
  next missed =>
    rw [Int.sub_add_cancel]
    refine ⟨?_, not_le.mp (condition.not.mpr missed)⟩
    rw [le_div_iff₀ den_pos]
    calc (2 : ℚ) ^ (num.log2 - den.log2 - 1 : Int) * den
      _ ≤ 2 ^ (num.log2 - (den.log2 + 1) : Int) * 2 ^ (den.log2 + 1 : Int) := by
        rw [Int.sub_sub]
        gcongr
      _ = 2 ^ (num.log2 : Int) := (factor _ _).symm
      _ ≤ num := numLow

theorem binaryOrder_mono (numPos : 0 < num) (numPos' : 0 < num') (denPos : 0 < den)
    (denPos' : 0 < den') (le : (num / den : ℚ) ≤ num' / den') :
    binaryOrder num den ≤ binaryOrder num' den' := by
  have low := (binaryOrder_spec numPos denPos).1
  have high := (binaryOrder_spec numPos' denPos').2
  apply Int.le_of_lt_add_one
  exact (zpow_lt_zpow_iff_right₀ one_lt_two).mp (low.trans_lt (le.trans_lt high))

def roundingExponent (num den : Nat) : Int :=
  max (binaryOrder num den - 52) leastExponent

/-- The significand to which a quotient is rounded; it may be the next power of two. -/
def roundedSignificand (num den : Nat) : Nat :=
  let e := roundingExponent num den
  roundHalfEven (num * pow2 (-e).toNat) (den * pow2 e.toNat)

theorem ofRounded_cases (negative : Bool) (m : Nat) (e : Int) :
    ofRounded negative m e = infinite negative ∨
      ∃ m' e', ofRounded negative m e = finite negative m' e' ∧ (m' * 2 ^ e' : ℚ) = m * 2 ^ e := by
  unfold ofRounded
  by_cases carried : m = pow2 53
  · simp only [carried, if_true]
    split
    next => exact .inl rfl
    next =>
      refine .inr ⟨_, _, rfl, ?_⟩
      rw [zpow_add_one₀ two_ne_zero, cast_pow2, cast_pow2]
      ring
  · simp only [carried, if_false]
    split
    next => exact .inl rfl
    next => exact .inr ⟨m, e, rfl, rfl⟩

/-- A quotient is rounded to infinity or to its rounded significand times a power of two. -/
theorem ofRatio_cases (negative : Bool) (num den : Nat) :
    ofRatio negative num den = infinite negative ∨
      ∃ m e, ofRatio negative num den = finite negative m e ∧
        (m * 2 ^ e : ℚ) = roundedSignificand num den * 2 ^ roundingExponent num den := by
  unfold ofRatio
  split
  next nothing =>
    refine .inr ⟨_, _, rfl, ?_⟩
    simp [nothing, roundedSignificand, roundHalfEven]
  next => exact ofRounded_cases ..

theorem roundedSignificand_le (numPos : 0 < num) (denPos : 0 < den) :
    roundedSignificand num den ≤ pow2 53 := by
  apply roundHalfEven_le_of_le (Nat.mul_pos denPos (pow2_pos _))
  rw [← div_le_mul_zpow_iff denPos, cast_pow2]
  calc (num / den : ℚ)
    _ ≤ 2 ^ (binaryOrder num den + 1) := (binaryOrder_spec numPos denPos).2.le
    _ ≤ 2 ^ (53 + roundingExponent num den) := by
      apply zpow_le_zpow_right₀ one_le_two
      unfold roundingExponent
      omega
    _ = 2 ^ 53 * 2 ^ roundingExponent num den := zpow_add₀ two_ne_zero _ _

theorem le_roundedSignificand (numPos : 0 < num) (denPos : 0 < den)
    (normal : leastExponent < roundingExponent num den) :
    pow2 52 ≤ roundedSignificand num den := by
  apply le_roundHalfEven_of_le (Nat.mul_pos denPos (pow2_pos _))
  rw [← mul_zpow_le_div_iff denPos, cast_pow2]
  calc (2 ^ 52 * 2 ^ roundingExponent num den : ℚ)
    _ = 2 ^ (52 + roundingExponent num den) := (zpow_add₀ two_ne_zero _ _).symm
    _ = 2 ^ binaryOrder num den := by
      congr 1
      unfold roundingExponent at normal ⊢
      omega
    _ ≤ num / den := (binaryOrder_spec numPos denPos).1

/-- Rounding keeps the order: where the exponents agree by the significands, and otherwise because
a significand is at most the next power of two and at least the previous one. -/
theorem rounded_mono (denPos : 0 < den) (denPos' : 0 < den') (le : num * den' ≤ num' * den) :
    (roundedSignificand num den * 2 ^ roundingExponent num den : ℚ) ≤
      roundedSignificand num' den' * 2 ^ roundingExponent num' den' := by
  rcases Nat.eq_zero_or_pos num with rfl | numPos
  · have nothing : roundedSignificand 0 den = 0 := by simp [roundedSignificand, roundHalfEven]
    rw [nothing, Nat.cast_zero, zero_mul]
    positivity
  have numPos' : 0 < num' :=
    pos_of_mul_pos_left ((Nat.mul_pos numPos denPos').trans_le le) (Nat.zero_le den)
  have quotients : (num / den : ℚ) ≤ num' / den' := by
    rw [div_le_div_iff₀ (Nat.cast_pos.mpr denPos) (Nat.cast_pos.mpr denPos')]
    exact_mod_cast le
  have exponents : roundingExponent num den ≤ roundingExponent num' den' := by
    have := binaryOrder_mono numPos numPos' denPos denPos' quotients
    unfold roundingExponent
    omega
  rcases exponents.eq_or_lt with same | less
  · have significands : roundedSignificand num den ≤ roundedSignificand num' den' := by
      unfold roundedSignificand
      dsimp only
      rw [← same]
      generalize roundingExponent num den = e
      apply roundHalfEven_mono (Nat.mul_pos denPos (pow2_pos _)) (Nat.mul_pos denPos' (pow2_pos _))
      calc num * pow2 (-e).toNat * (den' * pow2 e.toNat)
        _ = num * den' * (pow2 (-e).toNat * pow2 e.toNat) := by ring
        _ ≤ num' * den * (pow2 (-e).toNat * pow2 e.toNat) := Nat.mul_le_mul_right _ le
        _ = num' * pow2 (-e).toNat * (den * pow2 e.toNat) := by ring
    rw [← same]
    gcongr
  · have normal : leastExponent < roundingExponent num' den' :=
      (le_max_right _ _).trans_lt less
    have small : (roundedSignificand num den : ℚ) ≤ 2 ^ 53 := by
      rw [← cast_pow2]
      exact_mod_cast roundedSignificand_le numPos denPos
    have large : (2 ^ 52 : ℚ) ≤ roundedSignificand num' den' := by
      rw [← cast_pow2]
      exact_mod_cast le_roundedSignificand numPos' denPos' normal
    calc (roundedSignificand num den * 2 ^ roundingExponent num den : ℚ)
      _ ≤ 2 ^ 53 * 2 ^ roundingExponent num den := by gcongr
      _ = 2 ^ 52 * 2 ^ (roundingExponent num den + 1) := by
        rw [zpow_add_one₀ two_ne_zero]
        ring
      _ ≤ 2 ^ 52 * 2 ^ roundingExponent num' den' := by
        gcongr
        · exact one_le_two
        · exact less
      _ ≤ roundedSignificand num' den' * 2 ^ roundingExponent num' den' := by gcongr

theorem isNan_ofRatio {negative : Bool} : (ofRatio negative num den).isNan = false := by
  rcases ofRatio_cases negative num den with large | ⟨m, e, rounded, -⟩
  · rw [large]
    rfl
  · rw [rounded]
    rfl

theorem value_ofRatio_mono (denPos : 0 < den) (denPos' : 0 < den')
    (le : num * den' ≤ num' * den) :
    (ofRatio false num den).value ≤ (ofRatio false num' den').value := by
  rcases ofRatio_cases false num' den' with large' | ⟨m', e', rounded', significand'⟩
  · rw [large']
    exact le_top
  · have finite' : (ofRatio false num' den').isFinite = true := by
      rw [rounded']
      rfl
    have bounded := (isFinite_ofRatio_iff denPos').mp finite'
    have finite : (ofRatio false num den).isFinite = true := by
      rw [isFinite_ofRatio_iff denPos]
      apply Nat.lt_of_mul_lt_mul_right (a := den')
      calc num * den'
        _ ≤ num' * den := le
        _ < den' * overflow * den := Nat.mul_lt_mul_of_pos_right bounded denPos
        _ = den * overflow * den' := by ring
    rcases ofRatio_cases false num den with large | ⟨m, e, rounded, significand⟩
    · rw [large] at finite
      cases finite
    · rw [rounded, rounded', value_finite_false, value_finite_false, significand, significand']
      exact WithBot.coe_le_coe.mpr (WithTop.coe_le_coe.mpr (rounded_mono denPos denPos' le))

theorem ofInt_le_ofInt {i j : Int} (nonneg : 0 ≤ i) (le : i ≤ j) :
    (ofInt i).le (ofInt j) = true := by
  rw [ofInt, ofInt, decide_eq_false (by omega), decide_eq_false (by omega),
    le_iff_value_le isNan_ofRatio isNan_ofRatio]
  exact value_ofRatio_mono Nat.one_pos Nat.one_pos (by omega)

/-! ### Quotients on either side of a bound -/

variable {a b largest : Nat}

/-- A quotient exceeds a bound after rounding if it did before, as long as that is so for the least
quotient above the bound that the divisors allow. -/
theorem bound_lt_ofRatio_iff (boundPos : 0 < b) (denPos : 0 < den)
    (within : den ≤ largest)
    (step : (ofRatio false a b).lt (ofRatio false (a * largest + 1) (b * largest)) = true) :
    (ofRatio false a b).lt (ofRatio false num den) = true ↔ a * den < num * b := by
  rw [lt_iff_value_lt isNan_ofRatio isNan_ofRatio] at step ⊢
  have largestPos : 0 < largest := denPos.trans_le within
  constructor
  · intro above
    by_contra below
    exact above.not_ge (value_ofRatio_mono denPos boundPos (Nat.le_of_not_lt below))
  · intro above
    refine step.trans_le (value_ofRatio_mono (Nat.mul_pos boundPos largestPos) denPos ?_)
    calc (a * largest + 1) * den
      _ = a * den * largest + den := by ring
      _ ≤ a * den * largest + largest := Nat.add_le_add_left within _
      _ = (a * den + 1) * largest := by ring
      _ ≤ num * b * largest := Nat.mul_le_mul_right _ above
      _ = num * (b * largest) := by ring

theorem ofRatio_lt_bound_iff (boundPos : 0 < b) (denPos : 0 < den)
    (within : den ≤ largest)
    (step : (ofRatio false (a * largest - 1) (b * largest)).lt (ofRatio false a b) = true) :
    (ofRatio false num den).lt (ofRatio false a b) = true ↔ num * b < a * den := by
  rw [lt_iff_value_lt isNan_ofRatio isNan_ofRatio] at step ⊢
  have largestPos : 0 < largest := denPos.trans_le within
  constructor
  · intro below
    by_contra above
    exact below.not_ge (value_ofRatio_mono boundPos denPos (Nat.le_of_not_lt above))
  · intro below
    refine (value_ofRatio_mono denPos (Nat.mul_pos boundPos largestPos) ?_).trans_lt step
    rw [Nat.sub_mul, Nat.one_mul]
    apply Nat.le_sub_of_add_le
    calc num * (b * largest) + den
      _ ≤ num * (b * largest) + largest := Nat.add_le_add_left within _
      _ = (num * b + 1) * largest := by ring
      _ ≤ a * den * largest := Nat.mul_le_mul_right _ below
      _ = a * largest * den := by ring

end Timetabling.Binary64
