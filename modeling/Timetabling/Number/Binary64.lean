import Timetabling.Number.Power

/-!
# Binary64 numbers

The values of the 64-bit binary floating-point format, held exactly: a finite value is a significand
times a power of two. Rounding takes the nearest value, and of two equally near ones the one with
the even significand. `Canonical` says when a finite value is written with the format's own
significand and exponent; every number made by rounding is.
-/

namespace Timetabling

inductive Binary64 where
  | nan
  | infinite (negative : Bool)
  | finite (negative : Bool) (significand : Nat) (exponent : Int)
deriving DecidableEq, Repr

namespace Binary64

def leastExponent : Int := -1074

def greatestExponent : Int := 971

def Canonical : Binary64 → Prop
  | nan => True
  | infinite _ => True
  | finite _ m e =>
    m < pow2 53 ∧ leastExponent ≤ e ∧ e ≤ greatestExponent ∧ (pow2 52 ≤ m ∨ e = leastExponent)

instance (x : Binary64) : Decidable x.Canonical := by
  unfold Canonical
  split <;> infer_instance

def zero (negative : Bool) : Binary64 :=
  finite negative 0 leastExponent

def isNan : Binary64 → Bool
  | nan => true
  | _ => false

def isFinite : Binary64 → Bool
  | finite .. => true
  | _ => false

/-! ### Rounding -/

/-- The nearest natural number to a quotient, an even one where two are equally near. -/
def roundHalfEven (num den : Nat) : Nat :=
  let q := num / den
  let r := num % den
  if 2 * r < den then q
  else if den < 2 * r then q + 1
  else if q % 2 = 0 then q else q + 1

/-- The number with a rounded significand, which may just have reached the next power of two. -/
def ofRounded (negative : Bool) (significand : Nat) (exponent : Int) : Binary64 :=
  let (m, e) := if significand = pow2 53 then (pow2 52, exponent + 1) else (significand, exponent)
  if greatestExponent < e then infinite negative else finite negative m e

def binaryOrder (num den : Nat) : Int :=
  let gap : Int := (num.log2 : Int) - (den.log2 : Int)
  if den * pow2 gap.toNat ≤ num * pow2 (-gap).toNat then gap else gap - 1

def ofRatio (negative : Bool) (num den : Nat) : Binary64 :=
  if num = 0 then zero negative
  else
    let e := max (binaryOrder num den - 52) leastExponent
    ofRounded negative (roundHalfEven (num * pow2 (-e).toNat) (den * pow2 e.toNat)) e

def ofInt (i : Int) : Binary64 :=
  ofRatio (decide (i < 0)) i.natAbs 1

/-- The number nearest to a decimal fraction. Magnitudes far outside the format's range are settled
without computing the power of ten. -/
def ofDecimal (negative : Bool) (digits : Nat) (exponent : Int) : Binary64 :=
  if digits = 0 then zero negative
  else
    let magnitude : Int := (Nat.toDigits 10 digits).length + exponent
    if 310 < magnitude then infinite negative
    else if magnitude < -330 then zero negative
    else ofRatio negative (digits * pow10 exponent.toNat) (pow10 (-exponent).toNat)

/-! ### Order -/

def signed (negative : Bool) (m : Nat) : Int :=
  if negative then -(m : Int) else m

/-- A finite value as an integer multiple of the given power of two, which is at most its own. -/
def scaled (negative : Bool) (m : Nat) (e base : Int) : Int :=
  signed negative (m * pow2 (e - base).toNat)

/-- How two numbers compare, unless one of them is not a number. -/
def compare? : Binary64 → Binary64 → Option Ordering
  | nan, _ => none
  | _, nan => none
  | infinite a, infinite b => some (compare (!a) (!b))
  | infinite a, finite .. => some (if a then .lt else .gt)
  | finite .., infinite b => some (if b then .gt else .lt)
  | finite n₁ m₁ e₁, finite n₂ m₂ e₂ =>
    let base := min e₁ e₂
    some (compare (scaled n₁ m₁ e₁ base) (scaled n₂ m₂ e₂ base))

def lt (x y : Binary64) : Bool :=
  compare? x y == some .lt

def le (x y : Binary64) : Bool :=
  match compare? x y with
  | some .gt => false
  | some _ => true
  | none => false

def toInt? : Binary64 → Option Int
  | finite n m e =>
    if 0 ≤ e then some (signed n (m * pow2 e.toNat))
    else if m % pow2 (-e).toNat = 0 then some (signed n (m / pow2 (-e).toNat)) else none
  | _ => none

/-! ### Bit pattern -/

def bits : Binary64 → Nat
  | nan => 0x7ff8000000000000
  | infinite n => (if n then pow2 63 else 0) + 0x7ff0000000000000
  | finite n m e =>
    (if n then pow2 63 else 0) +
      (if m < pow2 52 then m else (e - leastExponent + 1).toNat * pow2 52 + (m - pow2 52))

end Binary64

end Timetabling
