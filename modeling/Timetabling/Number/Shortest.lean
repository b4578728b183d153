import Timetabling.Number.Binary64

/-!
# The shortest decimal form

The fewest decimal digits that round back to a given number, and of several such forms the nearest.
The form is found by trying the two neighbours of the number on ever finer decimal grids.
-/

namespace Timetabling

/-- A positive decimal number: its digits as one number, times a power of ten. -/
structure Decimal where
  digits : Nat
  exponent : Int
deriving DecidableEq, Repr

namespace Decimal

def ratio (significand : Nat) (exponent : Int) : Nat × Nat :=
  (significand * pow2 exponent.toNat, pow2 (-exponent).toNat)

/-- The quotient of two numbers on the grid of multiples of a power of ten, rounded down, with the
remainder and the divisor that belong to it. -/
def onGrid (num den : Nat) (grid : Int) : Nat × Nat × Nat :=
  let n := num * pow10 (-grid).toNat
  let d := den * pow10 grid.toNat
  (n / d, n % d, d)

/-- The neighbour on a grid that rounds back to the number, the nearer one if both do. -/
def candidate? (x : Binary64) (num den : Nat) (grid : Int) : Option Decimal :=
  let (below, rest, d) := onGrid num den grid
  let low := decide (Binary64.ofDecimal false below grid = x)
  let high := decide (Binary64.ofDecimal false (below + 1) grid = x)
  match low, high with
  | true, true =>
    if 2 * rest < d then some ⟨below, grid⟩
    else if d < 2 * rest then some ⟨below + 1, grid⟩
    else if below % 2 = 0 then some ⟨below, grid⟩ else some ⟨below + 1, grid⟩
  | true, false => some ⟨below, grid⟩
  | false, true => some ⟨below + 1, grid⟩
  | false, false => none

def decimalOrder (num den : Nat) : Nat → Int → Int
  | 0, k => k
  | steps + 1, k =>
    if den * pow10 k.toNat ≤ num * pow10 (-k).toNat then k else decimalOrder num den steps (k - 1)

def normalized (digits : Nat) (exponent : Int) : Decimal :=
  if h : digits % 10 = 0 ∧ digits ≠ 0 then normalized (digits / 10) (exponent + 1)
  else ⟨digits, exponent⟩
termination_by digits
decreasing_by omega

/-- The shortest decimal that rounds to the positive number of the given significand and exponent.
-/
def shortest (significand : Nat) (exponent : Int) : Decimal :=
  let x := Binary64.finite false significand exponent
  let (num, den) := ratio significand exponent
  let order := decimalOrder num den 640 310
  match (List.range 17).findSome? fun (n : Nat) => candidate? x num den (order - (n : Int)) with
  | some d => normalized d.digits d.exponent
  | none => ⟨num / den, 0⟩

end Decimal

end Timetabling
