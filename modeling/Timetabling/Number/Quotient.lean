import Timetabling.Number.Binary64

/-!
# Quotients of integers

The quotient of two integers of any size, rounded once. It fails only on a zero divisor and on
results beyond the largest finite number.
-/

namespace Timetabling

inductive ArithmeticFault where
  | divisionByZero
  | tooLarge
deriving DecidableEq, Repr

namespace ArithmeticFault

def message : ArithmeticFault → String
  | divisionByZero => "division by zero"
  | tooLarge => "integer division result too large for a float"

end ArithmeticFault

/-- The number nearest to the quotient of two integers. -/
def quotient (a b : Int) : Except ArithmeticFault Binary64 :=
  if b = 0 then .error .divisionByZero
  else
    match Binary64.ofRatio (decide (a < 0) != decide (b < 0)) a.natAbs b.natAbs with
    | .finite n m e => .ok (.finite n m e)
    | _ => .error .tooLarge

end Timetabling
