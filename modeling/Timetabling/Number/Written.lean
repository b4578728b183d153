import Timetabling.Number.Shortest

/-!
# Numbers as text

Integers are written in full. Other numbers are written with the fewest digits that read back, in
positional notation from one ten-thousandth up to ten to the sixteenth and in scientific notation
outside, and always show that they are not integers.
-/

namespace Timetabling.Binary64

/-- Digits with the decimal point at the given place, counted from the front. -/
def positional (digits : List Char) (point : Int) : List Char :=
  if point ≤ 0 then '0' :: '.' :: (List.replicate (-point).toNat '0' ++ digits)
  else
    let whole := digits.take point.toNat
    let padding := List.replicate (point.toNat - digits.length) '0'
    let fraction := digits.drop point.toNat
    whole ++ padding ++ '.' :: (if fraction.isEmpty then ['0'] else fraction)

def exponentText (e : Int) : List Char :=
  let digits := Nat.toDigits 10 e.natAbs
  (if e < 0 then '-' else '+') :: (if digits.length < 2 then '0' :: digits else digits)

def scientific (digits : List Char) (exponent : Int) : List Char :=
  match digits with
  | [] => []
  | [d] => d :: 'e' :: exponentText exponent
  | d :: ds => d :: '.' :: (ds ++ 'e' :: exponentText exponent)

def magnitudeText (significand : Nat) (exponent : Int) : List Char :=
  let d := Decimal.shortest significand exponent
  let digits := Nat.toDigits 10 d.digits
  let point : Int := digits.length + d.exponent
  if -4 < point ∧ point ≤ 16 then positional digits point else scientific digits (point - 1)

def written : Binary64 → String
  | nan => "nan"
  | infinite negative => if negative then "-inf" else "inf"
  | finite negative m e =>
    let magnitude := if m = 0 then ['0', '.', '0'] else magnitudeText m e
    String.ofList (if negative then '-' :: magnitude else magnitude)

end Timetabling.Binary64
