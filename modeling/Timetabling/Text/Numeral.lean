import Timetabling.Number.Binary64
import Timetabling.Text.Blank
import Timetabling.Text.Pieces

/-!
# Written numbers

Texts that stand for a number where a number is expected. Only ASCII digits count, spacing around
the number is ignored, and an underscore may separate two digits.
-/

namespace Timetabling.Text

def unsigned : List Char → Bool × List Char
  | '-' :: cs => (true, cs)
  | '+' :: cs => (false, cs)
  | cs => (false, cs)

def asciiValue (cs : List Char) : Nat :=
  cs.foldl (fun n c => 10 * n + (c.toNat - '0'.toNat)) 0

/-- The text without its underscores, each of which has to stand alone between two other characters.
-/
def withoutUnderscores? (cs : List Char) : Option (List Char) :=
  let groups := pieces '_' cs
  if groups.all fun g => !g.isEmpty then some groups.flatten else none

/-! ### Integers -/

def longestNumeral : Nat := 4300

inductive NumeralFault where
  | unreadable
  | tooLong
deriving DecidableEq, Repr

def isNonzeroDigit (c : Char) : Bool :=
  c.isDigit && c != '0'

/-- The number of a row of digits that starts with zero only if it is zero. A row that is too long
is refused whatever follows it. -/
def plainNatural : List Char → Except NumeralFault Nat
  | [] => .error .unreadable
  | ['0'] => .ok 0
  | c :: cs =>
    let digits := c :: cs.takeWhile Char.isDigit
    if !isNonzeroDigit c then .error .unreadable
    else if longestNumeral < digits.length then .error .tooLong
    else if cs.all Char.isDigit then .ok (asciiValue digits)
    else .error .unreadable

def plainInteger : List Char → Except NumeralFault Int
  | '-' :: cs => (plainNatural cs).map fun n => -(n : Int)
  | cs => (plainNatural cs).map fun n => (n : Int)

/-- The text after zeros and the underscores among them, the last of which is given. The next digit
or a minus sign ends them; before a point and at the end of the text the last of them stays. -/
def afterZeros? (last : Char) : List Char → Option (List Char)
  | [] => some [last]
  | c :: cs =>
    if c = '0' ∨ c = '_' then afterZeros? c cs
    else if c = '.' then some (last :: c :: cs)
    else if isNonzeroDigit c ∨ c = '-' then some (c :: cs)
    else none

def withoutLeadingZeros? : List Char → Option (List Char)
  | [] => none
  | c :: cs =>
    if c = '0' then afterZeros? c cs
    else if isNonzeroDigit c ∨ c = '-' then some (c :: cs)
    else none

def withoutZeroFraction (cs : List Char) : List Char :=
  match cs.dropWhile (· != '.') with
  | '.' :: fraction =>
    if !fraction.isEmpty && fraction.all (· == '0') then cs.takeWhile (· != '.') else cs
  | _ => cs

def bare? (cs : List Char) : Option (List Char) :=
  (withoutLeadingZeros? cs).bind fun rest => withoutUnderscores? (withoutZeroFraction rest)

/-- The plain numeral that a text may stand for: spacing, a plus sign, leading zeros, a fraction of
zeros and underscores are dropped, a minus sign is kept. -/
def tidied? (cs : List Char) : Option (List Char) :=
  match strip isSpacing cs with
  | '+' :: '-' :: _ => none
  | '+' :: rest => bare? rest
  | '-' :: rest => (bare? rest).map ('-' :: ·)
  | rest => bare? rest

/-- The integer that a text stands for, as it is or after it has been tidied. Only a text that is
too long as it is counts as too long. -/
def integer (cs : List Char) : Except NumeralFault Int :=
  match plainInteger cs with
  | .ok i => .ok i
  | .error .tooLong => .error .tooLong
  | .error .unreadable =>
    match (tidied? cs).map plainInteger with
    | some (.ok i) => .ok i
    | _ => .error .unreadable

/-! ### Numbers -/

def exponent? : List Char → Option Int
  | [] => some 0
  | e :: cs =>
    if e = 'e' ∨ e = 'E' then
      let (negative, digits) := unsigned cs
      if !digits.isEmpty && digits.all Char.isDigit then
        let n : Int := asciiValue digits
        some (if negative then -n else n)
      else none
    else none

def decimal? (negative : Bool) (cs : List Char) : Option Binary64 :=
  let whole := cs.takeWhile Char.isDigit
  let rest := cs.dropWhile Char.isDigit
  let (fraction, rest') :=
    match rest with
    | '.' :: after => (after.takeWhile Char.isDigit, after.dropWhile Char.isDigit)
    | _ => ([], rest)
  if whole.isEmpty && fraction.isEmpty then none
  else (exponent? rest').map fun e =>
    .ofDecimal negative (asciiValue (whole ++ fraction)) (e - fraction.length)

def plainNumber? (cs : List Char) : Option Binary64 :=
  let (negative, rest) := unsigned cs
  let word := String.ofList (rest.map Char.toLower)
  if word == "inf" || word == "infinity" then some (.infinite negative)
  else if word == "nan" then some .nan
  else decimal? negative rest

/-- The number that a text stands for. Where there are underscores no spacing is allowed. -/
def number? (cs : List Char) : Option Binary64 :=
  (plainNumber? (strip isSpacing cs)).or ((withoutUnderscores? cs).bind plainNumber?)

end Timetabling.Text
