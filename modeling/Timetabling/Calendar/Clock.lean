import Timetabling.Text.Digit
import Timetabling.Text.Pieces

/-!
# Times of day

A time of day is written with two digits for the hour, a colon and two digits for the minute. The
tens digits are ASCII, and so is the units digit of an hour from 20 on; the other digits may come
from any script, and one line feed may follow. A written time is kept as it was given; `minutes?`
says which minute of the day it names.
-/

namespace Timetabling.Clock

def isHourTens (c : Char) : Bool :=
  c == '0' || c == '1'

def isLateHourUnits (c : Char) : Bool :=
  c == '0' || c == '1' || c == '2' || c == '3'

def isMinuteTens (c : Char) : Bool :=
  c == '0' || c == '1' || c == '2' || c == '3' || c == '4' || c == '5'

def isHour (tens units : Char) : Bool :=
  (isHourTens tens && Text.isDigit units) || (tens == '2' && isLateHourUnits units)

def isMinute (tens units : Char) : Bool :=
  isMinuteTens tens && Text.isDigit units

def isWritten : List Char → Bool
  | [a, b, ':', c, d] => isHour a b && isMinute c d
  | [a, b, ':', c, d, '\n'] => isHour a b && isMinute c d
  | _ => false

/-- The minute of the day named by two numerals with a colon between them. -/
def ofParts? (cs : List Char) : Option Nat :=
  match Text.pieces ':' cs with
  | [hour, minute] => do
    let h ← Text.numeral? hour
    let m ← Text.numeral? minute
    return 60 * h + m
  | _ => none

/-- The minute of the day that a written time names, counted from midnight. -/
def minutes? (time : String) : Option Nat :=
  if isWritten time.toList then ofParts? time.toList else none

def isAfter (finish start : String) : Bool :=
  match minutes? finish, minutes? start with
  | some f, some s => s < f
  | _, _ => false

end Timetabling.Clock
