import Timetabling.Text.Mark
import Timetabling.Text.Printable
import Timetabling.Text.Ranges

/-!
# Directions of writing

A label with characters that are written from right to left is written so as a whole: it starts with
a letter of that direction, has none of the other one, and ends with a letter or a digit. Characters
are named by the numbers of their code points; their directions, given for those that labels can
have, are those of version 14 of the Unicode standard. Characters of later versions have none, and
no label can have them.
-/

namespace Timetabling.HostName

inductive Direction where
  | leftToRight
  | rightToLeft
  | digit
  /-- A digit of the scripts from right to left. -/
  | arabicDigit
  | mark
  | neutral
  /-- The character is of a later version. -/
  | unknown
deriving DecidableEq, Repr

namespace Direction

open Text (inRanges)

def rightToLeftRanges : List (Nat × Nat) :=
  [(0x5D0, 0x5F4), (0x620, 0x64A), (0x66E, 0x66F), (0x671, 0x6D5), (0x6E5, 0x6E6), (0x6EE, 0x6EF),
    (0x6FA, 0x710), (0x712, 0x72F), (0x74D, 0x7A5), (0x7B1, 0x7EA), (0x7F4, 0x7F5), (0x800, 0x815),
    (0x81A, 0x81A), (0x824, 0x824), (0x828, 0x828), (0x840, 0x858), (0x860, 0x88E), (0x8A0, 0x8C9),
    (0xFE73, 0xFE73), (0x10800, 0x10A00), (0x10A10, 0x10A35), (0x10A60, 0x10AE4),
    (0x10B00, 0x10D23), (0x10E80, 0x10EA9), (0x10EB0, 0x10F45), (0x10F70, 0x10F81),
    (0x10FB0, 0x10FF6), (0x1E800, 0x1E8C4), (0x1E922, 0x1E943), (0x1E94B, 0x1E959)]

def digitRanges : List (Nat × Nat) :=
  [(0x30, 0x39), (0x6F0, 0x6F9)]

def arabicDigitRanges : List (Nat × Nat) :=
  [(0x660, 0x669), (0x10D30, 0x10D39)]

def neutralRanges : List (Nat × Nat) :=
  [(0x2D, 0x2D), (0xB7, 0xB7), (0x2B9, 0x2BA), (0x2C6, 0x2CF), (0x2EC, 0x2EC), (0x375, 0x375),
    (0x200C, 0x200D), (0x2E2F, 0x2E2F), (0x30FB, 0x30FB), (0xA67F, 0xA67F), (0xA717, 0xA71F),
    (0xA788, 0xA788)]

/-- The marks without room of their own that have a direction nevertheless. -/
def leftToRightMarks : List (Nat × Nat) :=
  [(0xCBF, 0xCBF), (0xCC6, 0xCC6), (0x11A07, 0x11A08), (0x11C3F, 0x11C3F)]

def of (n : Nat) : Direction :=
  if inRanges neutralRanges n then neutral
  else if !Text.isVisible n then unknown
  else if inRanges rightToLeftRanges n then rightToLeft
  else if inRanges digitRanges n then digit
  else if inRanges arabicDigitRanges n then arabicDigit
  else if Text.Mark.isNonspacing n && !inRanges leftToRightMarks n then mark
  else leftToRight

end Direction

inductive DirectionFault where
  /-- A character has no direction. -/
  | unknown (place : Nat)
  /-- A label with characters from right to left starts with neither kind of letter. -/
  | start
  /-- A character has no place in a label from right to left. -/
  | inRightToLeft (place : Nat)
  /-- There are two kinds of digits. -/
  | mixedDigits
  /-- A character has no place in a label from left to right. -/
  | inLeftToRight (place : Nat)
  /-- The label ends with neither a letter nor a digit. -/
  | ending
deriving DecidableEq, Repr

namespace Direction

/-- The first fault from a place on in a label from right to left, with the kind of the digits
before that place. -/
def fault? (place : Nat) (digits : Option Direction) : List Direction → Option DirectionFault
  | [] => none
  | d :: rest =>
    if d = leftToRight then some (.inRightToLeft place)
    else if d = digit ∨ d = arabicDigit then
      if digits.any (· != d) then some .mixedDigits else fault? (place + 1) (some d) rest
    else fault? (place + 1) digits rest

def endsProperly (directions : List Direction) : Bool :=
  (directions.reverse.find? (· != mark)).any (· != neutral)

/-- The first character that has no place in a label from left to right, by its place. -/
def strange? (directions : List Direction) : Option DirectionFault :=
  (directions.findIdx? fun d => d == rightToLeft || d == arabicDigit).map fun i =>
    .inLeftToRight (i + 1)

def knownFault? (directions : List Direction) : Option DirectionFault :=
  if !directions.any fun d => d == rightToLeft || d == arabicDigit then none
  else
    match directions.head? with
    | some rightToLeft =>
      (fault? 1 none directions).or (if endsProperly directions then none else some .ending)
    | some leftToRight => strange? directions
    | _ => some .start

def labelFault? (directions : List Direction) : Option DirectionFault :=
  match directions.findIdx? (· == unknown) with
  | some i => some (.unknown (i + 1))
  | none => knownFault? directions

end Direction

end Timetabling.HostName
