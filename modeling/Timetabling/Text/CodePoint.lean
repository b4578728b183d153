import Timetabling.Text.Blank

/-!
# Code points

The code points of a text: characters, and surrogates whose other half is missing. Escapes can put
such a lone surrogate into a text, which can then be cut and shown, but has no characters there.
-/

namespace Timetabling

inductive CodePoint where
  | char (c : Char)
  /-- Half of a pair, standing alone. -/
  | surrogate (unit : Nat)
deriving DecidableEq, Repr

namespace CodePoint

def isHighSurrogate (unit : Nat) : Bool :=
  0xD800 ≤ unit && unit ≤ 0xDBFF

def isLowSurrogate (unit : Nat) : Bool :=
  0xDC00 ≤ unit && unit ≤ 0xDFFF

def ofNumber (n : Nat) : CodePoint :=
  if isHighSurrogate n || isLowSurrogate n then surrogate n else char (Char.ofNat n)

def ofPair (high low : Nat) : CodePoint :=
  char (Char.ofNat (0x10000 + 1024 * (high - 0xD800) + (low - 0xDC00)))

def toChar : CodePoint → Char
  | char c => c
  | surrogate _ => Char.ofNat 0xFFFD

def isBlank : CodePoint → Bool
  | char c => Text.isBlank c
  | surrogate _ => false

def ofText (s : String) : List CodePoint :=
  s.toList.map char

/-- The text of code points, with the replacement character for lone surrogates. -/
def toText (ps : List CodePoint) : String :=
  String.ofList (ps.map toChar)

theorem toText_ofText (s : String) : toText (ofText s) = s := by
  have h : (s.toList.map char).map toChar = s.toList := by
    rw [List.map_map]
    exact List.map_id s.toList
  rw [toText, ofText, h, String.ofList_toList]

end CodePoint

end Timetabling
