import Timetabling.Text.CodePoint
import Timetabling.Text.Printable

/-!
# Quoted texts

A text between quotes, which are double only where the text holds single quotes and no double ones.
The quote, the backslash and every code point without a visible form are escaped.
-/

namespace Timetabling.Text

def hexDigit (n : Nat) : Char :=
  (Nat.toDigits 16 n).headD '0'

def hexDigits : Nat → Nat → List Char
  | 0, _ => []
  | width + 1, n => hexDigits width (n / 16) ++ [hexDigit (n % 16)]

/-- A code point without a visible form, by its number. -/
def escapedNumber (n : Nat) : List Char :=
  if n < 0x100 then '\\' :: 'x' :: hexDigits 2 n
  else if n < 0x10000 then '\\' :: 'u' :: hexDigits 4 n
  else '\\' :: 'U' :: hexDigits 8 n

def escapedChar (quote c : Char) : List Char :=
  if c = quote ∨ c = '\\' then ['\\', c]
  else if c = '\n' then ['\\', 'n']
  else if c = '\r' then ['\\', 'r']
  else if c = '\t' then ['\\', 't']
  else if isPrintable c then [c]
  else escapedNumber c.toNat

def escaped (quote : Char) : CodePoint → List Char
  | .char c => escapedChar quote c
  | .surrogate unit => escapedNumber unit

def quoteFor (points : List CodePoint) : Char :=
  if points.contains (.char '\'') && !points.contains (.char '"') then '"' else '\''

def quoted (points : List CodePoint) : String :=
  let quote := quoteFor points
  String.ofList (quote :: points.flatMap (escaped quote) ++ [quote])

end Timetabling.Text
