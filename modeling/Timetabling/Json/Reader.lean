import Timetabling.Json.Document
import Timetabling.Text.Digit
import Timetabling.Text.Numeral

/-!
# Reading JSON text

A reader for JSON text. Besides the standard's numbers it accepts the three words for infinities and
for what is not a number. A number with a fraction or an exponent is a fractional number, every
other one is whole and has a limited number of digits; lists and records are nested to a limited
depth. The text is read from the front, and the first fault in it counts. The reader consumes at
least one code point between two nested calls, so a bound of twice the length of the text is never
reached.
-/

namespace Timetabling.Json

inductive Limit where
  | digits (count : Nat)
  | depth
deriving DecidableEq, Repr

inductive ReadFault where
  | malformed
  | beyond (limit : Limit)
deriving DecidableEq, Repr

def greatestDepth : Nat := 985

abbrev ReadResult (α : Type) := Except ReadFault (α × List CodePoint)

/-! ### Spaces -/

def isSpace (p : CodePoint) : Bool :=
  p = .char ' ' || p = .char '\t' || p = .char '\n' || p = .char '\r'

def skipSpaces (ps : List CodePoint) : List CodePoint :=
  ps.dropWhile isSpace

/-! ### Strings -/

def unit? (a b c d : Char) : Option Nat := do
  return 4096 * (← Text.hexValue? a) + 256 * (← Text.hexValue? b) + 16 * (← Text.hexValue? c) +
    (← Text.hexValue? d)

/-- A part of a string: a code point, or the sixteen-bit unit of an escape. -/
inductive StringPart where
  | point (p : CodePoint)
  | unit (n : Nat)
deriving DecidableEq, Repr

/-- The code points of the parts of a string. Two units side by side that are the halves of a pair
make one character; a surrogate that is no escape joins no pair. -/
def points : List StringPart → List CodePoint
  | [] => []
  | .point p :: rest => p :: points rest
  | .unit high :: .unit low :: rest =>
    if CodePoint.isHighSurrogate high && CodePoint.isLowSurrogate low then
      .ofPair high low :: points rest
    else .ofNumber high :: points (.unit low :: rest)
  | .unit n :: rest => .ofNumber n :: points rest

def escape? (e : Char) : Option Char :=
  match e with
  | '"' => some '"'
  | '\\' => some '\\'
  | '/' => some '/'
  | 'b' => some (Char.ofNat 8)
  | 'f' => some (Char.ofNat 12)
  | 'n' => some '\n'
  | 'r' => some '\r'
  | 't' => some '\t'
  | _ => none

/-- The rest of a string after its opening quote, with the parts read so far in reverse. -/
def string (acc : List StringPart) : List CodePoint → ReadResult (List CodePoint)
  | [] => .error .malformed
  | .char '"' :: rest => .ok (points acc.reverse, rest)
  | .char '\\' :: .char 'u' :: .char a :: .char b :: .char c :: .char d :: rest =>
    match unit? a b c d with
    | none => .error .malformed
    | some unit => string (.unit unit :: acc) rest
  | .char '\\' :: .char e :: rest =>
    match escape? e with
    | none => .error .malformed
    | some c => string (.point (.char c) :: acc) rest
  | .char '\\' :: _ => .error .malformed
  | .char c :: rest =>
    if c.toNat < 32 then .error .malformed else string (.point (.char c) :: acc) rest
  | .surrogate unit :: rest => string (.point (.surrogate unit) :: acc) rest

/-! ### Words and numbers -/

/-- The whole part of a number: one zero, or digits that do not start with one. -/
def whole? : List Char → Option (List Char × List Char)
  | '0' :: rest => some (['0'], rest)
  | cs =>
    match cs.takeWhile Char.isDigit with
    | [] => none
    | ds => some (ds, cs.dropWhile Char.isDigit)

def fraction? : List Char → Option (List Char × List Char)
  | '.' :: rest =>
    match rest.takeWhile Char.isDigit with
    | [] => none
    | ds => some (ds, rest.dropWhile Char.isDigit)
  | _ => none

def exponentDigits? (negative : Bool) (cs : List Char) : Option (Int × List Char) :=
  match cs.takeWhile Char.isDigit with
  | [] => none
  | ds =>
    let n : Int := Text.asciiValue ds
    some (if negative then -n else n, cs.dropWhile Char.isDigit)

def exponent? : List Char → Option (Int × List Char)
  | e :: rest =>
    if e = 'e' ∨ e = 'E' then
      match rest with
      | '-' :: rest' => exponentDigits? true rest'
      | '+' :: rest' => exponentDigits? false rest'
      | _ => exponentDigits? false rest
    else none
  | [] => none

/-- The number without its sign, at the start of a run of characters. -/
def number (negative : Bool) (cs : List Char) : Except ReadFault (Document × List Char) :=
  match whole? cs with
  | none => .error .malformed
  | some (ds, rest) =>
    let (fs, afterFraction) := (fraction? rest).getD ([], rest)
    let (e, afterExponent) := (exponent? afterFraction).getD (0, afterFraction)
    if fs.isEmpty && (exponent? afterFraction).isNone then
      if Text.longestNumeral < ds.length then .error (.beyond (.digits ds.length))
      else
        let n : Int := Text.asciiValue ds
        .ok (.int (if negative then -n else n), afterExponent)
    else
      .ok (.float (.ofDecimal negative (Text.asciiValue (ds ++ fs)) (e - fs.length)), afterExponent)

def after? : List Char → List Char → Option (List Char)
  | [], rest => some rest
  | w :: ws, c :: cs => if w = c then after? ws cs else none
  | _ :: _, [] => none

def word? (cs : List Char) : Option (Document × List Char) :=
  [("null", Document.null), ("true", .bool true), ("false", .bool false), ("NaN", .float .nan),
    ("Infinity", .float (.infinite false)), ("-Infinity", .float (.infinite true))].findSome?
    fun (word, d) => (after? word.toList cs).map fun rest => (d, rest)

def wordOrNumber (cs : List Char) : Except ReadFault (Document × List Char) :=
  match word? cs with
  | some found => .ok found
  | none =>
    match cs with
    | '-' :: rest => number true rest
    | _ => number false cs

def run : List CodePoint → List Char × List CodePoint
  | .char c :: ps =>
    if c.isAlphanum || c == '+' || c == '-' || c == '.' then
      let (cs, rest) := run ps
      (c :: cs, rest)
    else ([], .char c :: ps)
  | ps => ([], ps)

def scalar (ps : List CodePoint) : ReadResult Document :=
  let (cs, rest) := run ps
  (wordOrNumber cs).map fun (d, rest') => (d, rest'.map .char ++ rest)

/-! ### Whole texts -/

mutual

def document : Nat → Nat → List CodePoint → ReadResult Document
  | 0, _, _ => .error .malformed
  | bound + 1, depth, ps =>
    match ps, depth with
    | .char '"' :: rest, _ => (string [] rest).map fun (s, rest') => (.text s, rest')
    | .char '[' :: _, 0 => .error (.beyond .depth)
    | .char '{' :: _, 0 => .error (.beyond .depth)
    | .char '[' :: rest, depth + 1 =>
      match skipSpaces rest with
      | .char ']' :: rest' => .ok (.list [], rest')
      | rest' => (items bound depth [] rest').map fun (ds, rest'') => (.list ds, rest'')
    | .char '{' :: rest, depth + 1 =>
      match skipSpaces rest with
      | .char '}' :: rest' => .ok (.record [], rest')
      | rest' =>
        (entries bound depth [] rest').map fun (given, rest'') =>
          (.record (Entries.collect given), rest'')
    | _, _ => scalar ps

/-- The items up to the closing bracket, after those already read in reverse. -/
def items : Nat → Nat → List Document → List CodePoint → ReadResult (List Document)
  | 0, _, _, _ => .error .malformed
  | bound + 1, depth, acc, ps =>
    match document bound depth ps with
    | .error fault => .error fault
    | .ok (d, rest) =>
      match skipSpaces rest with
      | .char ',' :: rest' => items bound depth (d :: acc) (skipSpaces rest')
      | .char ']' :: rest' => .ok ((d :: acc).reverse, rest')
      | _ => .error .malformed

def entries : Nat → Nat → List (List CodePoint × Document) → List CodePoint →
    ReadResult (List (List CodePoint × Document))
  | 0, _, _, _ => .error .malformed
  | bound + 1, depth, acc, ps =>
    match ps with
    | .char '"' :: rest =>
      match string [] rest with
      | .error fault => .error fault
      | .ok (key, rest') =>
        match skipSpaces rest' with
        | .char ':' :: rest'' =>
          match document bound depth (skipSpaces rest'') with
          | .error fault => .error fault
          | .ok (d, rest₃) =>
            match skipSpaces rest₃ with
            | .char ',' :: rest₄ => entries bound depth ((key, d) :: acc) (skipSpaces rest₄)
            | .char '}' :: rest₄ => .ok (((key, d) :: acc).reverse, rest₄)
            | _ => .error .malformed
        | _ => .error .malformed
    | _ => .error .malformed

end

def read (ps : List CodePoint) : Except ReadFault Document :=
  match document (2 * ps.length + 2) greatestDepth (skipSpaces ps) with
  | .ok (d, rest) => if (skipSpaces rest).isEmpty then .ok d else .error .malformed
  | .error fault => .error fault

end Timetabling.Json
