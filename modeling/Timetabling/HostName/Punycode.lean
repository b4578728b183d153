import Timetabling.Sorting

/-!
# Labels in ASCII

A label with other than ASCII characters is sent as its ASCII characters and a row of numbers that
put in the others, from the least to the greatest one. A number is written with letters and digits,
least digit first; how large a digit has to be for the number to go on depends on the numbers
before. Characters are named by the numbers of their code points.
-/

namespace Timetabling.HostName.Punycode

/-! ### Digits -/

def digit (d : Nat) : Char :=
  Char.ofNat (if d < 26 then 0x61 + d else 0x30 + (d - 26))

def digitValue? (c : Char) : Option Nat :=
  if c.isAlpha then some (c.toLower.toNat - 0x61)
  else if c.isDigit then some (c.toNat - 0x30 + 26)
  else none

/-- The least digit after which a number goes on, by its place times thirty-six. -/
def threshold (place bias : Nat) : Nat :=
  max 1 (min 26 (place - bias))

theorem threshold_pos (place bias : Nat) : 1 ≤ threshold place bias := by
  simp only [threshold]
  omega

def biasFrom (size : Nat) : Nat :=
  if 455 < size then 36 + biasFrom (size / 35) else 36 * size / (size + 38)
termination_by size
decreasing_by exact Nat.div_lt_self (by omega) (by omega)

/-- The bias after a number, by the count of characters that there are now. The first number is
expected to be much larger than the others. -/
def biasAfter (number count : Nat) (isFirst : Bool) : Nat :=
  let size := number / (if isFirst then 700 else 2)
  biasFrom (size + size / count)

/-! ### Writing -/

def numeral (bias place number : Nat) : List Char :=
  let least := threshold place bias
  if number < least then [digit number]
  else
    digit (least + (number - least) % (36 - least)) ::
      numeral bias (place + 36) ((number - least) / (36 - least))
termination_by number
decreasing_by
  have hp := threshold_pos place bias
  have hd := Nat.div_le_self (number - threshold place bias) (36 - threshold place bias)
  omega

/-- What has been written so far. -/
structure Draft where
  /-- The numbers as they are written. -/
  text : List Char := []
  /-- The number to be written next. -/
  number : Nat := 0
  bias : Nat := 72
  /-- How many characters are there. -/
  count : Nat

/-- Goes on to the next character of the label: characters to come are not there yet, and the one
that it is the turn of is put in. -/
def Draft.step (plain turn : Nat) (draft : Draft) (n : Nat) : Draft :=
  if n < turn then { draft with number := draft.number + 1 }
  else if n = turn then
    { text := draft.text ++ numeral draft.bias 36 draft.number
      number := 0
      bias := biasAfter draft.number (draft.count + 1) (draft.count == plain)
      count := draft.count + 1 }
  else draft

/-- Puts in the characters of the given turns; the turn before is that of the character given. -/
def Draft.run (label : List Nat) (plain : Nat) : Nat → List Nat → Draft → Draft
  | _, [], draft => draft
  | next, turn :: turns, draft =>
    let start := { draft with number := draft.number + (turn - next) * (draft.count + 1) }
    let done := label.foldl (step plain turn) start
    run label plain (turn + 1) turns { done with number := done.number + 1 }

def inTurn (ns : List Nat) : List Nat :=
  (stableSort (fun m n => m ≤ n) ns).eraseDups

def written (label : List Nat) : List Char :=
  let plain := label.filter (· < 0x80)
  let others := inTurn (label.filter (0x80 ≤ ·))
  let numbers := (Draft.run label plain.length 0x80 others { count := plain.length }).text
  plain.map Char.ofNat ++ (if plain.isEmpty then [] else ['-']) ++ numbers

/-! ### Reading -/

structure Scan where
  label : List Nat
  /-- The character put in last, and the place after it. -/
  turn : Nat := 0x80
  next : Nat := 0
  bias : Nat := 72
  isFirst : Bool := true
  /-- The number that is being read, by what has been read of it, and the worth and the place of its
  next digit. -/
  number : Nat := 0
  worth : Nat := 1
  place : Nat := 36

def Scan.put? (scan : Scan) (number : Nat) : Option Scan :=
  let count := scan.label.length + 1
  let turn := scan.turn + (scan.next + number) / count
  let place := (scan.next + number) % count
  if 0x110000 ≤ turn then none
  else some {
    label := scan.label.take place ++ turn :: scan.label.drop place
    turn := turn
    next := place + 1
    bias := biasAfter number count scan.isFirst
    isFirst := false }

def Scan.step? (scan : Scan) (c : Char) : Option Scan := do
  let d ← digitValue? c
  let least := threshold scan.place scan.bias
  let number := scan.number + d * scan.worth
  if d < least then scan.put? number
  else some { scan with
    number := number, worth := scan.worth * (36 - least), place := scan.place + 36 }

def parts (cs : List Char) : List Char × List Char :=
  let numbers := (cs.reverse.takeWhile (· != '-')).reverse
  (cs.take (cs.length - numbers.length - 1), numbers)

/-- The label of an ASCII text. The last number has to be complete. -/
def read? (cs : List Char) : Option (List Nat) := do
  let (plain, numbers) := parts cs
  let scan ← numbers.foldlM Scan.step? { label := plain.map Char.toNat }
  if scan.place = 36 then some scan.label else none

end Timetabling.HostName.Punycode
