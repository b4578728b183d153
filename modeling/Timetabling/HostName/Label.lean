import Timetabling.HostName.Context
import Timetabling.HostName.Direction
import Timetabling.HostName.Letter
import Timetabling.HostName.Punycode
import Timetabling.Text.Composed
import Timetabling.Text.Quoted

/-!
# Labels

The parts of a host name between its dots, given by the numbers of their code points. A label is
composed, has no hyphen at its ends or in its third and fourth place, starts with no mark, and has
only characters that can stand where they stand. A label with other than ASCII characters has an
ASCII form, which starts with a sign of its own.
-/

namespace Timetabling.HostName

/-- What is wrong with a label or with its ASCII form. Places are counted from one. -/
inductive LabelFault where
  | empty
  | notComposed
  /-- There are hyphens in the third and fourth place. -/
  | innerHyphens
  | outerHyphen
  | leadingMark
  | forbidden (number place : Nat) (label : List Nat)
  | joiner (number place : Nat) (label : List Nat)
  /-- There is a character without a name before a joiner. -/
  | neighbour (number place : Nat) (label : List Nat)
  | sign (number place : Nat) (label : List Nat)
  | direction (fault : DirectionFault) (label : List Nat)
  /-- There is nothing after the sign of ASCII forms. -/
  | emptyForm
  | unfinishedForm
  | unreadableForm
  /-- The ASCII form is not the one that its label is written in. -/
  | otherForm
deriving DecidableEq, Repr

/-! ### Reports -/

def numbered (n : Nat) : String :=
  let digits := (Nat.toDigits 16 n).map Char.toUpper
  String.ofList ('U' :: '+' :: List.replicate (4 - digits.length) '0' ++ digits)

def quoted (label : List Nat) : String :=
  Text.quoted (label.map CodePoint.ofNumber)

def DirectionFault.message (label : List Nat) : DirectionFault → String
  | unknown place => s!"Unknown directionality in label {quoted label} at position {place}"
  | start => s!"First codepoint in label {quoted label} must be directionality L, R or AL"
  | inRightToLeft place =>
    s!"Invalid direction for codepoint at position {place} in a right-to-left label"
  | mixedDigits => "Can not mix numeral types in a right-to-left label"
  | inLeftToRight place =>
    s!"Invalid direction for codepoint at position {place} in a left-to-right label"
  | ending => "Label ends with illegal codepoint directionality"

def LabelFault.message : LabelFault → String
  | empty => "Empty Label"
  | notComposed => "Label must be in Normalization Form C"
  | innerHyphens => "Label has disallowed hyphens in 3rd and 4th position"
  | outerHyphen => "Label must not start or end with a hyphen"
  | leadingMark => "Label begins with an illegal combining character"
  | forbidden number place label =>
    s!"Codepoint {numbered number} at position {place} of {quoted label} not allowed"
  | joiner number place label =>
    s!"Joiner {numbered number} not allowed at position {place} in {quoted label}"
  | neighbour number place label =>
    s!"Unknown codepoint adjacent to joiner {numbered number} at position {place} in {quoted label}"
  | sign number place label =>
    s!"Codepoint {numbered number} not allowed at position {place} in {quoted label}"
  | direction fault label => fault.message label
  | emptyForm => "Malformed A-label, no Punycode eligible content found"
  | unfinishedForm => "A-label must not end with a hyphen"
  | unreadableForm => "Invalid A-label"
  | otherForm => "A-label is not the canonical Punycode encoding of its U-label"

namespace Label

/-! ### Labels -/

def hyphen : Nat := 0x2D

/-- The first character of a label that cannot stand where it stands, from the rest after what is
before it, in reverse. -/
def characterFault? (label before : List Nat) : List Nat → Option LabelFault
  | [] => none
  | n :: after =>
    let place := before.length + 1
    if isLetter n then characterFault? label (n :: before) after
    else if isJoiner n then
      if before.head?.any fun m => !isNamed m then some (.neighbour n place label)
      else if canJoin before n after then characterFault? label (n :: before) after
      else some (.joiner n place label)
    else if isSign n then
      if suits label before n after then characterFault? label (n :: before) after
      else some (.sign n place label)
    else some (.forbidden n place label)

def directionFault? (label : List Nat) : Option LabelFault :=
  (Direction.labelFault? (label.map Direction.of)).map fun fault => .direction fault label

def fault? (label : List Nat) : Option LabelFault :=
  if label.isEmpty then some .empty
  else if !Text.Composed.isComposed label then some .notComposed
  else if (label.drop 2).take 2 == [hyphen, hyphen] then some .innerHyphens
  else if label.head? == some hyphen || label.getLast? == some hyphen then some .outerHyphen
  else if label.head?.any Text.Mark.isMark then some .leadingMark
  else (characterFault? label [] label).or (directionFault? label)

/-! ### ASCII forms -/

/-- The sign that an ASCII form starts with. -/
def formSign : List Char := "xn--".toList

def writtenFault? (cs : List Char) : Option LabelFault :=
  if formSign.isPrefixOf cs then
    let form := cs.drop formSign.length
    if form.isEmpty then some .emptyForm
    else if form.getLast? == some '-' then some .unfinishedForm
    else
      match Punycode.read? form with
      | none => some .unreadableForm
      | some label =>
        (fault? label).or (if Punycode.written label == form then none else some .otherForm)
  else fault? (cs.map Char.toNat)

def written (cs : List Char) : List Char :=
  if cs.all (·.toNat < 0x80) then cs else formSign ++ Punycode.written (cs.map Char.toNat)

def longest : Nat := 63

def isProper (cs : List Char) : Bool :=
  let fault := if cs.all (·.toNat < 0x80) then writtenFault? cs else fault? (cs.map Char.toNat)
  fault.isNone && (written cs).length ≤ longest

end Label

end Timetabling.HostName
