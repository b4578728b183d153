import Timetabling.HostName.Address
import Timetabling.HostName.Label
import Timetabling.Text.Lowercase

/-!
# Host names

Which hosts a target can name: addresses, and names. A name of ASCII characters is taken as it is,
unless it is an ASCII form; a name with other characters is made of proper labels.
-/

namespace Timetabling.HostName

/-! ### Names -/

def isAscii (cs : List Char) : Bool :=
  cs.all (·.toNat < 0x80)

/-- What divides labels: the full stop and the signs that stand for it in other scripts. -/
def isSeparator (c : Char) : Bool :=
  c == '.' || c.toNat == 0x3002 || c.toNat == 0xFF0E || c.toNat == 0xFF61

def labels (cs : List Char) : List (List Char) :=
  let parts := Text.pieces '.' (cs.map fun c => if isSeparator c then '.' else c)
  if parts.getLast? == some [] then parts.dropLast else parts

def longest : Nat := 253

/-- Whether a name is too long to be looked at, even with a separator after its last label. -/
def isTooLong (cs : List Char) : Bool :=
  longest + 1 < cs.length

def isName (cs : List Char) : Bool :=
  let parts := labels cs
  !isTooLong cs && !parts.isEmpty && parts.all Label.isProper &&
    (Text.joined '.' (parts.map Label.written)).length ≤ longest

/-- Whether a target can name a host; it can also name none. -/
def isValid (cs : List Char) : Bool :=
  if cs.isEmpty then true
  else if looksNumeric cs then isFourBytes cs
  else if isBracketed cs then isSixteenBytes (cs.drop 1).dropLast
  else isAscii cs || isName (Text.Lowercase.ofChars [] cs)

/-! ### Sending -/

inductive Fault where
  /-- The zone of an address has characters that are not ASCII: the first of them, its place in the
  host, and how many others follow it. -/
  | zone (c : Char) (place others : Nat)
  | tooLong
  | label (fault : LabelFault)
deriving DecidableEq, Repr

def Fault.message : Fault → String
  | zone c place 0 =>
    let shown := String.ofList (Text.escapedNumber c.toNat)
    s!"'ascii' codec can't encode character '{shown}' in position {place}: " ++
      "ordinal not in range(128)"
  | zone _ place others =>
    s!"'ascii' codec can't encode characters in position {place}-{place + others}: " ++
      "ordinal not in range(128)"
  | tooLong => "Domain too long"
  | label fault => fault.message

def isPlain (c : Char) : Bool :=
  !" <>^[]".toList.contains c

def sent (cs : List Char) : List Char :=
  cs.flatMap fun c => if isPlain c then [c.toLower] else '%' :: Text.hexDigits 2 c.toNat

def zoneFault? (cs : List Char) : Option Fault :=
  let start := cs.takeWhile (·.toNat < 0x80)
  match cs.drop start.length with
  | [] => none
  | c :: rest => some (.zone c start.length (rest.takeWhile (0x80 ≤ ·.toNat)).length)

def formFault? (cs : List Char) : Option Fault :=
  if isTooLong cs then some .tooLong
  else ((labels cs).findSome? Label.writtenFault?).map .label

/-- Why a valid host cannot be sent to: names that start with an ASCII form are read on the way. -/
def fault? (cs : List Char) : Option Fault :=
  if isBracketed cs then zoneFault? cs
  else if isAscii cs && Label.formSign.isPrefixOf (sent cs) then formFault? (sent cs)
  else none

def isLiteral (c : Char) : Bool :=
  c.isAlphanum || "_.-~:/%#?=@[]!$&'()*+,;".toList.contains c

/-- Whether an address can be named by an answer: a second percent sign in its zone would spoil it.
-/
def isNameable (cs : List Char) : Bool :=
  !isBracketed cs || cs.all isLiteral

end Timetabling.HostName
