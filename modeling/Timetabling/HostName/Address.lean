import Timetabling.Text.Digit
import Timetabling.Text.Numeral
import Timetabling.Text.Pieces
import Timetabling.Text.Quoted

/-!
# Addresses

Hosts that are numbers: addresses of four bytes, and addresses of sixteen bytes, which stand in
brackets and can have a zone.
-/

namespace Timetabling.HostName

/-! ### Four bytes -/

/-- Whether a host looks like an address of four bytes, so that it has to be one. -/
def looksNumeric (cs : List Char) : Bool :=
  let parts := Text.pieces '.' cs
  parts.length == 4 && parts.all fun part => !part.isEmpty && part.all Char.isDigit

def isByte (cs : List Char) : Bool :=
  !cs.isEmpty && cs.length ≤ 3 && cs.all Char.isDigit && (cs == ['0'] || cs.head? != some '0') &&
    Text.asciiValue cs ≤ 255

def isFourBytes (cs : List Char) : Bool :=
  let parts := Text.pieces '.' cs
  parts.length == 4 && parts.all isByte

/-! ### Sixteen bytes -/

def isGroup (cs : List Char) : Bool :=
  !cs.isEmpty && cs.length ≤ 4 && cs.all fun c => (Text.hexValue? c).isSome

/-- Parts with a last part of four bytes in two groups. -/
def regrouped? (parts : List (List Char)) : Option (List (List Char)) :=
  match parts.getLast? with
  | none => some parts
  | some last =>
    if !last.contains '.' then some parts
    else if isFourBytes last then some (parts.dropLast ++ [['0'], ['0']])
    else none

/-- The groups on one side of the gap, where an empty part only touches the gap. -/
def besideGap (parts : List (List Char)) : List (List Char) :=
  if parts == [[]] then [] else parts

def areGroups (parts : List (List Char)) : Bool :=
  let inner := (parts.drop 1).dropLast
  match inner.countP List.isEmpty with
  | 0 => parts.length == 8 && parts.all isGroup
  | 1 =>
    let gap := 1 + inner.findIdx List.isEmpty
    let groups := besideGap (parts.take gap) ++ besideGap (parts.drop (gap + 1))
    groups.length ≤ 7 && groups.all isGroup
  | _ => false

def hasProperZone (cs : List Char) : Bool :=
  match cs.dropWhile (· != '%') with
  | [] => true
  | _ :: zone => !zone.isEmpty && !zone.contains '%'

def isSixteenBytes (cs : List Char) : Bool :=
  let parts := Text.pieces ':' (cs.takeWhile (· != '%'))
  hasProperZone cs && 3 ≤ parts.length &&
    ((regrouped? parts).map fun groups => groups.length ≤ 9 && areGroups groups).getD false

def isBracketed (cs : List Char) : Bool :=
  cs.head? == some '[' && cs.getLast? == some ']'

/-! ### Closing brackets -/

/-- What is wrong with an address in brackets whose zone has brackets of its own, when it is taken to
end at the first closing one. -/
inductive BracketFault where
  /-- There is something after that bracket that is no port. -/
  | trailing
  | noAddress (text : List Char)
deriving DecidableEq, Repr

def BracketFault.message : BracketFault → String
  | trailing => "Invalid IPv6 URL"
  | noAddress text =>
    Text.quoted (text.map .char) ++ " does not appear to be an IPv4 or IPv6 address"

def bracketFault? (cs : List Char) : Option BracketFault :=
  let address := (cs.drop 1).takeWhile (· != ']')
  if !isBracketed cs then none
  else if (cs.drop (address.length + 2)).head?.any (· != ':') then some .trailing
  else if isSixteenBytes address then none
  else some (.noAddress address)

end Timetabling.HostName
