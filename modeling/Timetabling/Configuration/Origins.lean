import Timetabling.Json.Display
import Timetabling.Json.Reader
import Timetabling.Validation.Reader

/-!
# Lists of origins

A list of origins can be given as a list of texts, which is taken as it is, or as one text. Such a
text is a list in brackets, whose items may be of any kind, or else a list with commas; either way
the blanks around the items and empty items are dropped. A text that is no list in brackets because
of a malformed part is taken as a list with commas; one that goes beyond a limit is not.
-/

namespace Timetabling.Origins

/-- The items without the blanks around them; empty ones are dropped. -/
def cleaned (items : List (List CodePoint)) : List (List CodePoint) :=
  (items.map (Text.strip CodePoint.isBlank)).filter fun item => !item.isEmpty

/-- The items of a list in brackets, if the text is one. -/
def bracketed? (text : List CodePoint) : Except Json.Limit (Option (List (List CodePoint))) :=
  let trimmed := Text.strip CodePoint.isBlank text
  match trimmed.head? with
  | some (.char '[') =>
    match Json.read trimmed with
    | .ok (.list items) => .ok (some (items.map Document.display))
    | .error (.beyond limit) => .error limit
    | _ => .ok none
  | _ => .ok none

def separated (text : List CodePoint) : List (List CodePoint) :=
  Text.pieces (.char ',') text

def ofText (text : List CodePoint) : Except Json.Limit (List String) :=
  (bracketed? text).map fun items? =>
    (cleaned (items?.getD (separated text))).map CodePoint.toText

def ofValue : Value → Except Json.Limit (Validated (List String))
  | .text s => (ofText (CodePoint.ofText s)).map .valid
  | v => .ok (Reader.listOf Reader.text v)

def ofDocument : Document → Except Json.Limit (Validated (List String))
  | .text points => (ofText points).map .valid
  | d => ofValue d.toValue

end Timetabling.Origins
