/-!
# Case

Lower and upper case as far as the fixed English words that this library reads can tell: what
becomes an ASCII letter, and nothing else.
-/

namespace Timetabling.Text

/-- Lower case as far as ASCII letters are concerned; the Kelvin sign is the one further character
whose lower case is an ASCII letter. -/
def lower (c : Char) : Char :=
  if c.toNat = 0x212A then 'k' else c.toLower

def lowered (s : String) : String :=
  String.ofList (s.toList.map lower)

/-- Upper case as far as ASCII letters are concerned: besides the ASCII letters a few others, and
the ligatures, have ASCII letters for their upper case. -/
def upper (c : Char) : List Char :=
  match c.toNat with
  | 0xDF => ['S', 'S']
  | 0x131 => ['I']
  | 0x17F => ['S']
  | 0xFB00 => ['F', 'F']
  | 0xFB01 => ['F', 'I']
  | 0xFB02 => ['F', 'L']
  | 0xFB03 => ['F', 'F', 'I']
  | 0xFB04 => ['F', 'F', 'L']
  | 0xFB05 => ['S', 'T']
  | 0xFB06 => ['S', 'T']
  | _ => [c.toUpper]

def uppered (s : String) : String :=
  String.ofList (s.toList.flatMap upper)

end Timetabling.Text
