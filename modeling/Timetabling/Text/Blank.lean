/-!
# Blank characters

Two sets of characters that are dropped from the ends of a text. Names, days and slot keys lose
every blank; numerals lose only the spacing characters, which exclude the four information
separators.
-/

namespace Timetabling.Text

/-- Unicode's white space: the characters dropped around a numeral. -/
def isSpacing (c : Char) : Bool :=
  let n := c.toNat
  (0x09 ≤ n && n ≤ 0x0D) || n == 0x20 || n == 0x85 || n == 0xA0 || n == 0x1680 ||
    (0x2000 ≤ n && n ≤ 0x200A) || n == 0x2028 || n == 0x2029 || n == 0x202F || n == 0x205F ||
    n == 0x3000

/-- White space together with the information separators. -/
def isBlank (c : Char) : Bool :=
  isSpacing c || (0x1C ≤ c.toNat && c.toNat ≤ 0x1F)

def strip {α : Type} (p : α → Bool) (cs : List α) : List α :=
  ((cs.dropWhile p).reverse.dropWhile p).reverse

def trimmed (cs : List Char) : List Char :=
  strip isBlank cs

def trim (s : String) : String :=
  String.ofList (trimmed s.toList)

end Timetabling.Text
