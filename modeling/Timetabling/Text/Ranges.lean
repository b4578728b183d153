/-!
# Ranges of characters

A property of characters is listed by ranges, each by the first and the last number of its code
points.
-/

namespace Timetabling.Text

def inRanges (ranges : List (Nat × Nat)) (n : Nat) : Bool :=
  ranges.any fun (first, last) => first ≤ n && n ≤ last

end Timetabling.Text
