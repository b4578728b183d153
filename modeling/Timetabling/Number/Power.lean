/-!
# Powers of two and ten
-/

namespace Timetabling

def pow2 (k : Nat) : Nat :=
  Nat.pow 2 k

def pow10 (k : Nat) : Nat :=
  Nat.pow 10 k

end Timetabling
