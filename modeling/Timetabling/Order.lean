import Std.Data.TreeMap

/-!
# Orders by a field

Records are ordered field by field. An order by a lawful field only equates records with equal
fields.
-/

namespace Timetabling

theorem eq_of_compareOn {α β : Type} [Ord β] [Std.LawfulEqOrd β] {f : α → β} {a b : α}
    (h : compareOn f a b = .eq) : f a = f b :=
  Std.LawfulEqOrd.eq_of_compare h

end Timetabling
