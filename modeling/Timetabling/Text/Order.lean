import Timetabling.Sorting

/-!
# Order of texts

Texts are ordered by their code points. What has no order of its own is reported in this order.
-/

namespace Timetabling.Text

def sorted (texts : List String) : List String :=
  stableSort (fun a b => decide (a ≤ b)) texts

def sortedSet (texts : List String) : List String :=
  sorted texts.eraseDups

def sortedByKey {α : Type} (entries : List (String × α)) : List (String × α) :=
  stableSort (fun a b => decide (a.1 ≤ b.1)) entries

end Timetabling.Text
