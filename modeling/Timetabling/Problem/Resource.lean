import Timetabling.Order

/-!
# Resources

What a placed section occupies: its instructor, its classroom and its students. A resource carries
its kind, so an instructor and a classroom with the same identifier are different resources.
-/

namespace Timetabling

inductive Resource.Kind where
  | instructor
  | classroom
  | student
deriving DecidableEq, Repr

namespace Resource.Kind

def all : List Kind :=
  [instructor, classroom, student]

def name : Kind → String
  | instructor => "instructor"
  | classroom => "classroom"
  | student => "student"

def ofName? (name : String) : Option Kind :=
  all.find? fun kind => kind.name == name

def rank : Kind → Nat
  | instructor => 0
  | classroom => 1
  | student => 2

theorem rank_injective {a b : Kind} (h : a.rank = b.rank) : a = b := by
  revert h
  cases a <;> cases b <;> decide

end Resource.Kind

structure Resource where
  kind : Resource.Kind
  id : String
deriving DecidableEq, Repr

namespace Resource

def order : Resource → Resource → Ordering :=
  compareLex (compareOn fun r => r.kind.rank) (compareOn Resource.id)

instance : Std.TransCmp order :=
  inferInstanceAs (Std.TransCmp
    (compareLex (compareOn fun r : Resource => r.kind.rank) (compareOn Resource.id)))

instance : Std.LawfulEqCmp order where
  eq_of_compare {a b} h := by
    rw [order, compareLex_eq_eq] at h
    have hk := Kind.rank_injective (eq_of_compareOn h.1)
    have hi : a.id = b.id := eq_of_compareOn h.2
    cases a
    cases b
    simp_all

end Resource

end Timetabling
