import Timetabling.Problem.Resource
import Timetabling.Problem.Basic

/-!
# Reservations

The slot keys at which each resource is taken. Only resources with at least one slot key have an
entry, so the number of entries is the number of resources in use.
-/

namespace Timetabling

structure Reservations where
  taken : Std.TreeMap Resource (List String) Resource.order := ∅

namespace Reservations

def empty : Reservations := {}

/-- The slot keys at which a resource is taken, each once. -/
def usedKeys (r : Reservations) (resource : Resource) : List String :=
  r.taken.getD resource []

def isFree (r : Reservations) (resource : Resource) (key : String) : Bool :=
  !(r.usedKeys resource).contains key

def usage (r : Reservations) (resource : Resource) : Nat :=
  (r.usedKeys resource).length

def size (r : Reservations) : Nat :=
  r.taken.size

def reserve (r : Reservations) (resource : Resource) (key : String) : Reservations :=
  if r.isFree resource key then ⟨r.taken.insert resource (key :: r.usedKeys resource)⟩ else r

def release (r : Reservations) (resource : Resource) (key : String) : Reservations :=
  match (r.usedKeys resource).filter fun k => k != key with
  | [] => ⟨r.taken.erase resource⟩
  | keys => ⟨r.taken.insert resource keys⟩

theorem isFree_iff {r : Reservations} {resource : Resource} {key : String} :
    r.isFree resource key = true ↔ key ∉ r.usedKeys resource := by
  simp [isFree]

/-- A reservation adds one slot key to one resource. -/
theorem mem_usedKeys_reserve {r : Reservations} {a b : Resource} {key k : String} :
    k ∈ (r.reserve a key).usedKeys b ↔ (a = b ∧ k = key) ∨ k ∈ r.usedKeys b := by
  by_cases hab : a = b
  · subst hab
    by_cases hfree : r.isFree a key = true
    · simp [reserve, hfree, usedKeys, Std.TreeMap.getD_insert_self]
    · have hmem : key ∈ r.usedKeys a := by simpa [isFree] using hfree
      simp only [reserve, hfree, Bool.false_eq_true, if_false, true_and]
      constructor
      · exact Or.inr
      · rintro (rfl | h)
        · exact hmem
        · exact h
  · have hne : ¬Resource.order a b = .eq := fun h => hab (Std.LawfulEqCmp.eq_of_compare h)
    by_cases hfree : r.isFree a key = true
    · simp [reserve, hfree, usedKeys, Std.TreeMap.getD_insert, hne, hab]
    · simp [reserve, hfree, hab]

/-- A release takes one slot key from one resource. -/
theorem mem_usedKeys_release {r : Reservations} {a b : Resource} {key k : String} :
    k ∈ (r.release a key).usedKeys b ↔ ¬(a = b ∧ k = key) ∧ k ∈ r.usedKeys b := by
  unfold release
  split
  next hnil =>
    have hall : ∀ x ∈ r.usedKeys a, x = key := by
      intro x hx
      have h := List.filter_eq_nil_iff.mp hnil x hx
      simpa using h
    by_cases hab : a = b
    · subst hab
      simp only [usedKeys, Std.TreeMap.getD_erase_self, List.not_mem_nil, true_and, false_iff,
        not_and]
      intro hk hmem
      exact hk (hall k hmem)
    · have hne : ¬Resource.order a b = .eq := fun h => hab (Std.LawfulEqCmp.eq_of_compare h)
      simp [usedKeys, Std.TreeMap.getD_erase, hne, hab]
  next keys hkeys =>
    by_cases hab : a = b
    · subst hab
      simp only [usedKeys, Std.TreeMap.getD_insert_self, true_and]
      rw [List.mem_filter]
      simp [and_comm]
    · have hne : ¬Resource.order a b = .eq := fun h => hab (Std.LawfulEqCmp.eq_of_compare h)
      simp [usedKeys, Std.TreeMap.getD_insert, hne, hab]

/-- The resources that a placement occupies. -/
def occupied (instructor classroom : String) (students : List String) : List Resource :=
  ⟨.instructor, instructor⟩ :: ⟨.classroom, classroom⟩ :: students.map fun s => ⟨.student, s⟩

def reservePlacement (r : Reservations) (instructor classroom key : String)
    (students : List String) : Reservations :=
  (occupied instructor classroom students).foldl (fun r resource => r.reserve resource key) r

def releasePlacement (r : Reservations) (instructor classroom key : String)
    (students : List String) : Reservations :=
  (occupied instructor classroom students).foldl (fun r resource => r.release resource key) r

def place (r : Reservations) (session : Session) (placement : Placement) : Reservations :=
  r.reservePlacement session.instructor placement.classroom.id placement.slot.key session.students

def unplace (r : Reservations) (session : Session) (placement : Placement) : Reservations :=
  r.releasePlacement session.instructor placement.classroom.id placement.slot.key session.students

end Reservations

end Timetabling
