import Mathlib.Data.Finset.Image
import Timetabling.Proofs.Occupancy

/-!
# Reservations as a set

Reservations are kept resource by resource, but they are no more than a finite set of pairs of a
resource and a slot key. Whatever is called on them, and in whatever order, the changes add to this
set or take away from it, and the queries are answered from it.
-/

namespace Timetabling

/-- A resource that is taken at a slot key. -/
abbrev Holding := Resource × String

namespace Reservations

/-- What can be called on reservations: four changes and four queries. -/
inductive Call where
  | reserve (resource : Resource) (key : String)
  | release (resource : Resource) (key : String)
  | reservePlacement (instructor classroom key : String) (students : List String)
  | releasePlacement (instructor classroom key : String) (students : List String)
  | isFree (resource : Resource) (key : String)
  | usedKeys (resource : Resource)
  | usage (resource : Resource)
  | size
deriving DecidableEq, Repr

namespace Call

def isChange : Call → Bool
  | reserve .. => true
  | release .. => true
  | reservePlacement .. => true
  | releasePlacement .. => true
  | _ => false

def effect (r : Reservations) : Call → Reservations
  | reserve resource key => r.reserve resource key
  | release resource key => r.release resource key
  | reservePlacement instructor classroom key students =>
    r.reservePlacement instructor classroom key students
  | releasePlacement instructor classroom key students =>
    r.releasePlacement instructor classroom key students
  | _ => r

def holdings (instructor classroom key : String) (students : List String) : Finset Holding :=
  {(⟨.instructor, instructor⟩, key), (⟨.classroom, classroom⟩, key)} ∪
    students.toFinset.image fun student => (⟨.student, student⟩, key)

def effectOnSet (held : Finset Holding) : Call → Finset Holding
  | reserve resource key => insert (resource, key) held
  | release resource key => held.erase (resource, key)
  | reservePlacement instructor classroom key students =>
    held ∪ holdings instructor classroom key students
  | releasePlacement instructor classroom key students =>
    held \ holdings instructor classroom key students
  | _ => held

theorem mem_holdings {instructor classroom key : String} {students : List String}
    {resource : Resource} {k : String} :
    (resource, k) ∈ holdings instructor classroom key students ↔
      resource ∈ occupied instructor classroom students ∧ k = key := by
  simp only [holdings, occupied, Finset.mem_union, Finset.mem_insert, Finset.mem_singleton,
    Finset.mem_image, List.mem_toFinset, List.mem_cons, List.mem_map, Prod.mk.injEq]
  constructor
  · rintro ((⟨here, same⟩ | ⟨here, same⟩) | ⟨student, attends, here, same⟩)
    · exact ⟨.inl here, same⟩
    · exact ⟨.inr (.inl here), same⟩
    · exact ⟨.inr (.inr ⟨student, attends, here⟩), same.symm⟩
  · rintro ⟨here | here | ⟨student, attends, here⟩, same⟩
    · exact .inl (.inl ⟨here, same⟩)
    · exact .inl (.inr ⟨here, same⟩)
    · exact .inr ⟨student, attends, here, same.symm⟩

end Call

/-- The reservations stand for a set of holdings. -/
structure Holds (r : Reservations) (held : Finset Holding) : Prop where
  mem_usedKeys : ∀ resource key, key ∈ r.usedKeys resource ↔ (resource, key) ∈ held
  distinct : r.Distinct
  pruned : r.Pruned

theorem holds_empty : Holds {} ∅ where
  mem_usedKeys resource key := by simp [usedKeys]
  distinct := distinct_empty
  pruned := pruned_empty

theorem mem_taken_iff {r : Reservations} (pruned : r.Pruned) {resource : Resource} :
    resource ∈ r.taken ↔ r.usedKeys resource ≠ [] := by
  constructor
  · exact pruned resource
  · intro used
    by_contra absent
    exact used (Std.TreeMap.getD_eq_fallback absent)

namespace Holds

variable {r : Reservations} {held : Finset Holding}

theorem effect (holds : r.Holds held) (call : Call) :
    (call.effect r).Holds (call.effectOnSet held) := by
  cases call with
  | reserve resource key =>
    refine ⟨fun b k => ?_, holds.distinct.reserve _ _, holds.pruned.reserve _ _⟩
    simp only [Call.effect, Call.effectOnSet, mem_usedKeys_reserve, holds.mem_usedKeys,
      Finset.mem_insert, Prod.mk.injEq, eq_comm]
  | release resource key =>
    refine ⟨fun b k => ?_, holds.distinct.release _ _, holds.pruned.release _ _⟩
    simp only [Call.effect, Call.effectOnSet, mem_usedKeys_release, holds.mem_usedKeys,
      Finset.mem_erase, ne_eq, Prod.mk.injEq, eq_comm]
  | reservePlacement instructor classroom key students =>
    refine ⟨fun b k => ?_, ?_, ?_⟩
    · simp only [Call.effect, Call.effectOnSet, reservePlacement, mem_usedKeys_reserveAll,
        holds.mem_usedKeys, Finset.mem_union, Call.mem_holdings, or_comm]
    · exact holds.distinct.foldl (fun _ resource kept => kept.reserve resource key) _
    · exact List.foldlRecOn _ _ holds.pruned fun _ kept resource _ => kept.reserve resource key
  | releasePlacement instructor classroom key students =>
    refine ⟨fun b k => ?_, ?_, ?_⟩
    · simp only [Call.effect, Call.effectOnSet, releasePlacement, mem_usedKeys_releaseAll,
        holds.mem_usedKeys, Finset.mem_sdiff, Call.mem_holdings, and_comm]
    · exact holds.distinct.foldl (fun _ resource kept => kept.release resource key) _
    · exact List.foldlRecOn _ _ holds.pruned fun _ kept resource _ => kept.release resource key
  | isFree => exact holds
  | usedKeys => exact holds
  | usage => exact holds
  | size => exact holds

theorem isFree_iff (holds : r.Holds held) (resource : Resource) (key : String) :
    r.isFree resource key = true ↔ (resource, key) ∉ held := by
  rw [Reservations.isFree_iff, holds.mem_usedKeys]

theorem usage_eq (holds : r.Holds held) (resource : Resource) :
    r.usage resource = (held.filter fun holding => holding.1 = resource).card := by
  have keys : (held.filter fun holding => holding.1 = resource) =
      (r.usedKeys resource).toFinset.image fun key => (resource, key) := by
    ext ⟨b, key⟩
    simp only [Finset.mem_filter, Finset.mem_image, List.mem_toFinset, holds.mem_usedKeys,
      Prod.mk.injEq]
    constructor
    · rintro ⟨taken, rfl⟩
      exact ⟨key, taken, rfl, rfl⟩
    · rintro ⟨_, taken, rfl, rfl⟩
      exact ⟨taken, rfl⟩
  rw [keys, Finset.card_image_of_injective _ (Prod.mk_right_injective resource),
    List.toFinset_card_of_nodup (holds.distinct resource)]
  rfl

theorem size_eq (holds : r.Holds held) : r.size = (held.image Prod.fst).card := by
  have resources : held.image Prod.fst = r.taken.keys.toFinset := by
    ext resource
    simp only [Finset.mem_image, Prod.exists, exists_and_right, exists_eq_right, List.mem_toFinset,
      Std.TreeMap.mem_keys, mem_taken_iff holds.pruned, ← holds.mem_usedKeys]
    constructor
    · rintro ⟨key, used⟩
      exact List.ne_nil_of_mem used
    · exact List.exists_mem_of_ne_nil _
  rw [resources, List.toFinset_card_of_nodup Std.TreeMap.nodup_keys, Std.TreeMap.length_keys]
  rfl

end Holds

def after (calls : List Call) : Reservations :=
  calls.foldl Call.effect {}

def heldAfter (calls : List Call) : Finset Holding :=
  calls.foldl Call.effectOnSet ∅

theorem Holds.foldl {r : Reservations} {held : Finset Holding} (holds : r.Holds held)
    (calls : List Call) :
    (calls.foldl Call.effect r).Holds (calls.foldl Call.effectOnSet held) := by
  induction calls generalizing r held with
  | nil => exact holds
  | cons call rest ih => exact ih (holds.effect call)

theorem Call.effect_of_not_isChange {call : Call} (query : call.isChange = false)
    (r : Reservations) : call.effect r = r := by
  cases call with
  | reserve => cases query
  | release => cases query
  | reservePlacement => cases query
  | releasePlacement => cases query
  | _ => rfl

theorem foldl_filter_isChange (calls : List Call) (r : Reservations) :
    (calls.filter Call.isChange).foldl Call.effect r = calls.foldl Call.effect r := by
  induction calls generalizing r with
  | nil => rfl
  | cons call rest ih =>
    cases change : call.isChange with
    | true => rw [List.filter_cons_of_pos change, List.foldl_cons, List.foldl_cons, ih]
    | false =>
      have query : ¬ call.isChange = true := Bool.eq_false_iff.mp change
      rw [List.filter_cons_of_neg query, List.foldl_cons, Call.effect_of_not_isChange change, ih]

/-- After any calls the reservations are those of a set of holdings: every query is answered from
this set, no entry without a slot key is kept, and only the changes among the calls matter. -/
theorem calls_act_on_set (calls : List Call) :
    (∀ resource key,
      (after calls).isFree resource key = true ↔ (resource, key) ∉ heldAfter calls) ∧
    (∀ resource, ((after calls).usedKeys resource).Nodup ∧
      ∀ key, key ∈ (after calls).usedKeys resource ↔ (resource, key) ∈ heldAfter calls) ∧
    (∀ resource, (after calls).usage resource =
      ((heldAfter calls).filter fun holding => holding.1 = resource).card) ∧
    (after calls).size = ((heldAfter calls).image Prod.fst).card ∧
    (∀ resource ∈ (after calls).taken, (after calls).usedKeys resource ≠ []) ∧
    after (calls.filter Call.isChange) = after calls := by
  have holds : (after calls).Holds (heldAfter calls) := holds_empty.foldl calls
  refine ⟨holds.isFree_iff, fun resource => ?_, holds.usage_eq, holds.size_eq, holds.pruned,
    foldl_filter_isChange calls {}⟩
  exact ⟨holds.distinct resource, holds.mem_usedKeys resource⟩

end Reservations

end Timetabling
