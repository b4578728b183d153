import Mathlib.Data.Finset.Union
import Timetabling.Proofs.Holdings

/-!
# Taking bookings back

Reservations know no owners: a release takes a slot key from a resource, whoever reserved it there.
It undoes a booking exactly where all that the booking takes up was free before. Of bookings that
were free one after the other no two share a holding, so they can be taken back in any order, and
those that are not taken back stay.
-/

namespace Timetabling

/-- An instructor, a classroom and students for one slot key. -/
structure Booking where
  instructor : String
  classroom : String
  key : String
  students : List String := []
deriving DecidableEq, Repr

namespace Booking

def resources (b : Booking) : List Resource :=
  Reservations.occupied b.instructor b.classroom b.students

def holdings (b : Booking) : Finset Holding :=
  Reservations.Call.holdings b.instructor b.classroom b.key b.students

def heldBy (bookings : List Booking) : Finset Holding :=
  bookings.toFinset.biUnion holdings

theorem mem_holdings {b : Booking} {holding : Holding} :
    holding ∈ b.holdings ↔ holding.1 ∈ b.resources ∧ holding.2 = b.key :=
  Reservations.Call.mem_holdings

theorem mem_heldBy {bookings : List Booking} {holding : Holding} :
    holding ∈ heldBy bookings ↔ ∃ b ∈ bookings, holding ∈ b.holdings := by
  simp [heldBy]

theorem heldBy_cons (b : Booking) (rest : List Booking) :
    heldBy (b :: rest) = b.holdings ∪ heldBy rest := by
  rw [heldBy, List.toFinset_cons, Finset.biUnion_insert, heldBy]

theorem heldBy_append (first second : List Booking) :
    heldBy (first ++ second) = heldBy first ∪ heldBy second := by
  rw [heldBy, List.toFinset_append, Finset.union_biUnion, heldBy, heldBy]

theorem heldBy_perm {first second : List Booking} (same : first.Perm second) :
    heldBy first = heldBy second := by
  rw [heldBy, List.toFinset_eq_of_perm _ _ same, heldBy]

def IsFree (b : Booking) (r : Reservations) : Prop :=
  ∀ resource ∈ b.resources, r.isFree resource b.key = true

instance (b : Booking) (r : Reservations) : Decidable (b.IsFree r) :=
  inferInstanceAs (Decidable (∀ resource ∈ b.resources, r.isFree resource b.key = true))

end Booking

open Booking

namespace Reservations

/-- Whether two reservations give the same answer to every query. -/
structure Alike (r s : Reservations) : Prop where
  isFree : ∀ resource key, r.isFree resource key = s.isFree resource key
  usedKeys : ∀ resource, (r.usedKeys resource).Perm (s.usedKeys resource)
  usage : ∀ resource, r.usage resource = s.usage resource
  size : r.size = s.size

def book (r : Reservations) (b : Booking) : Reservations :=
  r.reservePlacement b.instructor b.classroom b.key b.students

def cancel (r : Reservations) (b : Booking) : Reservations :=
  r.releasePlacement b.instructor b.classroom b.key b.students

def bookAll (r : Reservations) (bookings : List Booking) : Reservations :=
  bookings.foldl book r

def cancelAll (r : Reservations) (bookings : List Booking) : Reservations :=
  bookings.foldl cancel r

/-- Whether each of the bookings is free when those before it have been made. -/
def Takes (r : Reservations) : List Booking → Prop
  | [] => True
  | b :: rest => b.IsFree r ∧ (r.book b).Takes rest

namespace Holds

variable {r s : Reservations} {held : Finset Holding}

theorem alike (first : r.Holds held) (second : s.Holds held) : r.Alike s where
  isFree resource key := Bool.eq_iff_iff.mpr <| by rw [first.isFree_iff, second.isFree_iff]
  usedKeys resource := by
    refine (List.perm_ext_iff_of_nodup (first.distinct resource) (second.distinct resource)).mpr ?_
    intro key
    rw [first.mem_usedKeys, second.mem_usedKeys]
  usage resource := by rw [first.usage_eq, second.usage_eq]
  size := by rw [first.size_eq, second.size_eq]

theorem book (holds : r.Holds held) (b : Booking) : (r.book b).Holds (held ∪ b.holdings) :=
  holds.effect (.reservePlacement b.instructor b.classroom b.key b.students)

theorem cancel (holds : r.Holds held) (b : Booking) : (r.cancel b).Holds (held \ b.holdings) :=
  holds.effect (.releasePlacement b.instructor b.classroom b.key b.students)

theorem bookAll (holds : r.Holds held) (bookings : List Booking) :
    (r.bookAll bookings).Holds (held ∪ heldBy bookings) := by
  induction bookings generalizing r held with
  | nil => simpa [heldBy, Reservations.bookAll] using holds
  | cons b rest ih =>
    rw [heldBy_cons, ← Finset.union_assoc]
    exact ih (holds.book b)

theorem cancelAll (holds : r.Holds held) (bookings : List Booking) :
    (r.cancelAll bookings).Holds (held \ heldBy bookings) := by
  induction bookings generalizing r held with
  | nil => simpa [heldBy, Reservations.cancelAll] using holds
  | cons b rest ih =>
    have stepwise : held \ heldBy (b :: rest) = (held \ b.holdings) \ heldBy rest := by
      rw [heldBy_cons]
      exact sdiff_sdiff_left.symm
    rw [stepwise]
    exact ih (holds.cancel b)

theorem isFree_iff_disjoint (holds : r.Holds held) {b : Booking} :
    b.IsFree r ↔ Disjoint held b.holdings := by
  simp only [IsFree, holds.isFree_iff, Finset.disjoint_right, mem_holdings, Prod.forall]
  constructor
  · rintro free resource _ ⟨needed, rfl⟩
    exact free resource needed
  · intro apart resource needed
    exact apart resource b.key ⟨needed, rfl⟩

theorem disjoint_of_takes (holds : r.Holds held) {bookings : List Booking}
    (takes : r.Takes bookings) :
    Disjoint held (heldBy bookings) ∧
      bookings.Pairwise fun a b => Disjoint a.holdings b.holdings := by
  induction bookings generalizing r held with
  | nil => simp [heldBy]
  | cons b rest ih =>
    obtain ⟨free, later⟩ := takes
    obtain ⟨apart, separate⟩ := ih (holds.book b) later
    rw [Finset.disjoint_union_left] at apart
    rw [heldBy_cons, Finset.disjoint_union_right, List.pairwise_cons]
    refine ⟨⟨holds.isFree_iff_disjoint.mp free, apart.1⟩, ?_, separate⟩
    intro other membership
    apply apart.2.mono_right
    intro holding ofOther
    exact mem_heldBy.mpr ⟨other, membership, ofOther⟩

/-- Of bookings that were free in turn those that are not cancelled stay. -/
theorem cancelAll_bookAll (holds : r.Holds held) {bookings cancelled kept : List Booking}
    (takes : r.Takes bookings) (all : (cancelled ++ kept).Perm bookings) :
    ((r.bookAll bookings).cancelAll cancelled).Holds (held ∪ heldBy kept) := by
  obtain ⟨apart, separate⟩ := holds.disjoint_of_takes takes
  rw [← all.pairwise_iff fun disjoint => disjoint.symm, List.pairwise_append] at separate
  rw [← heldBy_perm all, heldBy_append, Finset.disjoint_union_right] at apart
  have keptApart : Disjoint (heldBy kept) (heldBy cancelled) := by
    rw [Finset.disjoint_right]
    intro holding gone stays
    obtain ⟨a, ofCancelled, ofFirst⟩ := mem_heldBy.mp gone
    obtain ⟨b, ofKept, ofSecond⟩ := mem_heldBy.mp stays
    exact Finset.disjoint_left.mp (separate.2.2 a ofCancelled b ofKept) ofFirst ofSecond
  have left : (held ∪ heldBy bookings) \ heldBy cancelled = held ∪ heldBy kept := by
    rw [← heldBy_perm all, heldBy_append, Finset.union_sdiff_distrib, Finset.union_sdiff_distrib,
      Finset.sdiff_self, Finset.empty_union, Finset.sdiff_eq_self_of_disjoint apart.1,
      Finset.sdiff_eq_self_of_disjoint keptApart]
  rw [← left]
  exact (holds.bookAll bookings).cancelAll cancelled

theorem isFree_of_alike (holds : r.Holds held) {b : Booking}
    (undone : ((r.book b).cancel b).Alike r) : b.IsFree r := by
  intro resource needed
  rw [← undone.isFree, ((holds.book b).cancel b).isFree_iff, Finset.mem_sdiff]
  rintro ⟨-, stays⟩
  exact stays (mem_holdings.mpr ⟨needed, rfl⟩)

end Holds

/-- After any calls a booking is undone by its cancellation exactly if all that it takes up was
free. Bookings that are free one after the other can be cancelled in any order, which leaves
reservations as they were before, and some of them can be cancelled in any order, which leaves the
others. -/
theorem cancellation_undoes_booking (calls : List Call) :
    (∀ b : Booking,
      (((after calls).book b).cancel b).Alike (after calls) ↔ b.IsFree (after calls)) ∧
    ∀ bookings, (after calls).Takes bookings →
      (∀ cancelled, cancelled.Perm bookings →
        (((after calls).bookAll bookings).cancelAll cancelled).Alike (after calls)) ∧
      ∀ cancelled kept, (cancelled ++ kept).Perm bookings →
        (((after calls).bookAll bookings).cancelAll cancelled).Alike
          ((after calls).bookAll kept) := by
  have holds : (after calls).Holds (heldAfter calls) := holds_empty.foldl calls
  refine ⟨fun b => ⟨holds.isFree_of_alike, fun free => ?one⟩, fun bookings takes => ⟨?all, ?some⟩⟩
  case one =>
    have takes : (after calls).Takes [b] := ⟨free, trivial⟩
    have all : ([b] ++ []).Perm [b] := .refl _
    exact (holds.cancelAll_bookAll takes all).alike (holds.bookAll [])
  case all =>
    intro cancelled same
    have all : (cancelled ++ []).Perm bookings := by simpa using same
    exact (holds.cancelAll_bookAll takes all).alike (holds.bookAll [])
  case some =>
    intro cancelled kept all
    exact (holds.cancelAll_bookAll takes all).alike (holds.bookAll kept)

/-- A morning that is taken, and two bookings with namesakes of different kinds, one of them with a
student who is listed twice. -/
theorem cancellation_undoes_booking_namesakes :
    let calls : List Call := [.reserve ⟨.instructor, "ada"⟩ "early", .size]
    let first : Booking := ⟨"ada", "ada", "late", ["ada", "bob", "ada"]⟩
    let second : Booking := ⟨"bob", "hall", "late", ["cleo"]⟩
    first.IsFree (after calls) ∧ (((after calls).book first).cancel first).Alike (after calls) ∧
      (after calls).Takes [first, second] ∧
      (((after calls).bookAll [first, second]).cancelAll [second, first]).Alike (after calls) ∧
      (((after calls).bookAll [first, second]).cancelAll [first]).Alike
        ((after calls).bookAll [second]) := by
  intro calls first second
  obtain ⟨undone_iff, inTurn⟩ := cancellation_undoes_booking calls
  have free : first.IsFree (after calls) := by decide +kernel
  have freeNext : second.IsFree ((after calls).book first) := by decide +kernel
  have takes : (after calls).Takes [first, second] := ⟨free, freeNext, trivial⟩
  obtain ⟨all, some⟩ := inTurn [first, second] takes
  exact ⟨free, (undone_iff first).mpr free, takes, all _ (.swap first second []),
    some [first] [second] (.refl _)⟩

end Reservations

end Timetabling
