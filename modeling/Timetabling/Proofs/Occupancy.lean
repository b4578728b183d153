import Timetabling.Problem.Conflict
import Timetabling.Proofs.Schedule

/-!
# What reservations stand for

Reservations keep slot keys but no owners. `Books` says that they hold exactly what a list of
lessons occupies. Placing a session keeps this; taking it back does so only because no other lesson
owns one of the released keys, which is where the lessons have to be apart.
-/

namespace Timetabling

namespace Reservations

theorem usedKeys_reserve (r : Reservations) (a b : Resource) (key : String) :
    (r.reserve a key).usedKeys b =
      if a = b ∧ r.isFree a key = true then key :: r.usedKeys b else r.usedKeys b := by
  by_cases free : r.isFree a key = true
  · by_cases same : a = b
    · subst same
      simp [reserve, free, usedKeys, Std.TreeMap.getD_insert_self]
    · have different : ¬Resource.order a b = .eq := fun h => same (Std.LawfulEqCmp.eq_of_compare h)
      simp [reserve, free, usedKeys, Std.TreeMap.getD_insert, different, same]
  · simp [reserve, free]

theorem usedKeys_release (r : Reservations) (a b : Resource) (key : String) :
    (r.release a key).usedKeys b =
      if a = b then (r.usedKeys b).filter (fun k => k != key) else r.usedKeys b := by
  by_cases same : a = b
  · subst same
    rw [if_pos rfl]
    unfold release
    split
    next nothingLeft => rw [nothingLeft]; simp [usedKeys, Std.TreeMap.getD_erase_self]
    next => simp [usedKeys, Std.TreeMap.getD_insert_self]
  · have different : ¬Resource.order a b = .eq := fun h => same (Std.LawfulEqCmp.eq_of_compare h)
    rw [if_neg same]
    unfold release
    split
    next => simp [usedKeys, Std.TreeMap.getD_erase, different]
    next => simp [usedKeys, Std.TreeMap.getD_insert, different]

/-- No resource has a slot key twice. -/
def Distinct (r : Reservations) : Prop :=
  ∀ resource, (r.usedKeys resource).Nodup

theorem distinct_empty : Distinct {} := by
  intro resource
  simp [usedKeys]

theorem Distinct.reserve {r : Reservations} (distinct : r.Distinct) (a : Resource) (key : String) :
    (r.reserve a key).Distinct := by
  intro b
  rw [usedKeys_reserve]
  split
  next added =>
    obtain ⟨rfl, free⟩ := added
    exact List.nodup_cons.mpr ⟨isFree_iff.mp free, distinct a⟩
  next => exact distinct b

theorem Distinct.release {r : Reservations} (distinct : r.Distinct) (a : Resource) (key : String) :
    (r.release a key).Distinct := by
  intro b
  rw [usedKeys_release]
  split
  next => exact (distinct b).filter _
  next => exact distinct b

theorem Distinct.foldl {r : Reservations} (distinct : r.Distinct)
    {change : Reservations → Resource → Reservations}
    (keeps : ∀ r resource, Distinct r → Distinct (change r resource)) (resources : List Resource) :
    (resources.foldl change r).Distinct := by
  induction resources generalizing r with
  | nil => exact distinct
  | cons resource rest ih => exact ih (keeps r resource distinct)

/-- Only resources with a slot key have an entry. -/
def Pruned (r : Reservations) : Prop :=
  ∀ resource ∈ r.taken, r.usedKeys resource ≠ []

theorem pruned_empty : Pruned {} := by
  intro resource entry
  simp at entry

theorem Pruned.reserve {r : Reservations} (pruned : r.Pruned) (a : Resource) (key : String) :
    (r.reserve a key).Pruned := by
  intro b entry
  rw [usedKeys_reserve]
  split
  next => exact List.cons_ne_nil _ _
  next old =>
    apply pruned b
    unfold Reservations.reserve at entry
    split at entry
    next free =>
      rcases Std.TreeMap.mem_insert.mp entry with equal | before
      · exact absurd ⟨Std.LawfulEqCmp.eq_of_compare equal, free⟩ old
      · exact before
    next => exact entry

theorem Pruned.release {r : Reservations} (pruned : r.Pruned) (a : Resource) (key : String) :
    (r.release a key).Pruned := by
  intro b entry
  rw [usedKeys_release]
  unfold Reservations.release at entry
  split at entry
  next =>
    obtain ⟨different, before⟩ := Std.TreeMap.mem_erase.mp entry
    have notSame : a ≠ b := by
      rintro rfl
      exact different Std.ReflCmp.compare_self
    rw [if_neg notSame]
    exact pruned b before
  next keys someLeft =>
    split
    next same =>
      rw [← same]
      exact someLeft
    next different =>
      rcases Std.TreeMap.mem_insert.mp entry with equal | before
      · exact absurd (Std.LawfulEqCmp.eq_of_compare equal) different
      · exact pruned b before

theorem Pruned.place {r : Reservations} (pruned : r.Pruned) (session : Session)
    (placement : Placement) : (r.place session placement).Pruned :=
  List.foldlRecOn _ _ pruned fun _ kept resource _ => kept.reserve resource _

theorem Pruned.unplace {r : Reservations} (pruned : r.Pruned) (session : Session)
    (placement : Placement) : (r.unplace session placement).Pruned :=
  List.foldlRecOn _ _ pruned fun _ kept resource _ => kept.release resource _

theorem Pruned.eq_empty {r : Reservations} (pruned : r.Pruned)
    (unused : ∀ resource, r.usedKeys resource = []) : r = {} := by
  have noEntry : r.taken.isEmpty = true :=
    Std.TreeMap.isEmpty_iff_forall_not_mem.mpr fun resource entry =>
      pruned resource entry (unused resource)
  obtain ⟨⟨⟨tree, _⟩⟩⟩ := r
  cases tree with
  | leaf => rfl
  | inner => cases noEntry

theorem mem_usedKeys_reserveAll {r : Reservations} {resources : List Resource} {b : Resource}
    {key k : String} :
    k ∈ (resources.foldl (fun r resource => r.reserve resource key) r).usedKeys b ↔
      (b ∈ resources ∧ k = key) ∨ k ∈ r.usedKeys b := by
  induction resources generalizing r with
  | nil => simp
  | cons resource rest ih =>
    rw [List.foldl_cons, ih, mem_usedKeys_reserve, List.mem_cons]
    constructor
    · rintro (⟨later, sameKey⟩ | ⟨rfl, sameKey⟩ | before)
      · exact .inl ⟨.inr later, sameKey⟩
      · exact .inl ⟨.inl rfl, sameKey⟩
      · exact .inr before
    · rintro (⟨rfl | later, sameKey⟩ | before)
      · exact .inr (.inl ⟨rfl, sameKey⟩)
      · exact .inl ⟨later, sameKey⟩
      · exact .inr (.inr before)

theorem mem_usedKeys_releaseAll {r : Reservations} {resources : List Resource} {b : Resource}
    {key k : String} :
    k ∈ (resources.foldl (fun r resource => r.release resource key) r).usedKeys b ↔
      ¬(b ∈ resources ∧ k = key) ∧ k ∈ r.usedKeys b := by
  induction resources generalizing r with
  | nil => simp
  | cons resource rest ih =>
    rw [List.foldl_cons, ih, mem_usedKeys_release, List.mem_cons]
    constructor
    · rintro ⟨notLater, notHere, before⟩
      refine ⟨?_, before⟩
      rintro ⟨rfl | later, sameKey⟩
      · exact notHere ⟨rfl, sameKey⟩
      · exact notLater ⟨later, sameKey⟩
    · rintro ⟨notReleased, before⟩
      exact ⟨fun later => notReleased ⟨.inr later.1, later.2⟩,
        fun here => notReleased ⟨.inl here.1.symm, here.2⟩, before⟩

/-- The reservations hold exactly the slot keys of the lessons, each once for each resource. -/
structure Books (r : Reservations) (lessons : List Lesson) : Prop where
  mem_usedKeys : ∀ resource key, key ∈ r.usedKeys resource ↔
    ∃ l ∈ lessons, l.slotKey = key ∧ resource ∈ l.resources
  distinct : r.Distinct

theorem books_empty : Books {} [] where
  mem_usedKeys resource key := by simp [usedKeys]
  distinct := distinct_empty

namespace Books

variable {r : Reservations} {lessons : List Lesson}

theorem place (books : r.Books lessons) (session : Session) (placement : Placement) :
    (r.place session placement).Books (⟨session, placement⟩ :: lessons) where
  mem_usedKeys resource key := by
    rw [Reservations.place, reservePlacement, mem_usedKeys_reserveAll, books.mem_usedKeys,
      List.exists_mem_cons_iff]
    exact or_congr_left ⟨fun h => ⟨h.2.symm, h.1⟩, fun h => ⟨h.2, h.1.symm⟩⟩
  distinct := books.distinct.foldl (fun _ resource kept => kept.reserve resource _) _

theorem unplace {session : Session} {placement : Placement}
    (books : r.Books (⟨session, placement⟩ :: lessons))
    (separate : ∀ other ∈ lessons, ¬ (⟨session, placement⟩ : Lesson).Clash other) :
    (r.unplace session placement).Books lessons where
  mem_usedKeys resource key := by
    rw [Reservations.unplace, releasePlacement, mem_usedKeys_releaseAll, books.mem_usedKeys,
      List.exists_mem_cons_iff]
    constructor
    · rintro ⟨notReleased, here | other⟩
      · exact absurd ⟨here.2, here.1.symm⟩ notReleased
      · exact other
    · rintro ⟨other, membership, sameKey, occupied⟩
      refine ⟨?_, .inr ⟨other, membership, sameKey, occupied⟩⟩
      -- A released pair that another lesson owns too would be a clash.
      rintro ⟨released, releasedKey⟩
      exact separate other membership
        (Lesson.clash_iff.mpr ⟨releasedKey.symm.trans sameKey.symm, resource, released, occupied⟩)
  distinct := books.distinct.foldl (fun _ resource kept => kept.release resource _) _

theorem of_mem_iff {others : List Lesson} (books : r.Books lessons)
    (same : ∀ l, l ∈ others ↔ l ∈ lessons) : r.Books others where
  mem_usedKeys resource key := by simp only [books.mem_usedKeys, same]
  distinct := books.distinct

theorem isFree_iff (books : r.Books lessons) {resource : Resource} {key : String} :
    r.isFree resource key = true ↔
      ∀ l ∈ lessons, l.slotKey = key → resource ∉ l.resources := by
  rw [Reservations.isFree_iff, books.mem_usedKeys]
  simp

theorem usage_classroom (books : r.Books lessons) (classroomId : String) :
    r.usage ⟨.classroom, classroomId⟩ = (Lesson.keysIn lessons classroomId).card := by
  rw [usage, ← List.toFinset_card_of_nodup (books.distinct _)]
  congr 1
  ext key
  rw [List.mem_toFinset, books.mem_usedKeys, Lesson.mem_keysIn]
  simp [Lesson.mem_resources, eq_comm]

end Books

end Reservations

/-- A session fits at a placement if all that it occupies there is free and the classroom is large
enough. -/
theorem fits_iff {session : Session} {placement : Placement} {r : Reservations} :
    fits session placement r = true ↔
      (∀ resource ∈ (⟨session, placement⟩ : Lesson).resources,
        r.isFree resource placement.slot.key = true) ∧
        session.capacity ≤ placement.classroom.capacity := by
  simp only [fits, conflict?, Lesson.resources, Reservations.occupied, List.forall_mem_cons,
    List.forall_mem_map]
  split
  next taken => simp_all
  next =>
    split
    next => simp_all
    next =>
      split
      next => simp_all
      next => split <;> simp_all

theorem Reservations.Books.fits_iff {r : Reservations} {lessons : List Lesson}
    (books : r.Books lessons) {session : Session} {placement : Placement} :
    fits session placement r = true ↔
      (∀ other ∈ lessons, ¬ (⟨session, placement⟩ : Lesson).Clash other) ∧
        session.capacity ≤ placement.classroom.capacity := by
  rw [Timetabling.fits_iff]
  refine and_congr_left fun _ => ?_
  constructor
  · rintro free other membership clash
    obtain ⟨sameKey, resource, ofNew, ofOther⟩ := Lesson.clash_iff.mp clash
    exact books.isFree_iff.mp (free resource ofNew) other membership sameKey.symm ofOther
  · intro separate resource ofNew
    refine books.isFree_iff.mpr fun other membership sameKey ofOther => ?_
    exact separate other membership
      (Lesson.clash_iff.mpr ⟨sameKey.symm, resource, ofNew, ofOther⟩)

end Timetabling
