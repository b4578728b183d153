import Timetabling.Proofs.Schedule

/-!
# Who attends what

The students of a section are derived from the lists of what each student attends. A repeated
student keeps the last of several lists, and a student of a section is listed there once.
-/

namespace Timetabling

section

variable {α : Type} [DecidableEq α]

theorem idxOf_lt_of_filter {kept : α → Bool} {items : List α} {a b : α}
    (keeps : kept b = true)
    (before : (items.filter kept).idxOf a < (items.filter kept).idxOf b) :
    items.idxOf a < items.idxOf b := by
  induction items with
  | nil => simp at before
  | cons x xs ih =>
    by_cases second : x = b
    · subst second
      rw [List.filter_cons_of_pos keeps, List.idxOf_cons_self] at before
      exact absurd before (Nat.not_lt_zero _)
    · rw [List.idxOf_cons_ne _ second]
      by_cases first : x = a
      · rw [first, List.idxOf_cons_self]
        exact Nat.succ_pos _
      · rw [List.idxOf_cons_ne _ first]
        apply Nat.succ_lt_succ
        apply ih
        by_cases keep : kept x = true
        · rw [List.filter_cons_of_pos keep, List.idxOf_cons_ne _ first,
            List.idxOf_cons_ne _ second] at before
          exact Nat.lt_of_succ_lt_succ before
        · rwa [List.filter_cons_of_neg keep] at before

/-- What is left without repetitions stands in the order of the first occurrences. -/
theorem pairwise_idxOf_eraseDups (items : List α) :
    items.eraseDups.Pairwise fun a b => items.idxOf a < items.idxOf b := by
  induction h : items.length using Nat.strong_induction_on generalizing items with
  | _ n ih =>
    cases items with
    | nil => simp
    | cons first rest =>
      rw [List.eraseDups_cons, List.pairwise_cons]
      have different {a : α} (later : a ∈ (rest.filter fun a => !a == first).eraseDups) :
          first ≠ a := by
        rw [List.mem_eraseDups, List.mem_filter] at later
        rintro rfl
        simp at later
      constructor
      · intro a later
        rw [List.idxOf_cons_self, List.idxOf_cons_ne _ (different later)]
        exact Nat.succ_pos _
      · have shorter : (rest.filter fun a => !a == first).length < n := by
          rw [← h, List.length_cons]
          exact Nat.lt_succ_of_le (List.length_filter_le ..)
        apply (ih _ shorter _ rfl).imp_of_mem
        intro a b ofFirst ofSecond before
        rw [List.idxOf_cons_ne _ (different ofFirst), List.idxOf_cons_ne _ (different ofSecond)]
        apply Nat.succ_lt_succ
        apply idxOf_lt_of_filter _ before
        simpa using (different ofSecond).symm

theorem nodup_eraseDups (items : List α) : items.eraseDups.Nodup := by
  apply (pairwise_idxOf_eraseDups items).imp
  rintro a b before rfl
  exact Nat.lt_irrefl _ before

end

namespace Entries

variable {κ α β : Type} [DecidableEq κ]

theorem get?_append (key : κ) (first second : List (κ × α)) :
    get? key (first ++ second) = (get? key first).or (get? key second) := by
  simp only [get?, List.find?_append]
  cases first.find? fun entry => entry.1 == key <;> rfl

theorem get?_collect (key : κ) (given : List (κ × α)) :
    get? key (collect given) = get? key given.reverse := by
  have added : ∀ entries : List (κ × α),
      get? key (given.foldl (fun entries entry => insert entry.1 entry.2 entries) entries) =
        (get? key given.reverse).or (get? key entries) := by
    induction given with
    | nil => simp [get?]
    | cons entry rest ih =>
      intro entries
      rw [List.foldl_cons, ih, get?_insert, List.reverse_cons, get?_append, Option.or_assoc]
      congr 1
      by_cases same : entry.1 = key <;> simp [get?, same]
  rw [collect, added []]
  simp [get?]

theorem get?_filter_key (key : κ) (kept : κ → Bool) (entries : List (κ × α)) :
    get? key (entries.filter fun entry => kept entry.1) =
      if kept key then get? key entries else none := by
  induction entries with
  | nil => simp [get?]
  | cons entry rest ih =>
    by_cases same : entry.1 = key
    · subst same
      by_cases keep : kept entry.1 = true
      · simp [get?, keep]
      · simpa [keep] using ih
    · by_cases keep : kept entry.1 = true
      · simpa [get?, keep, same] using ih
      · simpa [get?, keep, same] using ih

theorem get?_map_value (key : κ) (change : α → β) (entries : List (κ × α)) :
    get? key (entries.map fun entry => (entry.1, change entry.2)) =
      (get? key entries).map change := by
  simp [get?, List.find?_map, Function.comp_def]

/-- An injective change of the keys is not seen by a search for a changed key. -/
theorem get?_map {κ' : Type} [DecidableEq κ'] {rename : κ → κ'}
    (injective : Function.Injective rename) (change : α → β) (key : κ) (entries : List (κ × α)) :
    get? (rename key) (entries.map (Prod.map rename change)) = (get? key entries).map change := by
  simp [get?, List.find?_map, Function.comp_def, injective.beq_eq]

theorem mem_of_get?_eq_some {key : κ} {value : α} {entries : List (κ × α)}
    (found : get? key entries = some value) : (key, value) ∈ entries := by
  obtain ⟨⟨key', value'⟩, located, rfl⟩ := Option.map_eq_some_iff.mp found
  obtain rfl : key' = key := by simpa using List.find?_some located
  exact List.mem_of_find?_eq_some located

theorem mem_iff_get?_eq_some {key : κ} {value : α} {entries : List (κ × α)}
    (nodup : (entries.map Prod.fst).Nodup) :
    (key, value) ∈ entries ↔ get? key entries = some value := by
  induction entries with
  | nil => simp [get?]
  | cons entry rest ih =>
    obtain ⟨key', value'⟩ := entry
    obtain ⟨fresh, nodup⟩ := List.nodup_cons.mp nodup
    rw [List.mem_cons, ih nodup]
    by_cases same : key' = key
    · subst same
      have absent : get? key' rest = none := by
        rw [get?, Option.map_eq_none_iff, List.find?_eq_none]
        intro entry membership same
        exact fresh (List.mem_map.mpr ⟨entry, membership, beq_iff_eq.mp same⟩)
      rw [absent]
      simp [get?, eq_comm]
    · simp [get?, same, Ne.symm same]

end Entries

/-- Whether a student is enrolled in a section: of several lists given for one student the last one
counts. -/
def Enrolled (enrollments : List (String × List String)) (student sectionId : String) : Prop :=
  ∃ ids, Entries.get? student enrollments.reverse = some ids ∧ sectionId ∈ ids

theorem enrolled_iff {enrollments : List (String × List String)} {student sectionId : String}
    (once : (enrollments.map Prod.fst).Nodup) :
    Enrolled enrollments student sectionId ↔
      ∃ ids, (student, ids) ∈ enrollments ∧ sectionId ∈ ids := by
  have onceReversed : (enrollments.reverse.map Prod.fst).Nodup := by
    rw [List.map_reverse]
    exact List.nodup_reverse.mpr once
  simp only [Enrolled, ← Entries.mem_iff_get?_eq_some onceReversed, List.mem_reverse]

namespace Problem

theorem mem_studentsOf {p : Problem} {student sectionId : String} :
    student ∈ p.studentsOf sectionId ↔
      ∃ ids, (student, ids) ∈ p.enrollments ∧ sectionId ∈ ids := by
  simp [studentsOf]

variable (sections : List Section) (classrooms : List Classroom) (slots : List TimeSlot)
  (preferences enrollments : List (String × List String)) (sectionId : String)

theorem nodup_students_build :
    ((build sections classrooms slots preferences enrollments).studentsOf sectionId).Nodup := by
  have once :=
    Entries.nodup_keys_collect (enrollments.map fun entry => (entry.1, entry.2.eraseDups))
  exact once.sublist (List.filter_sublist.map Prod.fst)

theorem mem_studentsOf_build (student : String) :
    student ∈ (build sections classrooms slots preferences enrollments).studentsOf sectionId ↔
      Enrolled enrollments student sectionId := by
  have once :=
    Entries.nodup_keys_collect (enrollments.map fun entry => (entry.1, entry.2.eraseDups))
  rw [mem_studentsOf]
  change (∃ ids, (student, ids) ∈ Entries.collect _ ∧ _) ↔ _
  simp only [Entries.mem_iff_get?_eq_some once, Entries.get?_collect, ← List.map_reverse,
    Entries.get?_map_value, Option.map_eq_some_iff]
  constructor
  · rintro ⟨_, ⟨ids, listed, rfl⟩, attended⟩
    exact ⟨ids, listed, List.mem_eraseDups.mp attended⟩
  · rintro ⟨ids, listed, attended⟩
    exact ⟨_, ⟨ids, listed, rfl⟩, List.mem_eraseDups.mpr attended⟩

theorem enrolled_known_build_iff {known : List String} :
    (∀ entry ∈ (build sections classrooms slots preferences enrollments).enrollments,
        ∀ id ∈ entry.2, id ∈ known) ↔
      ∀ student id, Enrolled enrollments student id → id ∈ known := by
  simp only [← mem_studentsOf_build sections classrooms slots preferences enrollments,
    mem_studentsOf]
  constructor
  · rintro named student id ⟨ids, listed, attended⟩
    exact named (student, ids) listed id attended
  · rintro named ⟨student, ids⟩ listed id attended
    exact named student id ⟨ids, listed, attended⟩

theorem preferredKeys_build (instructor : String) :
    (build sections classrooms slots preferences enrollments).preferredKeys instructor =
      ((Entries.get? instructor preferences.reverse).map List.eraseDups).getD [] := by
  change (Entries.get? instructor (Entries.collect _)).getD [] = _
  rw [Entries.get?_collect, ← List.map_reverse, Entries.get?_map_value]

end Problem

end Timetabling
