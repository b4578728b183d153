import Timetabling.Proofs.Acceptance

/-!
# Rosters

Who attends a section is found by looking through the enrollments. Gathered the other way round,
each student in turn joins the list of every section that she attends, and a list is opened where
there is none yet. Both give the same rosters, in whatever order the sections of a student are gone
through: the sections of one student are different, so that she joins each list once, behind the
students before her.
-/

namespace Timetabling

theorem eraseDups_eq_self {α : Type} [DecidableEq α] {items : List α} (once : items.Nodup) :
    items.eraseDups = items := by
  induction items with
  | nil => rfl
  | cons first rest ih =>
    obtain ⟨fresh, later⟩ := List.nodup_cons.mp once
    have kept : (rest.filter fun item => !item == first) = rest := by
      apply List.filter_eq_self.mpr
      intro item membership
      simpa using ne_of_mem_of_not_mem membership fresh
    rw [List.eraseDups_cons, kept, ih later]

namespace Entries

variable {κ α : Type} [DecidableEq κ]

theorem insert_of_notMem {key : κ} {value : α} {entries : List (κ × α)}
    (fresh : key ∉ entries.map Prod.fst) :
    insert key value entries = entries ++ [(key, value)] := by
  induction entries with
  | nil => rfl
  | cons entry rest ih =>
    rw [List.map_cons, List.mem_cons, not_or] at fresh
    rw [insert, if_neg (Ne.symm fresh.1), ih fresh.2, List.cons_append]

theorem keys_insert (key : κ) (value : α) (entries : List (κ × α)) :
    (insert key value entries).map Prod.fst =
      if key ∈ entries.map Prod.fst then entries.map Prod.fst
      else entries.map Prod.fst ++ [key] := by
  induction entries with
  | nil => rfl
  | cons entry rest ih =>
    obtain ⟨k, v⟩ := entry
    by_cases same : k = key
    · subst same
      simp [insert]
    · rw [insert, if_neg same, List.map_cons, ih, List.map_cons]
      by_cases later : key ∈ rest.map Prod.fst <;> simp [later, Ne.symm same]

theorem collect_concat (given : List (κ × α)) (entry : κ × α) :
    collect (given ++ [entry]) = insert entry.1 entry.2 (collect given) := by
  rw [collect, List.foldl_append, List.foldl_cons, List.foldl_nil, collect]

theorem keys_collect (given : List (κ × α)) :
    (collect given).map Prod.fst = (given.map Prod.fst).eraseDups := by
  induction given using List.reverseRecOn with
  | nil => rfl
  | append_singleton given entry ih =>
    rw [collect_concat, keys_insert, ih, List.map_append, List.eraseDups_append]
    by_cases before : entry.1 ∈ given.map Prod.fst
    · simp [List.mem_eraseDups, before, List.removeAll]
    · simp [List.mem_eraseDups, before, List.removeAll, List.eraseDups_cons]

theorem collect_eq_self {given : List (κ × α)} (nodup : (given.map Prod.fst).Nodup) :
    collect given = given := by
  induction given using List.reverseRecOn with
  | nil => rfl
  | append_singleton given entry ih =>
    rw [List.map_append, List.nodup_append] at nodup
    rw [collect_concat, ih nodup.1, insert_of_notMem]
    intro listed
    exact nodup.2.2 entry.1 listed entry.1 (List.mem_singleton_self _) rfl

theorem mem_of_mem_collect {given : List (κ × α)} {entry : κ × α}
    (membership : entry ∈ collect given) : entry ∈ given := by
  have found := (mem_iff_get?_eq_some (nodup_keys_collect given)).mp membership
  rw [get?_collect] at found
  exact List.mem_reverse.mp (mem_of_get?_eq_some found)

theorem get?_map_key (key : κ) (value : κ → α) (keys : List κ) :
    get? key (keys.map fun k => (k, value k)) = if key ∈ keys then some (value key) else none := by
  induction keys with
  | nil => rfl
  | cons k rest ih =>
    by_cases same : k = key
    · subst same
      simp [get?]
    · simpa [get?, same, Ne.symm same] using ih

end Entries

/-- The students of sections, by the identifiers of the sections. -/
abbrev Rosters := List (String × List String)

namespace Rosters

/-- A student joins the list of a section, which is opened if there is none. -/
def join (student : String) (rosters : Rosters) (sectionId : String) : Rosters :=
  Entries.insert sectionId ((Entries.get? sectionId rosters).getD [] ++ [student]) rosters

def joinAll (rosters : Rosters) (entry : String × List String) : Rosters :=
  entry.2.foldl (join entry.1) rosters

/-- The lists of the sections, empty at first, which one student after the other joins. -/
def gather (sectionIds : List String) (enrollments : List (String × List String)) : Rosters :=
  enrollments.foldl joinAll (Entries.collect (sectionIds.map fun id => (id, [])))

/-- Whether one and the same sections are listed for the same students, in any order. -/
def Reordered (enrollments listed : List (String × List String)) : Prop :=
  List.Forall₂ (fun entry other => entry.1 = other.1 ∧ entry.2.Perm other.2) enrollments listed

def students (rosters : Rosters) (sectionId : String) : List String :=
  (Entries.get? sectionId rosters).getD []

def HasList (rosters : Rosters) (sectionId : String) : Prop :=
  (Entries.get? sectionId rosters).isSome = true

theorem students_joinAll {rosters : Rosters} {entry : String × List String}
    (once : entry.2.Nodup) (id : String) :
    (rosters.joinAll entry).students id =
      rosters.students id ++ if id ∈ entry.2 then [entry.1] else [] := by
  obtain ⟨student, ids⟩ := entry
  unfold joinAll
  induction ids generalizing rosters with
  | nil => simp
  | cons first rest ih =>
    obtain ⟨fresh, later⟩ := List.nodup_cons.mp once
    rw [List.foldl_cons, ih later, students, join, Entries.get?_insert]
    by_cases here : first = id
    · subst here
      simp [fresh, students]
    · simp [here, Ne.symm here, students]

theorem hasList_joinAll {rosters : Rosters} {entry : String × List String} {id : String} :
    (rosters.joinAll entry).HasList id ↔ rosters.HasList id ∨ id ∈ entry.2 := by
  obtain ⟨student, ids⟩ := entry
  unfold joinAll
  induction ids generalizing rosters with
  | nil => simp
  | cons first rest ih =>
    rw [List.foldl_cons, ih, HasList, join, Entries.get?_insert, List.mem_cons]
    by_cases here : first = id
    · simp [here]
    · simp [here, Ne.symm here, HasList]

/-- Every student joins the lists behind the students before her. -/
theorem students_foldl_joinAll {rosters : Rosters} {listed : List (String × List String)}
    (once : ∀ entry ∈ listed, entry.2.Nodup) (id : String) :
    (listed.foldl joinAll rosters).students id =
      rosters.students id ++ (listed.filter fun entry => entry.2.contains id).map Prod.fst := by
  induction listed generalizing rosters with
  | nil => simp
  | cons entry rest ih =>
    obtain ⟨here, later⟩ := List.forall_mem_cons.mp once
    rw [List.foldl_cons, ih later, students_joinAll here]
    by_cases attended : id ∈ entry.2 <;> simp [attended]

theorem hasList_foldl_joinAll {rosters : Rosters} {listed : List (String × List String)}
    {id : String} :
    (listed.foldl joinAll rosters).HasList id ↔
      rosters.HasList id ∨ ∃ entry ∈ listed, id ∈ entry.2 := by
  induction listed generalizing rosters with
  | nil => simp
  | cons entry rest ih =>
    rw [List.foldl_cons, ih, hasList_joinAll, or_assoc, List.exists_mem_cons_iff]

theorem get?_opened (sectionIds : List String) (id : String) :
    Entries.get? id (Entries.collect (sectionIds.map fun id => (id, ([] : List String)))) =
      if id ∈ sectionIds then some [] else none := by
  rw [Entries.get?_collect, ← List.map_reverse, Entries.get?_map_key]
  simp

variable {sectionIds : List String} {enrollments listed : List (String × List String)}

theorem students_gather (once : ∀ entry ∈ listed, entry.2.Nodup) (id : String) :
    (gather sectionIds listed).students id =
      (listed.filter fun entry => entry.2.contains id).map Prod.fst := by
  have opened : students (Entries.collect (sectionIds.map fun id => (id, []))) id = [] := by
    rw [students, get?_opened]
    split <;> rfl
  rw [gather, students_foldl_joinAll once, opened, List.nil_append]

theorem hasList_gather {id : String} :
    (gather sectionIds listed).HasList id ↔ id ∈ sectionIds ∨ ∃ entry ∈ listed, id ∈ entry.2 := by
  rw [gather, hasList_foldl_joinAll, HasList, get?_opened]
  simp

theorem Reordered.nodup (reordered : Reordered enrollments listed)
    (once : ∀ entry ∈ enrollments, entry.2.Nodup) : ∀ entry ∈ listed, entry.2.Nodup := by
  induction reordered with
  | nil => simp
  | cons same _ ih =>
    rw [List.forall_mem_cons] at once ⊢
    exact ⟨same.2.nodup_iff.mp once.1, ih once.2⟩

theorem Reordered.filter_eq (reordered : Reordered enrollments listed) (id : String) :
    (listed.filter fun entry => entry.2.contains id).map Prod.fst =
      (enrollments.filter fun entry => entry.2.contains id).map Prod.fst := by
  induction reordered with
  | nil => rfl
  | @cons entry other rest others same _ ih =>
    have attends : other.2.contains id = entry.2.contains id := by
      simp only [List.contains_eq_mem, same.2.mem_iff]
    simp only [List.filter_cons, attends]
    split
    · rw [List.map_cons, List.map_cons, ih, same.1]
    · exact ih

theorem Reordered.attended_iff (reordered : Reordered enrollments listed) {id : String} :
    (∃ entry ∈ listed, id ∈ entry.2) ↔ ∃ entry ∈ enrollments, id ∈ entry.2 := by
  induction reordered with
  | nil => rfl
  | cons same _ ih => rw [List.exists_mem_cons_iff, List.exists_mem_cons_iff, ih, same.2.mem_iff]

end Rosters

theorem enrolled_iff_any {enrollments : List (String × List String)} {student sectionId : String} :
    (Entries.get? student enrollments.reverse).any (fun ids => ids.contains sectionId) = true ↔
      Enrolled enrollments student sectionId := by
  simp [Enrolled, Option.any_eq_true]

instance (enrollments : List (String × List String)) (student sectionId : String) :
    Decidable (Enrolled enrollments student sectionId) :=
  decidable_of_iff _ enrolled_iff_any

namespace Problem

open Rosters

theorem get?_rosters (p : Problem) (id : String) :
    Entries.get? id p.rosters =
      if id ∈ p.sectionIds ∨ ∃ entry ∈ p.enrollments, id ∈ entry.2 then some (p.studentsOf id)
      else none := by
  rw [rosters, Entries.get?_map_key]
  congr 1
  simp [Text.sortedSet, Text.sorted, stableSort_eq_mergeSort, List.mem_eraseDups, sectionIds]

/-- The rosters of a problem are those that its students make by joining one section after the
other. -/
theorem gather_eq (p : Problem) (once : ∀ entry ∈ p.enrollments, entry.2.Nodup)
    {listed : List (String × List String)} (reordered : Reordered p.enrollments listed)
    (id : String) :
    Entries.get? id (gather p.sectionIds listed) = Entries.get? id p.rosters := by
  have attending : (gather p.sectionIds listed).students id = p.studentsOf id := by
    rw [students_gather (reordered.nodup once), reordered.filter_eq, studentsOf]
  have opened : (gather p.sectionIds listed).HasList id ↔
      id ∈ p.sectionIds ∨ ∃ entry ∈ p.enrollments, id ∈ entry.2 := by
    rw [hasList_gather, reordered.attended_iff]
  rw [get?_rosters]
  split
  next named =>
    obtain ⟨students, found⟩ := Option.isSome_iff_exists.mp (opened.mpr named)
    rw [Rosters.students, found, Option.getD_some] at attending
    rw [found, attending]
  next unnamed =>
    rw [← opened, HasList, Option.not_isSome_iff_eq_none] at unnamed
    exact unnamed

section Build

variable (sections : List Section) (classrooms : List Classroom) (slots : List TimeSlot)
  (preferences enrollments : List (String × List String))

theorem nodup_of_mem_enrollments {entry : String × List String}
    (membership : entry ∈ (build sections classrooms slots preferences enrollments).enrollments) :
    entry.2.Nodup := by
  obtain ⟨given, -, rfl⟩ := List.mem_map.mp (Entries.mem_of_mem_collect membership)
  exact nodup_eraseDups _

/-- The students of a section stand in the order in which they are first named. -/
theorem studentsOf_build (id : String) :
    (build sections classrooms slots preferences enrollments).studentsOf id =
      (enrollments.map Prod.fst).eraseDups.filter fun student =>
        decide (Enrolled enrollments student id) := by
  have once :=
    Entries.nodup_keys_collect (enrollments.map fun entry => (entry.1, entry.2.eraseDups))
  have named :
      (build sections classrooms slots preferences enrollments).enrollments.map Prod.fst =
        (enrollments.map Prod.fst).eraseDups := by
    rw [build, Entries.keys_collect, List.map_map]
    rfl
  rw [← named, List.filter_map, studentsOf]
  congr 1
  apply List.filter_congr
  intro entry membership
  rw [List.contains_eq_mem, Function.comp_apply, decide_eq_decide,
    ← mem_studentsOf_build sections classrooms slots preferences, mem_studentsOf]
  constructor
  · intro attended
    exact ⟨entry.2, membership, attended⟩
  · rintro ⟨ids, listed, attended⟩
    -- A student has one list only.
    have found := (Entries.mem_iff_get?_eq_some once).mp membership
    rw [(Entries.mem_iff_get?_eq_some once).mp listed, Option.some.injEq] at found
    rwa [← found]

theorem collect_eraseDups (given : List (String × List String)) :
    let kept := Entries.collect (given.map fun entry => (entry.1, entry.2.eraseDups))
    Entries.collect (kept.map fun entry => (entry.1, entry.2.eraseDups)) = kept := by
  intro kept
  have unchanged : kept.map (fun entry => (entry.1, entry.2.eraseDups)) = kept.map id := by
    apply List.map_congr_left
    intro entry membership
    obtain ⟨original, -, rfl⟩ := List.mem_map.mp (Entries.mem_of_mem_collect membership)
    rw [eraseDups_eq_self (nodup_eraseDups original.2), id]
  rw [unchanged, List.map_id]
  exact Entries.collect_eq_self (Entries.nodup_keys_collect _)

/-- A problem that is built from the parts of a built problem is the same problem. -/
theorem build_build :
    let p := build sections classrooms slots preferences enrollments
    build p.sections p.classrooms p.slots p.preferences p.enrollments = p := by
  simp only [build, eraseDups_eq_self (nodup_eraseDups slots), collect_eraseDups]

/-- The students of a section are those who are enrolled in it, each once and in the order of the
enrollments. They are the same if every student in turn joins the sections that she attends, in
whatever order these are gone through, and every section has a list. Of the slots the first
occurrences are kept, in order, and a problem that is built from the parts of a built one is the
same. -/
theorem rosters_invert_enrollments :
    let p : Problem := build sections classrooms slots preferences enrollments
    (∀ sectionId student, (p.studentsOf sectionId).count student =
      if Enrolled enrollments student sectionId then 1 else 0) ∧
    (∀ sectionId, p.studentsOf sectionId =
      (enrollments.map Prod.fst).eraseDups.filter fun student =>
        decide (Enrolled enrollments student sectionId)) ∧
    (∀ listed, Reordered p.enrollments listed → ∀ sectionId,
      (gather p.sectionIds listed).students sectionId = p.studentsOf sectionId ∧
        Entries.get? sectionId (gather p.sectionIds listed) = Entries.get? sectionId p.rosters) ∧
    (∀ sec ∈ sections, Entries.get? sec.id p.rosters = some (p.studentsOf sec.id)) ∧
    (p.slots.Nodup ∧ (∀ slot, slot ∈ p.slots ↔ slot ∈ slots) ∧
      p.slots.Pairwise fun first second => slots.idxOf first < slots.idxOf second) ∧
    build p.sections p.classrooms p.slots p.preferences p.enrollments = p := by
  intro p
  have once (entry) (membership : entry ∈ p.enrollments) : entry.2.Nodup :=
    nodup_of_mem_enrollments sections classrooms slots preferences enrollments membership
  refine ⟨?exact, studentsOf_build sections classrooms slots preferences enrollments, ?gathered,
    ?listed,
    ⟨nodup_eraseDups slots, fun slot => List.mem_eraseDups, pairwise_idxOf_eraseDups slots⟩,
    build_build sections classrooms slots preferences enrollments⟩
  case exact =>
    intro sectionId student
    rw [(nodup_students_build sections classrooms slots preferences enrollments sectionId).count]
    simp only [mem_studentsOf_build]
  case gathered =>
    intro listed reordered sectionId
    refine ⟨?_, p.gather_eq once reordered sectionId⟩
    rw [students_gather (reordered.nodup once), reordered.filter_eq, studentsOf]
  case listed =>
    intro sec membership
    rw [get?_rosters, if_pos (.inl (List.mem_map.mpr ⟨sec, membership, rfl⟩))]

end Build

/-- A student with two lists, of which the last one counts, and two with a section that there is
not; the sections of one student are gone through backwards. -/
theorem rosters_invert_enrollments_guests :
    let enrollments := [("ann", ["logic"]), ("bob", ["algebra", "chess", "algebra"]),
      ("ann", ["chess", "algebra"])]
    let p := build [⟨"algebra", "ada", 20, false⟩, ⟨"logic", "bob", 10, true⟩] [] [] [] enrollments
    let listed := [("ann", ["algebra", "chess"]), ("bob", ["chess", "algebra"])]
    Reordered p.enrollments listed ∧
      (gather p.sectionIds listed).students "chess" = p.studentsOf "chess" ∧
      p.studentsOf "chess" = ["ann", "bob"] ∧
      Entries.get? "logic" p.rosters = some [] := by
  intro enrollments p listed
  have reordered : Reordered p.enrollments listed := by
    have built :
        p.enrollments = [("ann", ["chess", "algebra"]), ("bob", ["algebra", "chess"])] := by
      decide +kernel
    rw [built]
    exact .cons ⟨rfl, .swap ..⟩ (.cons ⟨rfl, .swap ..⟩ .nil)
  obtain ⟨-, -, gathered, listed', -⟩ := rosters_invert_enrollments
    [⟨"algebra", "ada", 20, false⟩, ⟨"logic", "bob", 10, true⟩] [] [] [] enrollments
  refine ⟨reordered, (gathered listed reordered "chess").1, by decide +kernel, ?_⟩
  have empty : p.studentsOf "logic" = [] := by decide +kernel
  rw [← empty]
  exact listed' ⟨"logic", "bob", 10, true⟩ (by decide)

end Problem

end Timetabling
