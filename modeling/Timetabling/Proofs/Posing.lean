import Timetabling.Proofs.Acceptance
import Timetabling.Proofs.Generation

/-!
# The problem that a request poses

A request is checked when it is read, and its problem is checked again before it is solved. The
second check never finds a fault: what the readers let through is a problem that is accepted, and it
lists what the request lists.
-/

namespace Timetabling

open Validated

/-! ### Preferences as they are read -/

namespace Reader

variable {α : Type} {reader : Reader α} {v : Value}

theorem listOf_eq_valid_iff {xs : List α} :
    listOf reader v = .valid xs ↔
      ∃ vs, v = .list vs ∧ List.Forall₂ (fun v x => reader v = .valid x) vs xs := by
  simp only [listOf, andThen_eq_valid_iff, items_eq_valid_iff, allFrom_eq_valid_iff]

theorem allEntries_eq_valid_iff {given : List (String × Value)} {read : List (String × α)} :
    allEntries reader given = .valid read ↔
      List.Forall₂ (fun u x => u.1 = x.1 ∧ reader u.2 = .valid x.2) given read := by
  induction given generalizing read with
  | nil => cases read <;> simp [allEntries]
  | cons entry rest ih =>
    obtain ⟨name, u⟩ := entry
    simp only [allEntries, apply_eq_valid_iff, map_eq_valid_iff, under_eq_valid_iff, ih]
    constructor
    · rintro ⟨_, later, ⟨x, first, rfl⟩, others, rfl⟩
      exact .cons ⟨rfl, first⟩ others
    · intro accepted
      cases accepted with
      | @cons _ entry _ later first others =>
        obtain ⟨_, x⟩ := entry
        obtain ⟨rfl, first⟩ := first
        exact ⟨_, later, ⟨x, first, rfl⟩, others, rfl⟩

theorem mapOf_eq_valid_iff {read : List (String × α)} :
    mapOf reader v = .valid read ↔ ∃ given, v = .record given ∧
      List.Forall₂ (fun u x => u.1 = x.1 ∧ reader u.2 = .valid x.2) given read := by
  cases v <;> simp [mapOf, allEntries_eq_valid_iff]

end Reader

/-- What is found for a key has been read from what is given for it. -/
theorem Entries.get?_forall₂ {α β : Type} {related : α → β → Prop} {given : List (String × α)}
    {read : List (String × β)} (name : String)
    (entries : List.Forall₂ (fun u x => u.1 = x.1 ∧ related u.2 x.2) given read) :
    Option.Rel related (get? name given) (get? name read) := by
  induction entries with
  | nil => exact .none
  | @cons u x _ _ first _ ih =>
    obtain ⟨same, first⟩ := first
    unfold get? at ih ⊢
    by_cases here : u.1 = name
    · rw [List.find?_cons_of_pos (by simpa using here),
        List.find?_cons_of_pos (by simpa [← same] using here)]
      exact .some first
    · rw [List.find?_cons_of_neg (by simpa using here),
        List.find?_cons_of_neg (by simpa [← same] using here)]
      exact ih

theorem bind_eq_ok_iff {ε α β : Type} {x : Except ε α} {f : α → Except ε β} {b : β} :
    (x >>= f) = .ok b ↔ ∃ a, x = .ok a ∧ f a = .ok b := by
  cases x <;> simp [bind, Except.bind]

theorem mem_iff_of_forall₂ {α β : Type} {related : α → β → Prop} {given : List α} {read : List β}
    (functional : ∀ a b c, related a b → related a c → b = c)
    (items : List.Forall₂ related given read) {b : β} :
    b ∈ read ↔ ∃ a ∈ given, related a b := by
  induction items with
  | nil => simp
  | @cons a c _ _ first _ ih =>
    rw [List.mem_cons, List.exists_mem_cons_iff, ih]
    apply or_congr_left
    constructor
    · rintro rfl
      exact first
    · intro other
      exact functional a b c other first

namespace Value

def itemsAt (name : String) : Value → List Value
  | .record entries =>
    match Entries.get? name entries with
    | some (.list items) => items
    | _ => []
  | _ => []

def entriesAt (name : String) : Value → List (String × Value)
  | .record entries =>
    match Entries.get? name entries with
    | some (.record given) => given
    | _ => []
  | _ => []

end Value

namespace Preference

open Reader

theorem normalKeys_eq_ok_iff {texts keys : List String} :
    normalKeys texts = .ok keys ↔
      List.Forall₂ (fun text key => SlotKey.normalize text = .ok key) texts keys := by
  induction texts generalizing keys with
  | nil => cases keys <;> simp [normalKeys, eq_comm]
  | cons text rest ih =>
    simp only [normalKeys, bind_eq_ok_iff, ih]
    constructor
    · rintro ⟨key, first, later, others, same⟩
      cases same
      exact .cons first others
    · intro accepted
      cases accepted with
      | @cons _ key _ later first others => exact ⟨key, first, later, others, rfl⟩

variable {v : Value} {pref : Preference}

theorem forall₂_of_readKeys {keys : List String} (read : readKeys v = .valid keys) :
    ∃ items, v = .list items ∧ List.Forall₂
      (fun w key => ∃ text, w = .text text ∧ SlotKey.normalize text = .ok key) items keys := by
  obtain ⟨texts, listed, checked⟩ := andThen_eq_valid_iff.mp read
  obtain ⟨items, rfl, given⟩ := listOf_eq_valid_iff.mp listed
  refine ⟨items, rfl, ?_⟩
  cases ended : normalKeys texts with
  | error fault => simp [ended] at checked
  | ok normal =>
    simp only [ended, valid.injEq] at checked
    have normalized := normalKeys_eq_ok_iff.mp ended
    rw [checked] at normalized
    clear read listed checked ended
    induction given generalizing keys with
    | nil =>
      cases normalized
      exact .nil
    | cons first _ ih =>
      cases normalized with
      | cons key others => exact .cons ⟨_, text_eq_valid_iff.mp first, key⟩ (ih others)

theorem ofValue_eq_valid_iff :
    ofValue v = .valid pref ↔ ∃ entries, v = .record entries ∧
      fieldOr "preferred_slot_keys" [] readKeys entries = .valid pref.keys ∧
      fieldOr "preferred_slots" [] (listOf TimeSlot.ofValue) entries = .valid pref.slots := by
  obtain ⟨keys, slots⟩ := pref
  simp only [ofValue, record_eq_valid_iff, seq_eq_valid_iff, fmap_eq_valid_iff,
    exists_exists_and_eq_and, mk.injEq, ↓existsAndEq, and_true]

theorem mem_keys_iff (read : ofValue v = .valid pref) {key : String} :
    key ∈ pref.keys ↔
      ∃ text, .text text ∈ v.itemsAt "preferred_slot_keys" ∧ SlotKey.normalize text = .ok key := by
  obtain ⟨entries, rfl, keys, -⟩ := ofValue_eq_valid_iff.mp read
  rcases fieldOr_eq_valid_iff.mp keys with ⟨missing, empty⟩ | ⟨w, found, accepted⟩
  · simp [Value.itemsAt, missing, ← empty]
  · obtain ⟨items, rfl, normalized⟩ := forall₂_of_readKeys accepted
    rw [mem_iff_of_forall₂ _ normalized]
    · simp only [Value.itemsAt, found]
      constructor
      · rintro ⟨_, listed, text, rfl, normal⟩
        exact ⟨text, listed, normal⟩
      · rintro ⟨text, listed, normal⟩
        exact ⟨_, listed, text, rfl, normal⟩
    · rintro _ first second ⟨text, rfl, normal⟩ ⟨_, same, normal'⟩
      cases same
      exact Except.ok.inj (normal.symm.trans normal')

theorem mem_slots_iff (read : ofValue v = .valid pref) {slot : TimeSlot} :
    slot ∈ pref.slots ↔ ∃ w ∈ v.itemsAt "preferred_slots", TimeSlot.ofValue w = .valid slot := by
  obtain ⟨entries, rfl, -, slots⟩ := ofValue_eq_valid_iff.mp read
  rcases fieldOr_eq_valid_iff.mp slots with ⟨missing, empty⟩ | ⟨w, found, accepted⟩
  · simp [Value.itemsAt, missing, ← empty]
  · obtain ⟨items, rfl, readings⟩ := listOf_eq_valid_iff.mp accepted
    simp only [Value.itemsAt, found]
    apply mem_iff_of_forall₂ _ readings
    intro _ first second reading other
    exact valid.inj (reading.symm.trans other)

theorem mem_slotKeys {key : String} :
    key ∈ pref.slotKeys ↔ key ∈ pref.keys ∨ ∃ slot ∈ pref.slots, slot.key = key := by
  simp [slotKeys]

end Preference

/-! ### Faults that no solve reports -/

namespace Problem

variable {p : Problem} {fault : ProblemFault}

theorem verify_ne_invalid (t : Timetable) : p.verify t ≠ .error (.invalid fault) := by
  simp only [verify]
  split <;> simp

theorem solveExactly_ne_invalid (settings : Settings) (deadline : Deadline) (tried : List Method) :
    p.solveExactly settings deadline tried ≠ .error (.invalid fault) := by
  simp only [solveExactly]
  split
  next => exact verify_ne_invalid _
  next => split <;> simp

theorem fault?_eq_some_of_solve {σ : Type} [RandomSource σ] {settings : Settings} {source : σ}
    {deadlines : Deadlines}
    (reported : p.solve settings source deadlines = .error (.invalid fault)) :
    p.fault? = some fault := by
  unfold solve at reported
  split at reported
  next found =>
    cases reported
    exact found
  next =>
    split at reported
    next =>
      dsimp only at reported
      split at reported
      next => cases reported
      next => exact absurd reported (verify_ne_invalid _)
      next => exact absurd reported (solveExactly_ne_invalid _ _ _)
    next => exact absurd reported (solveExactly_ne_invalid _ _ _)

end Problem

theorem SolveFault.status_of_failure {fault : SolveFault} {failure : Failure}
    (sound : ∀ f, fault ≠ .invalid f) (reported : fault.failure = .ok failure) :
    failure.status = 400 := by
  cases fault with
  | invalid f => exact absurd rfl (sound f)
  | arithmetic fault => cases reported
  | _ =>
    cases reported
    rfl

namespace Service

variable {host : Host} {r : GenerateRequest} {answer : Response}

theorem status_of_generateWith {s : Settings} (faultless : r.problem.fault? = none)
    (solving : generateWith host r s = .ok answer) :
    answer.status = 201 ∨ answer.status = 400 := by
  unfold generateWith at solving
  split at solving
  next =>
    cases solving
    exact .inl rfl
  next fault ended =>
    have sound (f) : fault ≠ .invalid f := by
      rintro rfl
      cases faultless.symm.trans (Problem.fault?_eq_some_of_solve ended)
    split at solving
    next failure reported =>
      cases solving
      exact .inr (fault.status_of_failure sound reported)
    next => cases solving

theorem status_of_generate (validSettings : ∀ s ∈ r.settings, s.Valid)
    (faultless : r.problem.fault? = none) (generated : generate host r = .ok answer) :
    answer.status = 201 ∨ answer.status = 400 ∨ answer.status = 500 := by
  rcases generate_cases validSettings generated with ⟨s, -, solving⟩ | status
  · exact (status_of_generateWith faultless solving).imp_right .inl
  · exact .inr (.inr status)

end Service

namespace GenerateRequest

variable {v : Value} {r : GenerateRequest}

theorem ne_nil_of_nonemptyUpTo {α : Type} {reader : Reader α} {greatest : Nat} {u : Value}
    {xs : List α} (read : Reader.nonemptyUpTo greatest reader u = .valid xs) : xs ≠ [] := by
  obtain ⟨ys, -, checked⟩ := andThen_eq_valid_iff.mp read
  obtain ⟨nonempty, same⟩ := ite_refuse_eq_valid_iff.mp checked
  cases same
  rintro rfl
  exact nonempty rfl

theorem accepted_of_ofValue (read : ofValue v = .valid r) : r.problem.Accepted := by
  obtain ⟨entries, -, parts, sectionIds, classroomIds, unknown⟩ := ofValue_eq_valid_iff.mp read
  obtain ⟨sections, classrooms, slots, -⟩ := ofEntries_eq_valid_iff.mp parts
  obtain ⟨_, -, sections⟩ := Reader.field_eq_valid_iff.mp sections
  obtain ⟨_, -, classrooms⟩ := Reader.field_eq_valid_iff.mp classrooms
  obtain ⟨_, -, slots⟩ := Reader.field_eq_valid_iff.mp slots
  refine ⟨ne_nil_of_nonemptyUpTo classrooms, fun _ => ?slots, ?sectionCapacity, ?classroomCapacity,
    sectionIds, classroomIds, ?enrolled⟩
  case slots =>
    obtain ⟨slot, listed⟩ := List.exists_mem_of_ne_nil _ (ne_nil_of_nonemptyUpTo slots)
    exact List.ne_nil_of_mem (List.mem_eraseDups.mpr listed)
  case sectionCapacity =>
    intro sec listed
    obtain ⟨_, accepted⟩ := Reader.exists_reading_of_mem sections listed
    obtain ⟨_, -, -, -, capacity, -⟩ := Section.ofValue_eq_valid_iff.mp accepted
    obtain ⟨_, -, capacity⟩ := Reader.field_eq_valid_iff.mp capacity
    have bounds := Reader.integerIn_bounds capacity
    omega
  case classroomCapacity =>
    intro room listed
    obtain ⟨_, accepted⟩ := Reader.exists_reading_of_mem
      (Reader.listUpTo_of_nonemptyUpTo classrooms) listed
    obtain ⟨_, -, -, capacity, -⟩ := Classroom.ofValue_eq_valid_iff.mp accepted
    obtain ⟨_, -, capacity⟩ := Reader.field_eq_valid_iff.mp capacity
    have bounds := Reader.integerIn_bounds capacity
    omega
  case enrolled =>
    apply (Problem.enrolled_known_build_iff ..).mpr
    rintro student id ⟨ids, found, attended⟩
    have listed := List.mem_reverse.mp (Entries.mem_of_get?_eq_some found)
    by_contra absent
    change id ∉ r.sections.map Section.id at absent
    have reported := Problem.mem_unknownIds.mpr ⟨⟨_, listed, attended⟩, absent⟩
    rw [unknown] at reported
    exact List.not_mem_nil reported

/-- What an instructor is found to prefer has been read from the last value given for them. -/
theorem get?_preferences (read : ofValue v = .valid r) (instructor : String) :
    Option.Rel (fun u pref => Preference.ofValue u = .valid pref)
      (Entries.get? instructor (v.entriesAt "instructor_preferences").reverse)
      (Entries.get? instructor r.preferences.reverse) := by
  obtain ⟨entries, rfl, parts, -⟩ := ofValue_eq_valid_iff.mp read
  obtain ⟨-, -, -, preferences, -⟩ := ofEntries_eq_valid_iff.mp parts
  rcases Reader.fieldOr_eq_valid_iff.mp preferences with ⟨missing, empty⟩ | ⟨w, found, accepted⟩
  · simp only [Value.entriesAt, missing, ← empty]
    exact .none
  · obtain ⟨given, rfl, readings⟩ := Reader.mapOf_eq_valid_iff.mp accepted
    simp only [Value.entriesAt, found]
    exact Entries.get?_forall₂ instructor (List.forall₂_reverse_iff.mpr readings)

/-- The slot keys that a value names for an instructor, by hand or through slots. -/
def Names (v : Value) (instructor key : String) : Prop :=
  ∃ u, Entries.get? instructor (v.entriesAt "instructor_preferences").reverse = some u ∧
    ((∃ text, .text text ∈ u.itemsAt "preferred_slot_keys" ∧ SlotKey.normalize text = .ok key) ∨
      ∃ w ∈ u.itemsAt "preferred_slots", ∃ slot, TimeSlot.ofValue w = .valid slot ∧ slot.key = key)

theorem mem_preferredKeys (read : ofValue v = .valid r) {instructor key : String} :
    key ∈ r.problem.preferredKeys instructor ↔ Names v instructor key := by
  have same := get?_preferences read instructor
  have preferred := Problem.preferredKeys_build r.sections r.classrooms r.slots
    (r.preferences.map fun entry => (entry.1, entry.2.slotKeys)) r.enrollments instructor
  rw [← List.map_reverse, Entries.get?_map_value] at preferred
  change key ∈ Problem.preferredKeys (Problem.build ..) instructor ↔ _
  rw [preferred]
  unfold Names
  generalize Entries.get? instructor r.preferences.reverse = found at same ⊢
  generalize Entries.get? instructor (v.entriesAt "instructor_preferences").reverse = given
    at same ⊢
  cases same with
  | none => simp
  | @some u pref accepted =>
    simp only [Option.map_some, Option.getD_some, List.mem_eraseDups, Preference.mem_slotKeys,
      Preference.mem_keys_iff accepted, Preference.mem_slots_iff accepted, Option.some.injEq,
      exists_eq_left']
    apply or_congr_right
    constructor
    · rintro ⟨slot, ⟨w, listed, reading⟩, named⟩
      exact ⟨w, listed, slot, reading, named⟩
    · rintro ⟨w, listed, slot, reading, named⟩
      exact ⟨slot, ⟨w, listed, reading⟩, named⟩

/-- How a problem lists what has been requested by a value. Its slots stand in the order of their
first occurrences. -/
structure Poses (v : Value) (r : GenerateRequest) (p : Problem) : Prop where
  faultless : p.fault? = none
  sections : p.sections = r.sections
  classrooms : p.classrooms = r.classrooms
  mem_slots : ∀ slot, slot ∈ p.slots ↔ slot ∈ r.slots
  slots_nodup : p.slots.Nodup
  slots_ordered : p.slots.Pairwise fun a b => r.slots.idxOf a < r.slots.idxOf b
  mem_students : ∀ sec ∈ p.sections, ∀ student,
    student ∈ p.studentsOf sec.id ↔ Enrolled r.enrollments student sec.id
  students_nodup : ∀ sec ∈ p.sections, (p.studentsOf sec.id).Nodup
  mem_preferred : ∀ instructor key, key ∈ p.preferredKeys instructor ↔ Names v instructor key

theorem poses_of_ofValue (read : ofValue v = .valid r) : Poses v r r.problem where
  faultless := Problem.fault?_eq_none_iff.mpr (accepted_of_ofValue read)
  sections := rfl
  classrooms := rfl
  mem_slots _ := List.mem_eraseDups
  slots_nodup := nodup_eraseDups r.slots
  slots_ordered := pairwise_idxOf_eraseDups r.slots
  mem_students _ _ _ := Problem.mem_studentsOf_build ..
  students_nodup _ _ := Problem.nodup_students_build ..
  mem_preferred _ _ := mem_preferredKeys read

theorem perform_generate (read : ofValue v = .valid r) (host : Host) :
    Service.perform host .generate (some v) = Service.generate host r := by
  obtain ⟨entries, rfl, -⟩ := ofValue_eq_valid_iff.mp read
  simp only [Service.perform, Service.readBody, read]

/-- The problem of an accepted request is accepted again and lists what the request lists, so no
solve reports a fault of it and no answer says that it cannot be processed. -/
theorem ofValue_accepts {v : Value} {r : GenerateRequest} (read : ofValue v = .valid r) :
    Poses v r r.problem ∧
      (∀ (σ : Type) [RandomSource σ] (settings : Settings) (source : σ) (deadlines : Deadlines)
        (fault : ProblemFault),
        r.problem.solve settings source deadlines ≠ .error (.invalid fault)) ∧
      ∀ host answer, Service.perform host .generate (some v) = .ok answer →
        answer.status = 201 ∨ answer.status = 400 ∨ answer.status = 500 := by
  have poses := poses_of_ofValue read
  refine ⟨poses, ?solved, ?answered⟩
  case solved =>
    intro σ _ settings source deadlines fault reported
    cases poses.faultless.symm.trans (Problem.fault?_eq_some_of_solve reported)
  case answered =>
    intro host answer performed
    rw [perform_generate read] at performed
    exact Service.status_of_generate (valid_settings read) poses.faultless performed

/-- A request with a slot that is given twice and a slot key with blanks around it. -/
def application : Value :=
  .record [
    ("sections", .list [Section.toValue ⟨"algebra", "ada", 20, false⟩]),
    ("classrooms", .list [Classroom.toValue ⟨"hall", 30, []⟩]),
    ("time_slots", .list [TimeSlot.toValue ⟨"mon", "09:00", "10:00"⟩,
      TimeSlot.toValue ⟨"Tuesday", "09:00", "10:00"⟩,
      TimeSlot.toValue ⟨"MONDAY", "09:00", "10:00"⟩]),
    ("instructor_preferences", .record [("ada", .record [
      ("preferred_slot_keys", .list [.text " tue_09:00_10:00 "]),
      ("preferred_slots", .list [TimeSlot.toValue ⟨"mon", "09:00", "10:00"⟩])])]),
    ("student_enrollments", .record [("emmy", .list [.text "algebra"])])]

def applied : GenerateRequest where
  sections := [⟨"algebra", "ada", 20, false⟩]
  classrooms := [⟨"hall", 30, []⟩]
  slots := [⟨"Monday", "09:00", "10:00"⟩, ⟨"Tuesday", "09:00", "10:00"⟩,
    ⟨"Monday", "09:00", "10:00"⟩]
  preferences := [("ada", ⟨["Tuesday_09:00_10:00"], [⟨"Monday", "09:00", "10:00"⟩]⟩)]
  enrollments := [("emmy", ["algebra"])]

theorem ofValue_accepts_application :
    ofValue application = .valid applied ∧ Poses application applied applied.problem ∧
      applied.problem.solve {} (MersenneTwister.ofSeed 1) .never ≠ .error (.invalid .noSlots) ∧
      ∀ answer, Service.perform {} .generate (some application) = .ok answer →
        answer.status = 201 ∨ answer.status = 400 ∨ answer.status = 500 := by
  have read : ofValue application = .valid applied := by decide +kernel
  obtain ⟨poses, solved, answered⟩ := ofValue_accepts read
  exact ⟨read, poses, solved _ _ _ _ _, answered {}⟩

end GenerateRequest

end Timetabling
