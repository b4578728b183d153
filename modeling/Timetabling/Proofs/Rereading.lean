import Timetabling.Proofs.SlotKeys

/-!
# Reading what has been written

Readers are lenient, so many values stand for one model, and the value that a model is written as is
just one of them. It is read as this model again: a reader that keeps to its own output is said to
reread it, and the readers of composite values do so because those of their parts do.
-/

namespace Timetabling

open Validated

namespace Reader

variable {α : Type}

/-- Whether what is read, once it is written, is read as the same again. -/
def Rereads (reader : Reader α) (toValue : α → Value) : Prop :=
  ∀ v a, reader v = .valid a → reader (toValue a) = .valid a

/-! ### Simple values -/

theorem rereads_text : Rereads text .text := by
  intro v s read
  exact text_eq_valid_iff.mpr rfl

theorem rereads_identifier : Rereads identifier .text := by
  intro v s read
  exact identifier_eq_valid_iff.mpr ⟨rfl, (identifier_eq_valid_iff.mp read).2⟩

theorem rereads_boolean : Rereads boolean .bool := by
  intro v b read
  rfl

theorem rereads_number : Rereads number .float := by
  intro v x read
  rfl

theorem integerIn_int {least greatest i : Int} (atLeast : least ≤ i) (atMost : i ≤ greatest) :
    integerIn least greatest (.int i) = .valid i := by
  apply andThen_eq_valid_iff.mpr
  refine ⟨i, rfl, ?_⟩
  rw [Bounds.check, if_neg (Int.not_lt.mpr atMost), if_neg (Int.not_lt.mpr atLeast)]

theorem rereads_integerIn (least greatest : Int) : Rereads (integerIn least greatest) .int := by
  intro v i read
  have bounds := integerIn_bounds read
  exact integerIn_int bounds.1 bounds.2

theorem naturalIn_int {least greatest n : Nat} (atLeast : least ≤ n) (atMost : n ≤ greatest) :
    naturalIn least greatest (.int n) = .valid n := by
  apply map_eq_valid_iff.mpr
  exact ⟨n, integerIn_int (Int.ofNat_le.mpr atLeast) (Int.ofNat_le.mpr atMost), rfl⟩

theorem rereads_naturalIn (least greatest : Nat) :
    Rereads (naturalIn least greatest) fun n => .int n := by
  intro v n read
  have bounds := naturalIn_bounds read
  exact naturalIn_int bounds.1 bounds.2

theorem rereads_number_andThen {check : Binary64 → Validated Binary64}
    (keeps : ∀ x y, check x = .valid y → x = y) :
    Rereads (fun v => (number v).andThen check) .float := by
  intro v y read
  obtain ⟨x, -, checked⟩ := andThen_eq_valid_iff.mp read
  have same : x = y := keeps x y checked
  subst same
  exact andThen_eq_valid_iff.mpr ⟨x, rfl, checked⟩

theorem rereads_rate : Rereads rate .float := by
  apply rereads_number_andThen
  intro x y checked
  simp only [ite_refuse_eq_valid_iff, valid.injEq] at checked
  exact checked.2.2

theorem rereads_positiveUpTo (greatest : Int) : Rereads (positiveUpTo greatest) .float := by
  apply rereads_number_andThen
  intro x y checked
  simp only [ite_refuse_eq_valid_iff, valid.injEq] at checked
  exact checked.2.2

theorem rereads_dayName : Rereads dayName .text := by
  intro v s read
  obtain ⟨_, day, -, -, rfl⟩ := dayName_eq_valid_iff.mp read
  exact dayName_eq_valid_iff.mpr ⟨_, day, rfl, day.ofText?_name, rfl⟩

theorem rereads_time : Rereads time .text := by
  intro v s read
  exact time_eq_valid_iff.mpr ⟨rfl, (time_eq_valid_iff.mp read).2⟩

/-! ### Composite values -/

variable {reader : Reader α} {toValue : α → Value} {name : String}
  {given written : List (String × Value)} {a : α}

theorem Rereads.forall₂_map (rereads : Rereads reader toValue) {vs : List Value} {xs : List α}
    (read : List.Forall₂ (fun v x => reader v = .valid x) vs xs) :
    List.Forall₂ (fun v x => reader v = .valid x) (xs.map toValue) xs := by
  rw [List.forall₂_map_left_iff, List.forall₂_same]
  exact forall_mem_of_forall₂ rereads read

theorem Rereads.listOf (rereads : Rereads reader toValue) :
    Rereads (listOf reader) fun xs => .list (xs.map toValue) := by
  intro v xs read
  obtain ⟨vs, -, items⟩ := listOf_eq_valid_iff.mp read
  exact listOf_eq_valid_iff.mpr ⟨_, rfl, rereads.forall₂_map items⟩

theorem Rereads.listUpTo (rereads : Rereads reader toValue) (greatest : Nat) :
    Rereads (listUpTo greatest reader) fun xs => .list (xs.map toValue) := by
  intro v xs read
  obtain ⟨vs, -, short, items⟩ := listUpTo_eq_valid_iff.mp read
  refine listUpTo_eq_valid_iff.mpr ⟨_, rfl, ?_, rereads.forall₂_map items⟩
  rw [List.length_map, ← items.length_eq]
  exact short

theorem Rereads.nonemptyUpTo (rereads : Rereads reader toValue) (greatest : Nat) :
    Rereads (nonemptyUpTo greatest reader) fun xs => .list (xs.map toValue) := by
  intro v xs read
  obtain ⟨ys, items, checked⟩ := andThen_eq_valid_iff.mp read
  have same := (ite_refuse_eq_valid_iff.mp checked).2
  cases same
  exact andThen_eq_valid_iff.mpr ⟨xs, rereads.listUpTo greatest v xs items, checked⟩

theorem Rereads.mapOf (rereads : Rereads reader toValue) :
    Rereads (mapOf reader) fun entries => .record (entries.map fun (key, a) => (key, toValue a)) := by
  intro v entries read
  obtain ⟨vs, -, items⟩ := mapOf_eq_valid_iff.mp read
  have each (u : String × Value) (entry : String × α)
      (first : u.1 = entry.1 ∧ reader u.2 = .valid entry.2) :
      reader (toValue entry.2) = .valid entry.2 := rereads _ _ first.2
  refine mapOf_eq_valid_iff.mpr ⟨_, rfl, ?_⟩
  rw [List.forall₂_map_left_iff, List.forall₂_same]
  intro entry listed
  exact ⟨rfl, forall_mem_of_forall₂ each items entry listed⟩

/-- What may be null is reread if nothing else is written as null. -/
theorem Rereads.nullable (rereads : Rereads reader toValue) (present : ∀ a, toValue a ≠ .null) :
    Rereads (nullable reader) (Value.ofOption toValue) := by
  intro v found read
  cases found with
  | none => rfl
  | some a =>
    have accepted : reader (toValue a) = .valid a := by
      unfold Reader.nullable at read
      split at read
      next => cases read
      next =>
        obtain ⟨b, accepted, same⟩ := map_eq_valid_iff.mp read
        cases same
        exact rereads _ _ accepted
    unfold Reader.nullable
    split
    next isNull => exact absurd isNull (present a)
    next => exact map_eq_valid_iff.mpr ⟨a, accepted, rfl⟩

/-! ### Entries -/

theorem Rereads.field (rereads : Rereads reader toValue)
    (read : field name reader given = .valid a)
    (found : Entries.get? name written = some (toValue a)) :
    field name reader written = .valid a := by
  obtain ⟨v, -, accepted⟩ := field_eq_valid_iff.mp read
  exact field_eq_valid_iff.mpr ⟨_, found, rereads v a accepted⟩

/-- An entry that can be left out is written in any case, so its default has to be read as well. -/
theorem Rereads.fieldOr (rereads : Rereads reader toValue) {default : α}
    (read : fieldOr name default reader given = .valid a)
    (ofDefault : reader (toValue default) = .valid default)
    (found : Entries.get? name written = some (toValue a)) :
    fieldOr name default reader written = .valid a := by
  apply fieldOr_eq_valid_iff.mpr
  refine .inr ⟨_, found, ?_⟩
  rcases fieldOr_eq_valid_iff.mp read with ⟨-, rfl⟩ | ⟨v, -, accepted⟩
  · exact ofDefault
  · exact rereads v a accepted

end Reader

open Reader

/-! ### Settings, sections and slots -/

theorem Settings.rereads : Rereads ofValue toValue := by
  intro v s read
  obtain ⟨given, -, accepted⟩ := record_eq_valid_iff.mp read
  obtain ⟨t, parts, related⟩ := andThen_eq_valid_iff.mp accepted
  have same : t = s := by
    simp only [checkRelations, ite_refuse_eq_valid_iff, valid.injEq] at related
    exact related.2.2
  subst same
  obtain ⟨threshold, population, generations, mutation, crossover, elite, contenders, fitness,
    attempts, seed, steps, budget⟩ := ofEntries_eq_valid_iff.mp parts
  refine record_eq_valid_iff.mpr ⟨_, rfl, andThen_eq_valid_iff.mpr ⟨t, ?_, related⟩⟩
  refine ofEntries_eq_valid_iff.mpr ⟨?_, ?_, ?_, ?_, ?_, ?_, ?_, ?_, ?_, ?_, ?_, ?_⟩
  · exact (rereads_naturalIn 0 10000).fieldOr threshold rfl rfl
  · exact (rereads_naturalIn 2 2000).fieldOr population rfl rfl
  · exact (rereads_naturalIn 1 5000).fieldOr generations rfl rfl
  · exact rereads_rate.fieldOr mutation (by decide +kernel) rfl
  · exact rereads_rate.fieldOr crossover (by decide +kernel) rfl
  · exact (rereads_naturalIn 0 100).fieldOr elite rfl rfl
  · exact (rereads_naturalIn 1 50).fieldOr contenders rfl rfl
  · exact rereads_number.fieldOr fitness rfl rfl
  · exact (rereads_naturalIn 1 100).fieldOr attempts rfl rfl
  · exact ((rereads_naturalIn 0 2000000000).nullable (by simp)).fieldOr seed rfl rfl
  · exact (rereads_naturalIn 1 100000000).fieldOr steps rfl rfl
  · exact ((rereads_positiveUpTo 3600).nullable (by simp)).fieldOr budget rfl rfl

theorem Section.rereads : Rereads ofValue toValue := by
  intro v sec read
  obtain ⟨given, -, id, instructor, capacity, required⟩ := ofValue_eq_valid_iff.mp read
  refine ofValue_eq_valid_iff.mpr ⟨_, rfl, ?_, ?_, ?_, ?_⟩
  · exact rereads_identifier.field id rfl
  · exact rereads_identifier.field instructor rfl
  · exact (rereads_integerIn 1 greatestCapacity).field capacity rfl
  · exact rereads_boolean.fieldOr required rfl rfl

theorem Classroom.rereads : Rereads ofValue toValue := by
  intro v room read
  obtain ⟨given, -, id, capacity, features⟩ := ofValue_eq_valid_iff.mp read
  refine ofValue_eq_valid_iff.mpr ⟨_, rfl, ?_, ?_, ?_⟩
  · exact rereads_identifier.field id rfl
  · exact (rereads_integerIn 1 greatestCapacity).field capacity rfl
  · exact (rereads_text.listUpTo 50).fieldOr features rfl rfl

namespace TimeSlot

theorem reread_entries {given written : List (String × Value)} {slot : TimeSlot}
    (read : ofEntries given = .valid slot)
    (day : Entries.get? "day_of_week" written = some (.text slot.day))
    (start : Entries.get? "start_time" written = some (.text slot.start))
    (finish : Entries.get? "end_time" written = some (.text slot.finish)) :
    ofEntries written = .valid slot := by
  obtain ⟨dayRead, startRead, finishRead⟩ := ofEntries_eq_valid_iff.mp read
  refine ofEntries_eq_valid_iff.mpr ⟨?_, ?_, ?_⟩
  · exact rereads_dayName.field dayRead day
  · exact rereads_time.field startRead start
  · exact rereads_time.field finishRead finish

theorem rereads : Rereads ofValue toValue := by
  intro v slot read
  obtain ⟨given, -, accepted⟩ := record_eq_valid_iff.mp read
  obtain ⟨kept, parts, checked⟩ := andThen_eq_valid_iff.mp accepted
  have same := (ite_eq_valid_iff.mp checked).2
  cases same
  refine record_eq_valid_iff.mpr ⟨_, rfl, andThen_eq_valid_iff.mpr ⟨slot, ?_, checked⟩⟩
  exact reread_entries parts rfl rfl rfl

end TimeSlot

theorem Assignment.rereads : Rereads ofValue toValue := by
  intro v a read
  obtain ⟨given, -, known, located, slot, proper⟩ := ofValue_eq_valid_iff.mp read
  refine ofValue_eq_valid_iff.mpr ⟨_, rfl, ?_, ?_, ?_, proper⟩
  · exact rereads_identifier.field known rfl
  · exact rereads_identifier.field located rfl
  · exact TimeSlot.reread_entries slot rfl rfl rfl

namespace Preference

theorem rereads_readKeys : Rereads readKeys fun keys => .list (keys.map .text) := by
  intro v keys read
  obtain ⟨texts, -, checked⟩ := andThen_eq_valid_iff.mp read
  have normal : normalKeys texts = .ok keys := by
    split at checked
    next normal same =>
      cases checked
      exact same
    next => cases checked
  have kept : normalKeys keys = .ok keys := by
    have each (text key : String) (first : SlotKey.normalize text = .ok key) :
        SlotKey.normalize key = .ok key := SlotKey.normalize_idempotent first
    refine normalKeys_eq_ok_iff.mpr (List.forall₂_same.mpr ?_)
    exact forall_mem_of_forall₂ each (normalKeys_eq_ok_iff.mp normal)
  refine andThen_eq_valid_iff.mpr ⟨keys, ?_, ?_⟩
  · exact listOf_eq_valid_iff.mpr ⟨_, rfl, List.forall₂_map_left_iff.mpr
      (List.forall₂_same.mpr fun _ _ => rfl)⟩
  · rw [kept]

theorem rereads : Rereads ofValue toValue := by
  intro v pref read
  obtain ⟨given, -, keys, slots⟩ := ofValue_eq_valid_iff.mp read
  refine ofValue_eq_valid_iff.mpr ⟨_, rfl, ?_, ?_⟩
  · exact rereads_readKeys.fieldOr keys rfl rfl
  · exact TimeSlot.rereads.listOf.fieldOr slots rfl rfl

end Preference

/-! ### Requests -/

theorem rereads_enrollments : Rereads (mapOf (listOf text)) enrollmentsValue :=
  rereads_text.listOf.mapOf

theorem Settings.toValue_ne_null (s : Settings) : s.toValue ≠ .null :=
  nofun

theorem GenerateRequest.rereads : Rereads ofValue toValue := by
  intro v r read
  obtain ⟨given, -, parts, unique⟩ := ofValue_eq_valid_iff.mp read
  obtain ⟨sections, classrooms, slots, preferences, enrollments, settings⟩ :=
    ofEntries_eq_valid_iff.mp parts
  refine ofValue_eq_valid_iff.mpr ⟨_, rfl, ofEntries_eq_valid_iff.mpr
    ⟨?_, ?_, ?_, ?_, ?_, ?_⟩, unique⟩
  · exact (Section.rereads.listUpTo 2000).field sections rfl
  · exact (Classroom.rereads.nonemptyUpTo 1000).field classrooms rfl
  · exact (TimeSlot.rereads.nonemptyUpTo 500).field slots rfl
  · exact Preference.rereads.mapOf.fieldOr preferences rfl rfl
  · exact rereads_enrollments.fieldOr enrollments rfl rfl
  · exact (Settings.rereads.nullable Settings.toValue_ne_null).fieldOr settings rfl rfl

theorem ValidateRequest.rereads : Rereads ofValue toValue := by
  intro v r read
  obtain ⟨given, -, parts, unique⟩ := ofValue_eq_valid_iff.mp read
  obtain ⟨sections, classrooms, enrollments, assignments⟩ := ofEntries_eq_valid_iff.mp parts
  refine ofValue_eq_valid_iff.mpr ⟨_, rfl, ofEntries_eq_valid_iff.mpr ⟨?_, ?_, ?_, ?_⟩, unique⟩
  · exact (Section.rereads.listUpTo 2000).field sections rfl
  · exact (Classroom.rereads.listUpTo 1000).field classrooms rfl
  · exact rereads_enrollments.fieldOr enrollments rfl rfl
  · exact (Assignment.rereads.listUpTo 5000).field assignments rfl

/-- Whatever has been accepted, the value that its model is written as is accepted too, and as the
same model. -/
theorem models_are_reread :
    (∀ v s, Settings.ofValue v = .valid s → Settings.ofValue s.toValue = .valid s) ∧
    (∀ v slot, TimeSlot.ofValue v = .valid slot → TimeSlot.ofValue slot.toValue = .valid slot) ∧
    (∀ v sec, Section.ofValue v = .valid sec → Section.ofValue sec.toValue = .valid sec) ∧
    (∀ v room, Classroom.ofValue v = .valid room → Classroom.ofValue room.toValue = .valid room) ∧
    (∀ v p, Preference.ofValue v = .valid p → Preference.ofValue p.toValue = .valid p) ∧
    (∀ v a, Assignment.ofValue v = .valid a → Assignment.ofValue a.toValue = .valid a) ∧
    (∀ v r, GenerateRequest.ofValue v = .valid r → GenerateRequest.ofValue r.toValue = .valid r) ∧
    ∀ v r, ValidateRequest.ofValue v = .valid r → ValidateRequest.ofValue r.toValue = .valid r :=
  ⟨Settings.rereads, TimeSlot.rereads, Section.rereads, Classroom.rereads, Preference.rereads,
    Assignment.rereads, GenerateRequest.rereads, ValidateRequest.rereads⟩

/-- A request as it may be typed: numbers as texts, a line feed within a slot key and one at its
end, an entry that no request has. -/
def typedRequest : Value :=
  .record [
    ("sections", .list [.record [("id", .text "algebra"), ("instructor_id", .text "ada"),
      ("capacity", .text " 20 "), ("is_required", .text "YES"), ("comment", .null)]]),
    ("classrooms", .list [.record [("id", .text "hall"), ("capacity", .float (.ofInt 30))]]),
    ("time_slots", .list [.record [("day_of_week", .text " mon "), ("start_time", .text "09:00"),
      ("end_time", .text "10:00\n")]]),
    ("instructor_preferences", .record [("ada", .record [
      ("preferred_slot_keys", .list [.text " TUE_09:00\n_10:00\n "])])]),
    ("settings_override", .record [("elite_count", .bool true),
      ("fitness_threshold", .float .nan)])]

def typedModel : GenerateRequest where
  sections := [⟨"algebra", "ada", 20, true⟩]
  classrooms := [⟨"hall", 30, []⟩]
  slots := [⟨"Monday", "09:00", "10:00\n"⟩]
  preferences := [("ada", ⟨["Tuesday_09:00\n_10:00"], []⟩)]
  settings := some { eliteCount := 1, fitnessThreshold := .nan }

theorem models_are_reread_typed :
    GenerateRequest.ofValue typedRequest = .valid typedModel ∧
      GenerateRequest.ofValue typedModel.toValue = .valid typedModel := by
  have read : GenerateRequest.ofValue typedRequest = .valid typedModel := by decide +kernel
  obtain ⟨-, -, -, -, -, -, generate, -⟩ := models_are_reread
  exact ⟨read, generate _ _ read⟩

end Timetabling
