import Timetabling.Proofs.Reading
import Timetabling.Request.Body

/-!
# What accepted requests satisfy

Accepted settings are valid, identifiers are unique within an accepted request, and the slots of one
are canonical: written as an accepted slot is kept, so that they are accepted again as they are.
-/

namespace Timetabling

open Reader Validated

/-! ### Settings -/

theorem Reader.integerIn_bounds {least greatest i : Int} {v : Value}
    (read : integerIn least greatest v = .valid i) : least ≤ i ∧ i ≤ greatest := by
  obtain ⟨j, -, checked⟩ := andThen_eq_valid_iff.mp read
  simp only [Bounds.check, ite_refuse_eq_valid_iff, valid.injEq] at checked
  omega

theorem Reader.naturalIn_bounds {least greatest n : Nat} {v : Value}
    (read : naturalIn least greatest v = .valid n) : least ≤ n ∧ n ≤ greatest := by
  obtain ⟨i, accepted, rfl⟩ := map_eq_valid_iff.mp read
  have bounds := integerIn_bounds accepted
  omega

/-- An entry is within the bounds of its reader if its default is. -/
theorem Reader.fieldOr_naturalIn_bounds {name : String} {default least greatest n : Nat}
    {entries : List (String × Value)}
    (read : fieldOr name default (naturalIn least greatest) entries = .valid n)
    (atLeast : least ≤ default) (atMost : default ≤ greatest) : least ≤ n ∧ n ≤ greatest := by
  rcases fieldOr_eq_valid_iff.mp read with ⟨-, rfl⟩ | ⟨v, -, accepted⟩
  · exact ⟨atLeast, atMost⟩
  · exact naturalIn_bounds accepted

theorem Reader.isRate_of_rate {v : Value} {x : Binary64} (read : rate v = .valid x) :
    Settings.IsRate x := by
  obtain ⟨y, -, checked⟩ := andThen_eq_valid_iff.mp read
  simp only [ite_refuse_eq_valid_iff, valid.injEq, Bool.not_eq_true', Bool.not_eq_false] at checked
  obtain ⟨atMost, atLeast, rfl⟩ := checked
  exact ⟨atLeast, atMost⟩

theorem Reader.isBudget_of_positiveUpTo {v : Value} {x : Binary64}
    (read : positiveUpTo 3600 v = .valid x) : Settings.IsBudget x := by
  obtain ⟨y, -, checked⟩ := andThen_eq_valid_iff.mp read
  simp only [ite_refuse_eq_valid_iff, valid.injEq, Bool.not_eq_true', Bool.not_eq_false] at checked
  obtain ⟨atMost, positive, rfl⟩ := checked
  exact ⟨positive, atMost⟩

theorem Reader.nullable_property {α : Type} {reader : Reader α} {property : α → Prop}
    (ofReader : ∀ v a, reader v = .valid a → property a) {v : Value} {a : Option α}
    (read : nullable reader v = .valid a) : ∀ b ∈ a, property b := by
  intro b present
  unfold nullable at read
  split at read
  next =>
    cases read
    cases present
  next =>
    obtain ⟨c, accepted, rfl⟩ := map_eq_valid_iff.mp read
    cases present
    exact ofReader _ _ accepted

namespace Settings

theorem ofEntries_eq_valid_iff {entries : List (String × Value)} {s : Settings} :
    ofEntries entries = .valid s ↔
      fieldOr "heuristic_section_threshold" 10 (naturalIn 0 10000) entries =
          .valid s.heuristicThreshold ∧
        fieldOr "population_size" 50 (naturalIn 2 2000) entries = .valid s.populationSize ∧
        fieldOr "generations" 100 (naturalIn 1 5000) entries = .valid s.generations ∧
        fieldOr "mutation_rate" (.ofRatio false 1 10) rate entries = .valid s.mutationRate ∧
        fieldOr "crossover_rate" (.ofRatio false 7 10) rate entries = .valid s.crossoverRate ∧
        fieldOr "elite_count" 5 (naturalIn 0 100) entries = .valid s.eliteCount ∧
        fieldOr "tournament_size" 3 (naturalIn 1 50) entries = .valid s.tournamentSize ∧
        fieldOr "fitness_threshold" (.ofRatio false 1000 1) number entries =
          .valid s.fitnessThreshold ∧
        fieldOr "placement_attempts" 1 (naturalIn 1 100) entries = .valid s.placementAttempts ∧
        fieldOr "random_seed" none (nullable (naturalIn 0 2000000000)) entries =
          .valid s.randomSeed ∧
        fieldOr "max_backtrack_steps" 250000 (naturalIn 1 100000000) entries = .valid s.maxSteps ∧
        fieldOr "time_budget_seconds" none (nullable (positiveUpTo 3600)) entries =
          .valid s.timeBudget := by
  obtain ⟨_, _, _, _, _, _, _, _, _, _, _, _⟩ := s
  simp only [ofEntries, seq_eq_valid_iff, fmap_eq_valid_iff, exists_exists_and_eq_and,
    exists_exists_and_exists_and_eq_and, ↓existsAndEq, and_true, and_assoc, exists_and_left,
    mk.injEq]

theorem valid_of_ofValue {v : Value} {s : Settings} (read : ofValue v = .valid s) : s.Valid := by
  obtain ⟨entries, -, accepted⟩ := record_eq_valid_iff.mp read
  obtain ⟨t, parts, related⟩ := andThen_eq_valid_iff.mp accepted
  simp only [checkRelations, ite_refuse_eq_valid_iff, valid.injEq] at related
  obtain ⟨elites, tournament, rfl⟩ := related
  obtain ⟨threshold, population, generations, mutation, crossover, elite, contenders, -, attempts,
    seed, steps, budget⟩ := ofEntries_eq_valid_iff.mp parts
  have threshold := fieldOr_naturalIn_bounds threshold (by decide) (by decide)
  have population := fieldOr_naturalIn_bounds population (by decide) (by decide)
  have generations := fieldOr_naturalIn_bounds generations (by decide) (by decide)
  have elite := fieldOr_naturalIn_bounds elite (by decide) (by decide)
  have contenders := fieldOr_naturalIn_bounds contenders (by decide) (by decide)
  have attempts := fieldOr_naturalIn_bounds attempts (by decide) (by decide)
  have steps := fieldOr_naturalIn_bounds steps (by decide) (by decide)
  exact {
    heuristicThreshold_le := threshold.2
    le_populationSize := population.1
    populationSize_le := population.2
    generations_pos := generations.1
    generations_le := generations.2
    mutationRate_isRate :=
      fieldOr_property mutation valid_default.mutationRate_isRate fun _ _ => isRate_of_rate
    crossoverRate_isRate :=
      fieldOr_property crossover valid_default.crossoverRate_isRate fun _ _ => isRate_of_rate
    eliteCount_le := elite.2
    eliteCount_lt := by omega
    tournamentSize_pos := contenders.1
    tournamentSize_le := contenders.2
    tournamentSize_le_populationSize := by omega
    placementAttempts_pos := attempts.1
    placementAttempts_le := attempts.2
    randomSeed_le :=
      fieldOr_property seed valid_default.randomSeed_le fun _ _ =>
        nullable_property fun _ _ accepted => (naturalIn_bounds accepted).2
    maxSteps_pos := steps.1
    maxSteps_le := steps.2
    timeBudget_isBudget :=
      fieldOr_property budget valid_default.timeBudget_isBudget fun _ _ =>
        nullable_property fun _ _ => isBudget_of_positiveUpTo }

end Settings

/-! ### Sections, classrooms and slots -/

theorem Section.ofValue_eq_valid_iff {v : Value} {sec : Section} :
    ofValue v = .valid sec ↔ ∃ entries, v = .record entries ∧
      field "id" identifier entries = .valid sec.id ∧
      field "instructor_id" identifier entries = .valid sec.instructor ∧
      field "capacity" (integerIn 1 greatestCapacity) entries = .valid sec.capacity ∧
      fieldOr "is_required" false boolean entries = .valid sec.required := by
  obtain ⟨id, instructor, capacity, required⟩ := sec
  simp only [ofValue, record_eq_valid_iff, seq_eq_valid_iff, fmap_eq_valid_iff,
    exists_exists_and_eq_and, exists_exists_and_exists_and_eq_and, mk.injEq, ↓existsAndEq, and_true,
    and_assoc, exists_and_left]

theorem Classroom.ofValue_eq_valid_iff {v : Value} {room : Classroom} :
    ofValue v = .valid room ↔ ∃ entries, v = .record entries ∧
      field "id" identifier entries = .valid room.id ∧
      field "capacity" (integerIn 1 greatestCapacity) entries = .valid room.capacity ∧
      fieldOr "features" [] (listUpTo 50 text) entries = .valid room.features := by
  obtain ⟨id, capacity, features⟩ := room
  simp only [ofValue, record_eq_valid_iff, seq_eq_valid_iff, fmap_eq_valid_iff,
    exists_exists_and_eq_and, exists_exists_and_exists_and_eq_and, mk.injEq, ↓existsAndEq, and_true]

def IsIdentifier (s : String) : Prop :=
  s.length ≠ 0 ∧ s.length ≤ longestIdentifier

theorem Reader.isIdentifier_of_field {name s : String} {entries : List (String × Value)}
    (read : field name identifier entries = .valid s) : IsIdentifier s := by
  obtain ⟨v, -, accepted⟩ := field_eq_valid_iff.mp read
  exact (identifier_eq_valid_iff.mp accepted).2

namespace TimeSlot

/-- A slot as it is kept by requests: the full name of a day, written times, the end after the
start. -/
structure Canonical (slot : TimeSlot) : Prop where
  day : ∃ day : Day, slot.day = day.name
  start : Clock.isWritten slot.start.toList = true
  finish : Clock.isWritten slot.finish.toList = true
  proper : slot.isProper = true

theorem ofEntries_eq_valid_iff {entries : List (String × Value)} {slot : TimeSlot} :
    ofEntries entries = .valid slot ↔
      field "day_of_week" dayName entries = .valid slot.day ∧
        field "start_time" time entries = .valid slot.start ∧
        field "end_time" time entries = .valid slot.finish := by
  obtain ⟨day, start, finish⟩ := slot
  simp only [ofEntries, seq_eq_valid_iff, fmap_eq_valid_iff, exists_exists_and_eq_and,
    exists_exists_and_exists_and_eq_and, mk.injEq, ↓existsAndEq, and_true]

theorem canonical_of_ofEntries {entries : List (String × Value)} {slot : TimeSlot}
    (read : ofEntries entries = .valid slot) (proper : slot.isProper = true) : slot.Canonical := by
  obtain ⟨dayRead, startRead, finishRead⟩ := ofEntries_eq_valid_iff.mp read
  obtain ⟨_, -, day⟩ := field_eq_valid_iff.mp dayRead
  obtain ⟨_, -, start⟩ := field_eq_valid_iff.mp startRead
  obtain ⟨_, -, finish⟩ := field_eq_valid_iff.mp finishRead
  obtain ⟨_, named, -, -, same⟩ := dayName_eq_valid_iff.mp day
  exact ⟨⟨named, same.symm⟩, (time_eq_valid_iff.mp start).2, (time_eq_valid_iff.mp finish).2,
    proper⟩

theorem canonical_of_ofValue {v : Value} {slot : TimeSlot} (read : ofValue v = .valid slot) :
    slot.Canonical := by
  obtain ⟨entries, -, accepted⟩ := record_eq_valid_iff.mp read
  obtain ⟨kept, parts, checked⟩ := andThen_eq_valid_iff.mp accepted
  obtain ⟨proper, same⟩ := ite_eq_valid_iff.mp checked
  cases same
  exact canonical_of_ofEntries parts proper

end TimeSlot

theorem Day.ofText?_name (day : Day) : Day.ofText? day.name = some day := by
  cases day <;> decide +kernel

theorem Assignment.ofValue_eq_valid_iff {v : Value} {a : Assignment} :
    ofValue v = .valid a ↔ ∃ entries, v = .record entries ∧
      field "section_id" identifier entries = .valid a.sectionId ∧
      field "classroom_id" identifier entries = .valid a.classroomId ∧
      TimeSlot.ofEntries entries = .valid a.slot ∧ a.slot.isProper = true := by
  obtain ⟨sectionId, classroomId, slot⟩ := a
  simp only [ofValue, record_eq_valid_iff, andThen_eq_valid_iff, ite_eq_valid_iff,
    seq_eq_valid_iff, fmap_eq_valid_iff, valid.injEq]
  aesop

theorem Assignment.ofValue_toValue {a : Assignment} (known : IsIdentifier a.sectionId)
    (located : IsIdentifier a.classroomId) (slot : a.slot.Canonical) :
    ofValue a.toValue = .valid a := by
  obtain ⟨day, named⟩ := slot.day
  refine ofValue_eq_valid_iff.mpr ⟨_, rfl, ?_, ?_, TimeSlot.ofEntries_eq_valid_iff.mpr ⟨?_, ?_, ?_⟩,
    slot.proper⟩
  · exact field_eq_valid_iff.mpr ⟨_, rfl, identifier_eq_valid_iff.mpr ⟨rfl, known⟩⟩
  · exact field_eq_valid_iff.mpr ⟨_, rfl, identifier_eq_valid_iff.mpr ⟨rfl, located⟩⟩
  · refine field_eq_valid_iff.mpr ⟨_, rfl, dayName_eq_valid_iff.mpr ⟨_, day, rfl, ?_, named.symm⟩⟩
    rw [named]
    exact day.ofText?_name
  · exact field_eq_valid_iff.mpr ⟨_, rfl, time_eq_valid_iff.mpr ⟨rfl, slot.start⟩⟩
  · exact field_eq_valid_iff.mpr ⟨_, rfl, time_eq_valid_iff.mpr ⟨rfl, slot.finish⟩⟩

/-! ### Requests -/

/-- The list of later occurrences is empty where nothing occurs twice, nor has been seen before. -/
theorem laterOccurrences_eq_nil_iff {seen ids : List String} :
    laterOccurrences seen ids = [] ↔ ids.Nodup ∧ ∀ id ∈ ids, id ∉ seen := by
  induction ids generalizing seen with
  | nil => simp [laterOccurrences]
  | cons id rest ih =>
    unfold laterOccurrences
    by_cases before : id ∈ seen
    · simp [before]
    · rw [if_neg (by simpa using before), ih, List.nodup_cons, List.forall_mem_cons]
      constructor
      · rintro ⟨nodup, fresh⟩
        exact ⟨⟨fun again => fresh id again List.mem_cons_self, nodup⟩, before,
          fun other later seenBefore => fresh other later (List.mem_cons_of_mem _ seenBefore)⟩
      · rintro ⟨⟨fresh, nodup⟩, -, unseen⟩
        refine ⟨nodup, fun other later => ?_⟩
        rw [List.mem_cons, not_or]
        exact ⟨fun same => fresh (same ▸ later), unseen other later⟩

theorem checkUnique_eq_valid_iff {what : String} {ids : List String} {u : Unit} :
    checkUnique what ids = .valid u ↔ ids.Nodup := by
  have nothing : (laterOccurrences [] ids).eraseDups = [] ↔ laterOccurrences [] ids = [] := by
    simp only [List.eq_nil_iff_forall_not_mem, List.mem_eraseDups]
  simp [checkUnique, repeatedIds, nothing, laterOccurrences_eq_nil_iff]

namespace ValidateRequest

theorem ofEntries_eq_valid_iff {entries : List (String × Value)} {r : ValidateRequest} :
    ofEntries entries = .valid r ↔
      field "sections" (listUpTo 2000 Section.ofValue) entries = .valid r.sections ∧
        field "classrooms" (listUpTo 1000 Classroom.ofValue) entries = .valid r.classrooms ∧
        fieldOr "student_enrollments" [] (mapOf (listOf text)) entries = .valid r.enrollments ∧
        field "assignments" (listUpTo 5000 Assignment.ofValue) entries = .valid r.assignments := by
  obtain ⟨sections, classrooms, enrollments, assignments⟩ := r
  simp only [ofEntries, seq_eq_valid_iff, fmap_eq_valid_iff, exists_exists_and_eq_and,
    exists_exists_and_exists_and_eq_and, ↓existsAndEq, and_true, and_assoc, exists_and_left,
    mk.injEq]

theorem ofValue_eq_valid_iff {v : Value} {r : ValidateRequest} :
    ofValue v = .valid r ↔ ∃ entries, v = .record entries ∧ ofEntries entries = .valid r ∧
      (r.sections.map Section.id).Nodup ∧ (r.classrooms.map Classroom.id).Nodup := by
  simp only [ofValue, record_eq_valid_iff, andThen_eq_valid_iff, checkIds,
    checkUnique_eq_valid_iff]
  aesop

end ValidateRequest

namespace GenerateRequest

theorem ofEntries_eq_valid_iff {entries : List (String × Value)} {r : GenerateRequest} :
    ofEntries entries = .valid r ↔
      field "sections" (listUpTo 2000 Section.ofValue) entries = .valid r.sections ∧
        field "classrooms" (nonemptyUpTo 1000 Classroom.ofValue) entries = .valid r.classrooms ∧
        field "time_slots" (nonemptyUpTo 500 TimeSlot.ofValue) entries = .valid r.slots ∧
        fieldOr "instructor_preferences" [] (mapOf Preference.ofValue) entries =
          .valid r.preferences ∧
        fieldOr "student_enrollments" [] (mapOf (listOf text)) entries = .valid r.enrollments ∧
        fieldOr "settings_override" none (nullable Settings.ofValue) entries =
          .valid r.settings := by
  obtain ⟨sections, classrooms, slots, preferences, enrollments, settings⟩ := r
  simp only [ofEntries, seq_eq_valid_iff, fmap_eq_valid_iff, exists_exists_and_eq_and,
    exists_exists_and_exists_and_eq_and, ↓existsAndEq, and_true, and_assoc, exists_and_left,
    mk.injEq]

theorem ofValue_eq_valid_iff {v : Value} {r : GenerateRequest} :
    ofValue v = .valid r ↔ ∃ entries, v = .record entries ∧ ofEntries entries = .valid r ∧
      (r.sections.map Section.id).Nodup ∧ (r.classrooms.map Classroom.id).Nodup ∧
      unknownIds (r.sections.map Section.id) r.enrollments = [] := by
  simp only [ofValue, record_eq_valid_iff, andThen_eq_valid_iff, checkReferences,
    checkUnique_eq_valid_iff, ite_eq_valid_iff, List.isEmpty_iff]
  aesop

theorem length_sections_le {v : Value} {r : GenerateRequest} (read : ofValue v = .valid r) :
    r.sections.length ≤ 2000 := by
  obtain ⟨entries, -, parts, -⟩ := ofValue_eq_valid_iff.mp read
  obtain ⟨sections, -⟩ := ofEntries_eq_valid_iff.mp parts
  obtain ⟨_, -, sections⟩ := field_eq_valid_iff.mp sections
  exact length_le_of_listUpTo sections

end GenerateRequest

end Timetabling
