import Mathlib.Data.List.DropRight
import Timetabling.Proofs.SlotKeys

/-!
# Slots in full and slots by their keys

A slot is given in full, as three texts, or by a key that holds the three texts between underscores.
Both are read as one slot, except that blanks are dropped at the ends of a key: a line feed after
the end of a slot belongs to the slot, but not to the key. What has been accepted is cut into the
same three texts again.
-/

namespace Timetabling

namespace Text

variable {α : Type} {p : α → Bool} {cs first rest : List α} {c : α}

theorem mem_dropWhile (membership : c ∈ cs) (stays : p c = false) : c ∈ cs.dropWhile p := by
  rw [← List.takeWhile_append_dropWhile (p := p) (l := cs), List.mem_append] at membership
  apply membership.resolve_left
  intro dropped
  rw [List.mem_takeWhile_imp dropped] at stays
  cases stays

theorem mem_strip (membership : c ∈ cs) (stays : p c = false) : c ∈ strip p cs := by
  apply List.mem_reverse.mpr
  apply mem_dropWhile _ stays
  exact List.mem_reverse.mpr (mem_dropWhile membership stays)

theorem dropWhile_append_cons (stays : p c = false) :
    (first ++ c :: rest).dropWhile p = first.dropWhile p ++ c :: rest := by
  induction first with
  | nil => simp [stays]
  | cons a first ih =>
    by_cases dropped : p a = true
    · simpa [dropped] using ih
    · simp [dropped]

theorem rdropWhile_append_cons (stays : p c = false) :
    (first ++ c :: rest).rdropWhile p = first ++ c :: rest.rdropWhile p := by
  unfold List.rdropWhile
  rw [List.reverse_append, List.reverse_cons, List.append_assoc, List.singleton_append,
    dropWhile_append_cons stays]
  simp

/-- What does not start with a dropped character is stripped at its end only. -/
theorem strip_eq_rdropWhile (head : ∀ c ∈ cs.head?, p c = false) :
    strip p cs = cs.rdropWhile p := by
  rw [strip, dropWhile_eq_self head]
  rfl

theorem strip_dropWhile : strip p (cs.dropWhile p) = strip p cs := by
  unfold strip
  rw [List.dropWhile_idempotent]

theorem strip_concat (dropped : p c = true) : strip p (cs ++ [c]) = strip p cs := by
  change ((cs ++ [c]).dropWhile p).rdropWhile p = (cs.dropWhile p).rdropWhile p
  rw [List.dropWhile_append]
  split
  next empty => simp [List.isEmpty_iff.mp empty, dropped]
  next => exact List.rdropWhile_concat_pos p _ c dropped

theorem isBlank_of_isDigit {c : Char} (digit : isDigit c = true) : isBlank c = false := by
  obtain ⟨value, found⟩ := Option.isSome_iff_exists.mp digit
  obtain ⟨z, zero, inRange⟩ := List.exists_of_findSome?_eq_some found
  -- The digits of a script stand between two neighbouring groups of blank characters.
  have script : ∀ z ∈ zeros, z = 0x30 ∨ (0x660 ≤ z ∧ z ≤ 0x1090) ∨ (0x17E0 ≤ z ∧ z ≤ 0x1C50) ∨
      0xA620 ≤ z := by decide
  have placed := script z zero
  split at inRange
  next bounds =>
    simp only [isBlank, isSpacing, Bool.or_eq_false_iff, Bool.and_eq_false_iff,
      decide_eq_false_iff_not, beq_eq_false_iff_ne]
    omega
  next => cases inRange

end Text

namespace Clock

variable {time start finish : String} {cs : List Char}

/-- A written time without the line feed that may follow it. -/
structure Bare (cs : List Char) : Prop where
  exists_parts : ∃ hour minute, cs = hour ++ ':' :: minute ∧ ':' ∉ hour ∧ ':' ∉ minute
  head : ∀ c ∈ cs.head?, Text.isBlank c = false
  last : ∀ c ∈ cs.getLast?, Text.isBlank c = false
  written : isWritten cs = true
  feedless : '\n' ∉ cs

theorem exists_bare (written : isWritten cs = true) :
    ∃ bare, Bare bare ∧ (cs = bare ∨ cs = bare ++ ['\n']) := by
  obtain ⟨a, b, c, d, spelled, hour, minute⟩ := isWritten_iff.mp written
  have different {x y : Char} (digit : Text.isDigit x = true) (other : Text.isDigit y = false) :
      y ≠ x := by
    rintro rfl
    cases digit.symm.trans other
  obtain ⟨ha, hb⟩ := isDigit_of_isHour hour
  obtain ⟨⟨ascii, -⟩, hd⟩ := isDigit_of_isMinute minute
  have hc : Text.isDigit c = true := by
    rw [Text.isDigit, Text.digit?_of_asciiDigit ascii, Option.isSome_some]
  have colon : Text.isDigit ':' = false := by decide
  have feed : Text.isDigit '\n' = false := by decide
  refine ⟨[a, b, ':', c, d], ⟨⟨[a, b], [c, d], rfl, ?_, ?_⟩, ?_, ?_, ?_, ?_⟩, spelled⟩
  · simp [different ha colon, different hb colon]
  · simp [different hc colon, different hd colon]
  · simpa using Text.isBlank_of_isDigit ha
  · simpa using Text.isBlank_of_isDigit hd
  · exact isWritten_iff.mpr ⟨a, b, c, d, .inl rfl, hour, minute⟩
  · simp [different ha feed, different hb feed, different hc feed, different hd feed]

theorem Bare.trimmed_eq (bare : Bare cs) : Text.trimmed cs = cs :=
  Text.strip_eq_self bare.head bare.last

theorem Bare.trimmed_concat (bare : Bare cs) : Text.trimmed (cs ++ ['\n']) = cs := by
  rw [Text.trimmed, Text.strip_concat (by decide)]
  exact bare.trimmed_eq

theorem Bare.ofParts?_concat (bare : Bare cs) : ofParts? (cs ++ ['\n']) = ofParts? cs := by
  obtain ⟨hour, minute, rfl, hourClear, minuteClear⟩ := bare.exists_parts
  have feedClear : ':' ∉ minute ++ ['\n'] := by
    simpa using minuteClear
  have sameMinute : Text.numeral? (minute ++ ['\n']) = Text.numeral? minute := by
    unfold Text.numeral? Text.trimmed
    rw [Text.strip_concat (by decide)]
  rw [List.append_assoc, List.cons_append]
  unfold ofParts?
  rw [Text.pieces_append_cons hourClear, Text.pieces_append_cons hourClear,
    Text.pieces_of_notMem feedClear, Text.pieces_of_notMem minuteClear]
  simp only [sameMinute]

/-- The blanks around a written time come to a line feed after it. -/
theorem trimmed_eq_self_iff (written : isWritten cs = true) :
    Text.trimmed cs = cs ↔ '\n' ∉ cs := by
  obtain ⟨bare, kept, rfl | rfl⟩ := exists_bare written
  · exact iff_of_true kept.trimmed_eq kept.feedless
  · rw [kept.trimmed_concat]
    simp

theorem isWritten_of_isAfter (proper : isAfter finish start = true) :
    isWritten start.toList = true ∧ isWritten finish.toList = true := by
  obtain ⟨e, finishes, s, starts, -⟩ := isAfter_iff.mp proper
  exact ⟨isWritten_of_minutes? starts, isWritten_of_minutes? finishes⟩

theorem minutes?_trim (written : isWritten time.toList = true) :
    minutes? (Text.trim time) = minutes? time := by
  obtain ⟨bare, kept, spelled⟩ := exists_bare written
  have trimmed : Text.trimmed time.toList = bare := by
    rcases spelled with spelled | spelled
    · rw [spelled, kept.trimmed_eq]
    · rw [spelled, kept.trimmed_concat]
  unfold minutes?
  rw [Text.trim, String.toList_ofList, trimmed, if_pos kept.written, if_pos written]
  rcases spelled with spelled | spelled
  · rw [spelled]
  · rw [spelled, kept.ofParts?_concat]

theorem isAfter_trim (written : isWritten finish.toList = true) :
    isAfter (Text.trim finish) start = isAfter finish start := by
  unfold isAfter
  rw [minutes?_trim written]

theorem trimmed_eq_rdropWhile (written : isWritten cs = true) :
    Text.trimmed cs = cs.rdropWhile Text.isBlank := by
  apply Text.strip_eq_rdropWhile
  obtain ⟨bare, kept, rfl | rfl⟩ := exists_bare written
  · exact kept.head
  · obtain ⟨hour, minute, rfl, -⟩ := kept.exists_parts
    have head := kept.head
    cases hour <;> simpa using head

end Clock

namespace Day

variable {text : String} {day : Day}

theorem ofText?_eq_of_trimmed {other : String}
    (same : Text.trimmed text.toList = Text.trimmed other.toList) :
    ofText? text = ofText? other := by
  unfold ofText? Text.trim
  rw [same]

theorem underscore_notMem_of_ofText? (named : ofText? text = some day) : '_' ∉ text.toList := by
  intro membership
  have kept : '_' ∈ Text.trimmed text.toList := Text.mem_strip membership (by decide)
  have lowered : '_' ∈ (Text.lowered (Text.trim text)).toList := by
    rw [Text.lowered, Text.trim, String.toList_ofList, String.toList_ofList]
    exact List.mem_map.mpr ⟨'_', kept, by decide⟩
  have word := List.find?_some named
  simp only [Bool.or_eq_true, beq_iff_eq] at word
  rcases word with abbreviated | spelled
  · rw [abbreviated] at lowered
    revert lowered
    cases day <;> decide
  · rw [spelled] at lowered
    revert lowered
    cases day <;> decide

end Day

namespace TimeSlot

open Reader Validated

variable {given slot : TimeSlot}

theorem ofValue_toValue_eq_valid_iff :
    ofValue given.toValue = .valid slot ↔ ∃ day, Day.ofText? given.day = some day ∧
      Clock.isAfter given.finish given.start = true ∧
      ⟨day.name, given.start, given.finish⟩ = slot := by
  have entry (name : String) {reader : Reader String} {text kept : String}
      (found : Entries.get? name given.entries = some (.text text)) :
      field name reader given.entries = .valid kept ↔ reader (.text text) = .valid kept := by
    rw [field_eq_valid_iff, found]
    simp
  unfold ofValue toValue
  simp only [record_eq_valid_iff, Value.record.injEq, exists_eq_left', andThen_eq_valid_iff,
    ite_eq_valid_iff, valid.injEq, ofEntries_eq_valid_iff,
    entry "day_of_week" rfl, entry "start_time" rfl, entry "end_time" rfl, dayName_eq_valid_iff,
    time_eq_valid_iff, Value.text.injEq]
  obtain ⟨word, start, finish⟩ := given
  constructor
  · rintro ⟨⟨_, _, _⟩, ⟨⟨_, day, rfl, named, rfl⟩, ⟨rfl, -⟩, rfl, -⟩, proper, rfl⟩
    exact ⟨day, named, proper, rfl⟩
  · rintro ⟨day, named, proper, rfl⟩
    obtain ⟨starts, finishes⟩ := Clock.isWritten_of_isAfter proper
    exact ⟨⟨day.name, start, finish⟩, ⟨⟨word, day, rfl, named, rfl⟩, ⟨rfl, starts⟩, rfl, finishes⟩,
      proper, rfl⟩

theorem Canonical.ofValue_toValue (canonical : slot.Canonical) :
    ofValue slot.toValue = .valid slot := by
  obtain ⟨day, named⟩ := canonical.day
  apply ofValue_toValue_eq_valid_iff.mpr
  refine ⟨day, ?_, canonical.proper, ?_⟩
  · rw [named]
    exact day.ofText?_name
  · rw [← named]

end TimeSlot

namespace SlotKey

def parts (key : String) : List String :=
  (Text.pieces '_' key.toList).map String.ofList

end SlotKey

namespace TimeSlot

variable {given slot : TimeSlot}

theorem Canonical.parts_key (canonical : slot.Canonical) :
    SlotKey.parts slot.key = [slot.day, slot.start, slot.finish] := by
  obtain ⟨day, named⟩ := canonical.day
  rw [SlotKey.parts, key, SlotKey.toList_of, named, Text.pieces_append_cons day.underscore_notMem,
    Text.pieces_append_cons (Clock.underscore_notMem canonical.start),
    Text.pieces_of_notMem (Clock.underscore_notMem canonical.finish)]
  simp only [List.map_cons, List.map_nil, String.ofList_toList]

/-- A normal key is that of a slot as requests keep it. -/
theorem exists_canonical_of_normalize {text key : String}
    (normal : SlotKey.normalize text = .ok key) :
    ∃ slot : TimeSlot, slot.Canonical ∧ slot.key = key ∧ SlotKey.normalize key = .ok key := by
  obtain ⟨day, start, finish, kept⟩ := SlotKey.exists_normal_of_normalize normal
  obtain ⟨startWritten, finishWritten⟩ := Clock.isWritten_of_isAfter kept.proper
  exact ⟨⟨day.name, start, finish⟩, ⟨⟨day, rfl⟩, startWritten, finishWritten, kept.proper⟩,
    kept.spelled.symm, kept.normalize_eq⟩

/-- Accepted slots are told apart by their keys, which are cut into their texts again. A key that is
the normal form of some text is cut into three texts that are accepted as they are, belongs to the
slot that they make, and is its own normal form. -/
theorem keys_round_trip :
    (∀ slot : TimeSlot, slot.Accepted →
      SlotKey.parts slot.key = [slot.day, slot.start, slot.finish]) ∧
    (∀ s t : TimeSlot, s.Accepted → t.Accepted → s.key = t.key →
      s.day = t.day ∧ s.start = t.start ∧ s.finish = t.finish) ∧
    ∀ text key, SlotKey.normalize text = .ok key →
      ∃ day start finish, SlotKey.parts key = [day, start, finish] ∧
        ofValue (toValue ⟨day, start, finish⟩) = .valid ⟨day, start, finish⟩ ∧
        TimeSlot.key ⟨day, start, finish⟩ = key ∧ SlotKey.normalize key = .ok key := by
  refine ⟨fun slot accepted => accepted.canonical.parts_key, ?distinct, ?normal⟩
  case distinct =>
    intro s t first second sameKey
    obtain rfl : s = t := (first.canonical.key_eq_iff second.canonical).mp sameKey
    exact ⟨rfl, rfl, rfl⟩
  case normal =>
    intro text key normal
    obtain ⟨slot, canonical, rfl, fixed⟩ := exists_canonical_of_normalize normal
    exact ⟨slot.day, slot.start, slot.finish, canonical.parts_key, canonical.ofValue_toValue, rfl,
      fixed⟩

theorem keys_round_trip_feed :
    let slot : TimeSlot := ⟨"Monday", "09:00\n", "1\u0660:00"⟩
    slot.Accepted ∧ SlotKey.parts slot.key = ["Monday", "09:00\n", "1\u0660:00"] ∧
      SlotKey.normalize " MON_09:00\n_1\u0660:00\n" = .ok slot.key ∧
      ∃ day start finish, SlotKey.parts slot.key = [day, start, finish] ∧
        ofValue (toValue ⟨day, start, finish⟩) = .valid ⟨day, start, finish⟩ ∧
        TimeSlot.key ⟨day, start, finish⟩ = slot.key ∧
        SlotKey.normalize slot.key = .ok slot.key := by
  intro slot
  have accepted : slot.Accepted := .inl ⟨slot.toValue, by decide +kernel⟩
  have normal : SlotKey.normalize " MON_09:00\n_1\u0660:00\n" = .ok slot.key := by decide +kernel
  obtain ⟨cut, -, normalized⟩ := keys_round_trip
  exact ⟨accepted, cut slot accepted, normal, normalized _ _ normal⟩

section Preferred

variable {given slot : TimeSlot} (read : ofValue given.toValue = .valid slot)

include read

/-- A key is read as the slot that its texts make in full, less a line feed at its end. -/
theorem normalize_key :
    SlotKey.normalize given.key =
      .ok (SlotKey.of slot.day slot.start (Text.trim slot.finish)) := by
  obtain ⟨day, named, proper, rfl⟩ := ofValue_toValue_eq_valid_iff.mp read
  obtain ⟨startWritten, finishWritten⟩ := Clock.isWritten_of_isAfter proper
  have separator : Text.isBlank '_' = false := by decide
  -- Blanks before the day go with the blanks of the key, those after it stay with the day.
  have trimmed : Text.trimmed given.key.toList =
      given.day.toList.dropWhile Text.isBlank ++ '_' ::
        (given.start.toList ++ '_' :: Text.trimmed given.finish.toList) := by
    rw [key, SlotKey.toList_of, Clock.trimmed_eq_rdropWhile finishWritten,
      ← Text.rdropWhile_append_cons separator, ← Text.rdropWhile_append_cons separator,
      ← Text.dropWhile_append_cons separator]
    rfl
  have wordClear : '_' ∉ given.day.toList.dropWhile Text.isBlank := by
    intro membership
    exact Day.underscore_notMem_of_ofText? named ((List.dropWhile_sublist _).mem membership)
  have finishClear : '_' ∉ Text.trimmed given.finish.toList := by
    rw [Clock.trimmed_eq_rdropWhile finishWritten]
    intro membership
    exact Clock.underscore_notMem finishWritten ((List.rdropWhile_prefix _ _).mem membership)
  refine SlotKey.normalize_eq_ok_iff.mpr ⟨given.day.toList.dropWhile Text.isBlank,
    given.start.toList, Text.trimmed given.finish.toList, day, ?_, ?_, ?_, ?_⟩
  · rw [trimmed, Text.pieces_append_cons wordClear,
      Text.pieces_append_cons (Clock.underscore_notMem startWritten),
      Text.pieces_of_notMem finishClear]
  · rw [String.ofList_toList]
    exact (Clock.isAfter_trim finishWritten).trans proper
  · rw [← named]
    apply Day.ofText?_eq_of_trimmed
    rw [String.toList_ofList]
    exact Text.strip_dropWhile
  · rw [String.ofList_toList]
    rfl

theorem normalize_key_eq_iff :
    SlotKey.normalize given.key = .ok slot.key ↔ '\n' ∉ slot.finish.toList := by
  have finishWritten := (canonical_of_ofValue read).finish
  rw [normalize_key read, ← Clock.trimmed_eq_self_iff finishWritten, Except.ok.injEq,
    ← String.toList_inj, key, SlotKey.toList_of, SlotKey.toList_of, List.append_cancel_left_eq,
    List.cons.injEq, List.append_cancel_left_eq, List.cons.injEq, Text.trim, String.toList_ofList]
  simp

/-- A preference for the key that is made of three texts is one for the slot that they make, unless
a line feed follows the end of the slot. A preference for the slot in full always is. -/
theorem key_preferred_iff {v u : Value} {r : GenerateRequest} {instructor : String}
    (accepted : GenerateRequest.ofValue v = .valid r)
    (preferred : Entries.get? instructor (v.entriesAt "instructor_preferences").reverse = some u) :
    (u.itemsAt "preferred_slot_keys" = [.text given.key] → u.itemsAt "preferred_slots" = [] →
      (slot.key ∈ r.problem.preferredKeys instructor ↔ '\n' ∉ slot.finish.toList)) ∧
    (given.toValue ∈ u.itemsAt "preferred_slots" →
      slot.key ∈ r.problem.preferredKeys instructor) := by
  simp only [GenerateRequest.mem_preferredKeys accepted, GenerateRequest.Names, preferred,
    Option.some.injEq, exists_eq_left']
  constructor
  · intro keys slots
    rw [keys, slots, ← normalize_key_eq_iff read]
    simp
  · intro listed
    exact .inr ⟨_, listed, slot, read, rfl⟩

end Preferred

/-- A key that is made of the texts of an accepted slot is always accepted, as the key of this slot
less a line feed at its end. So a preference for the key is one for the slot exactly if no line feed
follows the end of the slot, while a preference for the slot in full always is. -/
theorem key_of_texts (given slot : TimeSlot) (read : ofValue given.toValue = .valid slot) :
    SlotKey.normalize given.key =
        .ok (SlotKey.of slot.day slot.start (Text.trim slot.finish)) ∧
      (SlotKey.normalize given.key = .ok slot.key ↔ '\n' ∉ slot.finish.toList) ∧
      ∀ v r instructor u, GenerateRequest.ofValue v = .valid r →
        Entries.get? instructor (v.entriesAt "instructor_preferences").reverse = some u →
        (u.itemsAt "preferred_slot_keys" = [.text given.key] → u.itemsAt "preferred_slots" = [] →
          (slot.key ∈ r.problem.preferredKeys instructor ↔ '\n' ∉ slot.finish.toList)) ∧
        (given.toValue ∈ u.itemsAt "preferred_slots" →
          slot.key ∈ r.problem.preferredKeys instructor) :=
  ⟨normalize_key read, normalize_key_eq_iff read,
    fun _ _ _ _ accepted preferred => key_preferred_iff read accepted preferred⟩

/-- A request with one slot, which the instructor prefers by its key. -/
def wish (given : TimeSlot) : Value :=
  .record [
    ("sections", .list [Section.toValue ⟨"algebra", "ada", 20, false⟩]),
    ("classrooms", .list [Classroom.toValue ⟨"hall", 30, []⟩]),
    ("time_slots", .list [given.toValue]),
    ("instructor_preferences", .record [("ada", .record [
      ("preferred_slot_keys", .list [.text given.key])])])]

theorem key_of_texts_wish :
    let given : TimeSlot := ⟨"\u3000mON ", "09:00\n", "1\u0660:00"⟩
    let slot : TimeSlot := ⟨"Monday", "09:00\n", "1\u0660:00"⟩
    ofValue given.toValue = .valid slot ∧ SlotKey.normalize given.key = .ok slot.key ∧
      ∃ r, GenerateRequest.ofValue (wish given) = .valid r ∧ r.slots = [slot] ∧
        slot.key ∈ r.problem.preferredKeys "ada" := by
  intro given slot
  have read : ofValue given.toValue = .valid slot := by decide +kernel
  have feedless : '\n' ∉ slot.finish.toList := by decide +kernel
  let r : GenerateRequest := {
    sections := [⟨"algebra", "ada", 20, false⟩]
    classrooms := [⟨"hall", 30, []⟩]
    slots := [slot]
    preferences := [("ada", ⟨[slot.key], []⟩)] }
  have accepted : GenerateRequest.ofValue (wish given) = .valid r := by decide +kernel
  obtain ⟨-, matches_iff, preferred⟩ := key_of_texts given slot read
  refine ⟨read, matches_iff.mpr feedless, r, accepted, rfl, ?_⟩
  exact ((preferred _ r "ada" _ accepted rfl).1 rfl rfl).mpr feedless

/-- A slot with a line feed at its end is offered, and preferred by the key that its texts make, but
the preference is for a key that no slot has. -/
theorem feed_missed_by_key :
    let slot : TimeSlot := ⟨"Monday", "09:00", "10:00\n"⟩
    ofValue slot.toValue = .valid slot ∧
      SlotKey.normalize slot.key = .ok "Monday_09:00_10:00" ∧
      SlotKey.normalize slot.key ≠ .ok slot.key ∧
      ∃ r, GenerateRequest.ofValue (wish slot) = .valid r ∧ r.problem.slots = [slot] ∧
        r.problem.preferredKeys "ada" = ["Monday_09:00_10:00"] ∧
        slot.key ∉ r.problem.preferredKeys "ada" := by
  intro slot
  refine ⟨by decide +kernel, by decide +kernel, by decide +kernel, {
    sections := [⟨"algebra", "ada", 20, false⟩]
    classrooms := [⟨"hall", 30, []⟩]
    slots := [slot]
    preferences := [("ada", ⟨["Monday_09:00_10:00"], []⟩)] }, ?_⟩
  decide +kernel

end TimeSlot

end Timetabling
