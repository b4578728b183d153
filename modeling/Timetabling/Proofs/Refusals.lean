import Timetabling.Proofs.Minutes

/-!
# What slots are refused for

The faults that are reported for a slot, or for an assignment with one, are those that its texts
have. The order of its times is looked at only where every text has been read, so that both times
name a minute there. What has no fault is accepted.
-/

namespace Timetabling

namespace Validated

variable {α β : Type} {f : Validated (α → β)} {x : Validated α} {fault : Fault}

def Reports (x : Validated α) (fault : Fault) : Prop :=
  ∃ faults, x = .invalid faults ∧ fault ∈ faults

theorem reports_valid {a : α} : (valid a).Reports fault ↔ False := by
  simp [Reports]

theorem reports_refuse {cause : Cause} :
    (refuse cause : Validated α).Reports fault ↔ fault = ⟨[], cause⟩ := by
  simp [Reports, refuse]

theorem reports_fmap {g : α → β} : (g <$> x).Reports fault ↔ x.Reports fault := by
  change (x.map g).Reports fault ↔ _
  cases x <;> simp [Reports, map]

theorem reports_seq : (f <*> x).Reports fault ↔ f.Reports fault ∨ x.Reports fault := by
  change (f.apply x).Reports fault ↔ _
  cases f <;> cases x <;> simp [Reports, apply]

theorem reports_under {step : PathStep} :
    (x.under step).Reports fault ↔
      ∃ inner, x.Reports inner ∧ { inner with path := step :: inner.path } = fault := by
  cases x <;> simp [Reports, under]

theorem reports_andThen {check : α → Validated β} :
    (x.andThen check).Reports fault ↔
      x.Reports fault ∨ ∃ a, x = .valid a ∧ (check a).Reports fault := by
  cases x <;> simp [Reports, andThen]

end Validated

namespace Reader

open Validated

variable {name s : String} {entries : List (String × Value)} {fault : Fault}

theorem reports_field {α : Type} {reader : Reader α}
    (found : Entries.get? name entries = some (.text s)) :
    (field name reader entries).Reports fault ↔
      ∃ inner, (reader (.text s)).Reports inner ∧
        { inner with path := .key name :: inner.path } = fault := by
  rw [field, found, Option.elim_some, reports_under]

theorem reports_dayName :
    (dayName (.text s)).Reports fault ↔
      Day.ofText? s = none ∧ fault = ⟨[], .rule (.calendar .unknownDay)⟩ := by
  simp only [dayName, text, andThen, Day.read]
  cases Day.ofText? s <;> simp [reports_refuse, reports_valid]

theorem reports_time :
    (time (.text s)).Reports fault ↔
      Clock.isWritten s.toList = false ∧ fault = ⟨[], .rule (.calendar .malformedTime)⟩ := by
  simp only [time, text, andThen]
  cases Clock.isWritten s.toList <;> simp [reports_refuse, reports_valid]

/-- The faults of an identifier: it is empty or too long. -/
inductive Misnamed (s : String) : Cause → Prop
  | empty (short : s.length = 0) : Misnamed s .textTooShort
  | long (tooLong : longestIdentifier < s.length) : Misnamed s (.textTooLong longestIdentifier)

theorem reports_identifier :
    (identifier (.text s)).Reports fault ↔ ∃ cause, Misnamed s cause ∧ fault = ⟨[], cause⟩ := by
  simp only [identifier, text, andThen]
  constructor
  · intro reported
    split at reported
    next short => exact ⟨_, .empty short, reports_refuse.mp reported⟩
    next =>
      split at reported
      next tooLong => exact ⟨_, .long tooLong, reports_refuse.mp reported⟩
      next => exact (reports_valid.mp reported).elim
  · rintro ⟨_, ⟨short⟩ | ⟨tooLong⟩, rfl⟩
    · rw [if_pos short, reports_refuse]
    · rw [if_neg (Nat.ne_of_gt (Nat.zero_lt_of_lt tooLong)), if_pos tooLong, reports_refuse]

end Reader

namespace TimeSlot

open Validated Reader

variable {given slot : TimeSlot} {entries : List (String × Value)} {fault : Fault}

inductive Misspelled (given : TimeSlot) : Fault → Prop
  | day (unnamed : Day.ofText? given.day = none) :
      Misspelled given ⟨[.key "day_of_week"], .rule (.calendar .unknownDay)⟩
  | start (unwritten : Clock.isWritten given.start.toList = false) :
      Misspelled given ⟨[.key "start_time"], .rule (.calendar .malformedTime)⟩
  | finish (unwritten : Clock.isWritten given.finish.toList = false) :
      Misspelled given ⟨[.key "end_time"], .rule (.calendar .malformedTime)⟩

structure ListedIn (given : TimeSlot) (entries : List (String × Value)) : Prop where
  day : Entries.get? "day_of_week" entries = some (.text given.day)
  start : Entries.get? "start_time" entries = some (.text given.start)
  finish : Entries.get? "end_time" entries = some (.text given.finish)

theorem ListedIn.reports_iff (listed : given.ListedIn entries) :
    (ofEntries entries).Reports fault ↔ given.Misspelled fault := by
  simp only [ofEntries, reports_seq, reports_fmap, reports_field listed.day,
    reports_field listed.start, reports_field listed.finish, reports_dayName, reports_time]
  constructor
  · rintro ((⟨_, ⟨unnamed, rfl⟩, rfl⟩ | ⟨_, ⟨unwritten, rfl⟩, rfl⟩) | ⟨_, ⟨unwritten, rfl⟩, rfl⟩)
    · exact .day unnamed
    · exact .start unwritten
    · exact .finish unwritten
  · rintro (unnamed | unwritten | unwritten)
    · exact .inl (.inl ⟨_, ⟨unnamed, rfl⟩, rfl⟩)
    · exact .inl (.inr ⟨_, ⟨unwritten, rfl⟩, rfl⟩)
    · exact .inr ⟨_, ⟨unwritten, rfl⟩, rfl⟩

theorem written_of_faultless (faultless : ∀ other, ¬ given.Misspelled other) :
    Clock.isWritten given.start.toList = true ∧ Clock.isWritten given.finish.toList = true := by
  constructor
  · by_contra unwritten
    exact faultless _ (.start (Bool.eq_false_iff.mpr unwritten))
  · by_contra unwritten
    exact faultless _ (.finish (Bool.eq_false_iff.mpr unwritten))

theorem ListedIn.eq_valid_iff (listed : given.ListedIn entries) :
    ofEntries entries = .valid slot ↔ (∀ other, ¬ given.Misspelled other) ∧
      ∃ day, Day.ofText? given.day = some day ∧ ⟨day.name, given.start, given.finish⟩ = slot := by
  have entry {name text : String} {reader : Reader String} {kept : String}
      (found : Entries.get? name entries = some (.text text)) :
      field name reader entries = .valid kept ↔ reader (.text text) = .valid kept := by
    rw [field_eq_valid_iff, found]
    simp
  obtain ⟨day, start, finish⟩ := slot
  simp only [ofEntries_eq_valid_iff, entry listed.day, entry listed.start, entry listed.finish,
    dayName_eq_valid_iff, time_eq_valid_iff, Value.text.injEq, mk.injEq]
  constructor
  · rintro ⟨⟨_, named, rfl, found, rfl⟩, ⟨rfl, starts⟩, rfl, finishes⟩
    refine ⟨?_, named, found, rfl, rfl, rfl⟩
    rintro _ (unnamed | unwritten | unwritten)
    · cases unnamed.symm.trans found
    · cases unwritten.symm.trans starts
    · cases unwritten.symm.trans finishes
  · rintro ⟨faultless, named, found, rfl, rfl, rfl⟩
    obtain ⟨starts, finishes⟩ := written_of_faultless faultless
    exact ⟨⟨_, named, rfl, found, rfl⟩, ⟨rfl, starts⟩, rfl, finishes⟩

end TimeSlot

/-- What is wrong with a record that has a slot: faults of its texts, or without any of these an end
that is not after the start. -/
inductive RefusedFor (misspelled : Fault → Prop) (slot : TimeSlot) : Fault → Prop
  | text {fault : Fault} (faulty : misspelled fault) : RefusedFor misspelled slot fault
  | order (faultless : ∀ other, ¬ misspelled other)
      (backward : Clock.Backward slot.start slot.finish) :
      RefusedFor misspelled slot ⟨[], .rule .endNotAfterStart⟩

/-- A reading of texts among which there are those of a slot. -/
structure ReadsSlot {α : Type} (reading : Validated α) (slotOf : α → TimeSlot)
    (misspelled : Fault → Prop) (slot : TimeSlot) : Prop where
  reports_iff : ∀ fault, reading.Reports fault ↔ misspelled fault
  exists_valid : (∀ fault, ¬ misspelled fault) → ∃ a, reading = .valid a
  start_eq : ∀ a, reading = .valid a → (slotOf a).start = slot.start
  finish_eq : ∀ a, reading = .valid a → (slotOf a).finish = slot.finish
  written : ∀ a, reading = .valid a → Clock.isWritten slot.start.toList = true ∧
    Clock.isWritten slot.finish.toList = true

namespace ReadsSlot

open Validated

variable {α : Type} {reading : Validated α} {slotOf : α → TimeSlot} {misspelled : Fault → Prop}
  {slot : TimeSlot}

/-- The order of the times is looked at where all texts have been read, and decides there. -/
theorem checked (reads : ReadsSlot reading slotOf misspelled slot) {a : α}
    (read : reading = .valid a) :
    (slotOf a).isProper = false ↔ Clock.Backward slot.start slot.finish := by
  obtain ⟨starts, finishes⟩ := reads.written a read
  rw [TimeSlot.isProper, reads.start_eq a read, reads.finish_eq a read,
    Clock.isAfter_eq_false_iff starts finishes]

theorem reports_andThen_iff (reads : ReadsSlot reading slotOf misspelled slot) (fault : Fault) :
    (reading.andThen fun a =>
        if (slotOf a).isProper then .valid a else .refuse (.rule .endNotAfterStart)).Reports fault ↔
      RefusedFor misspelled slot fault := by
  rw [reports_andThen, reads.reports_iff]
  constructor
  · rintro (faulty | ⟨a, read, refused⟩)
    · exact .text faulty
    · split at refused
      next => exact (reports_valid.mp refused).elim
      next improper =>
        obtain rfl := reports_refuse.mp refused
        refine .order ?_ ((reads.checked read).mp (Bool.eq_false_iff.mpr improper))
        intro other faulty
        obtain ⟨faults, failed, -⟩ := (reads.reports_iff other).mpr faulty
        cases read.symm.trans failed
  · rintro (faulty | ⟨faultless, backward⟩)
    · exact .inl faulty
    · obtain ⟨a, read⟩ := reads.exists_valid faultless
      refine .inr ⟨a, read, ?_⟩
      rw [(reads.checked read).mpr backward]
      exact reports_refuse.mpr rfl

theorem exists_andThen_iff (reads : ReadsSlot reading slotOf misspelled slot) :
    (∃ a, (reading.andThen fun a =>
        if (slotOf a).isProper then .valid a else .refuse (.rule .endNotAfterStart)) = .valid a) ↔
      ∀ fault, ¬ RefusedFor misspelled slot fault := by
  constructor
  · rintro ⟨a, accepted⟩ fault refused
    obtain ⟨faults, failed, -⟩ := (reads.reports_andThen_iff fault).mpr refused
    cases accepted.symm.trans failed
  · intro faultless
    obtain ⟨a, read⟩ := reads.exists_valid fun fault faulty => faultless fault (.text faulty)
    refine ⟨a, andThen_eq_valid_iff.mpr ⟨a, read, ite_eq_valid_iff.mpr ⟨?_, rfl⟩⟩⟩
    by_contra improper
    have backward := (reads.checked read).mp (Bool.eq_false_iff.mpr improper)
    exact faultless _ (.order (fun other faulty => faultless other (.text faulty)) backward)

end ReadsSlot

namespace TimeSlot

variable {given : TimeSlot} {entries : List (String × Value)} {fault : Fault}

theorem ListedIn.readsSlot (listed : given.ListedIn entries) :
    ReadsSlot (ofEntries entries) id given.Misspelled given where
  reports_iff fault := listed.reports_iff
  exists_valid faultless := by
    cases named : Day.ofText? given.day with
    | none => exact absurd (.day named) (faultless _)
    | some day => exact ⟨_, listed.eq_valid_iff.mpr ⟨faultless, day, named, rfl⟩⟩
  start_eq slot read := by
    obtain ⟨-, day, -, rfl⟩ := listed.eq_valid_iff.mp read
    rfl
  finish_eq slot read := by
    obtain ⟨-, day, -, rfl⟩ := listed.eq_valid_iff.mp read
    rfl
  written slot read := by
    exact written_of_faultless (listed.eq_valid_iff.mp read).1

theorem readsSlot_entries (given : TimeSlot) :
    ReadsSlot (ofEntries given.entries) id given.Misspelled given :=
  ListedIn.readsSlot ⟨rfl, rfl, rfl⟩

theorem kind_of_refusedFor (refused : RefusedFor given.Misspelled given fault)
    (boundary : Boundary) : fault.cause.kind boundary = "value_error" := by
  rcases refused with (_ | _ | _) | _ <;> cases boundary <;> rfl

theorem Accepted.spans {slot : TimeSlot} (accepted : slot.Accepted) :
    Clock.Spans slot.start slot.finish :=
  Clock.isAfter_iff_spans.mp accepted.canonical.proper

end TimeSlot

namespace Assignment

open Validated Reader

inductive Misspelled (given : Assignment) : Fault → Prop
  | sectionId {cause : Cause} (misnamed : Misnamed given.sectionId cause) :
      Misspelled given ⟨[.key "section_id"], cause⟩
  | classroomId {cause : Cause} (misnamed : Misnamed given.classroomId cause) :
      Misspelled given ⟨[.key "classroom_id"], cause⟩
  | slot {fault : Fault} (faulty : given.slot.Misspelled fault) : Misspelled given fault

def entries (given : Assignment) : List (String × Value) :=
  ("section_id", .text given.sectionId) :: ("classroom_id", .text given.classroomId) ::
    given.slot.entries

def read (entries : List (String × Value)) : Validated Assignment :=
  mk <$> field "section_id" identifier entries <*> field "classroom_id" identifier entries
    <*> TimeSlot.ofEntries entries

variable {given a : Assignment}

theorem listedIn_entries (given : Assignment) : given.slot.ListedIn given.entries :=
  ⟨rfl, rfl, rfl⟩

theorem reports_read {fault : Fault} :
    (read given.entries).Reports fault ↔ given.Misspelled fault := by
  have named : Entries.get? "section_id" given.entries = some (.text given.sectionId) := rfl
  have located : Entries.get? "classroom_id" given.entries = some (.text given.classroomId) := rfl
  simp only [read, reports_seq, reports_fmap, reports_field named, reports_field located,
    reports_identifier, given.listedIn_entries.reports_iff]
  constructor
  · rintro ((⟨_, ⟨cause, misnamed, rfl⟩, rfl⟩ | ⟨_, ⟨cause, misnamed, rfl⟩, rfl⟩) | faulty)
    · exact .sectionId misnamed
    · exact .classroomId misnamed
    · exact .slot faulty
  · rintro (misnamed | misnamed | faulty)
    · exact .inl (.inl ⟨_, ⟨_, misnamed, rfl⟩, rfl⟩)
    · exact .inl (.inr ⟨_, ⟨_, misnamed, rfl⟩, rfl⟩)
    · exact .inr faulty

theorem read_eq_valid_iff :
    read given.entries = .valid a ↔
      field "section_id" identifier given.entries = .valid a.sectionId ∧
      field "classroom_id" identifier given.entries = .valid a.classroomId ∧
      TimeSlot.ofEntries given.entries = .valid a.slot := by
  obtain ⟨sectionId, classroomId, slot⟩ := a
  simp only [read, seq_eq_valid_iff, fmap_eq_valid_iff, exists_exists_and_eq_and,
    exists_exists_and_exists_and_eq_and, mk.injEq, ↓existsAndEq, and_true]

theorem identifier_of_faultless {s : String} (faultless : ∀ cause, ¬ Misnamed s cause) :
    identifier (.text s) = .valid s := by
  refine identifier_eq_valid_iff.mpr ⟨rfl, fun short => faultless _ (.empty short), ?_⟩
  exact Nat.not_lt.mp fun tooLong => faultless _ (.long tooLong)

theorem readsSlot_entries (given : Assignment) :
    ReadsSlot (read given.entries) slot given.Misspelled given.slot where
  reports_iff fault := reports_read
  exists_valid faultless := by
    obtain ⟨kept, parts⟩ := given.listedIn_entries.readsSlot.exists_valid
      fun fault faulty => faultless fault (.slot faulty)
    refine ⟨⟨given.sectionId, given.classroomId, kept⟩, read_eq_valid_iff.mpr ⟨?_, ?_, parts⟩⟩
    · exact field_eq_valid_iff.mpr ⟨_, rfl, identifier_of_faultless fun cause misnamed =>
        faultless _ (.sectionId misnamed)⟩
    · exact field_eq_valid_iff.mpr ⟨_, rfl, identifier_of_faultless fun cause misnamed =>
        faultless _ (.classroomId misnamed)⟩
  start_eq a accepted :=
    given.listedIn_entries.readsSlot.start_eq _ (read_eq_valid_iff.mp accepted).2.2
  finish_eq a accepted :=
    given.listedIn_entries.readsSlot.finish_eq _ (read_eq_valid_iff.mp accepted).2.2
  written a accepted :=
    given.listedIn_entries.readsSlot.written _ (read_eq_valid_iff.mp accepted).2.2

end Assignment

/-- A time that is written as one is cut into two numerals and read as a minute of the day, and any
other text is refused as a malformed time. So every accepted slot, as one to be used or as that of
an assignment, and every accepted key is from one minute of the day to a later one. What a key, a
slot or an assignment is refused for are the faults that it has, and it is refused if it has any. -/
theorem written_times_name_minutes :
    (∀ time : String, Clock.isWritten time.toList = true →
      ∃ hour minute h m, Text.pieces ':' time.toList = [hour, minute] ∧
        Text.numeral? hour = some h ∧ Text.numeral? minute = some m ∧
        Clock.read time = .ok (60 * h + m) ∧ 60 * h + m ≤ 1439) ∧
    (∀ time : String, Clock.isWritten time.toList = false →
      Clock.read time = .error .malformedTime) ∧
    (∀ slot : TimeSlot, slot.Accepted → Clock.Spans slot.start slot.finish) ∧
    (∀ text key, SlotKey.normalize text = .ok key → ∃ (day : Day) (start finish : String),
      key = SlotKey.of day.name start finish ∧ Clock.Spans start finish) ∧
    (∀ text fault, SlotKey.normalize text = .error fault ↔ SlotKey.Refused text fault) ∧
    (∀ given : TimeSlot,
      (∀ fault, (TimeSlot.ofValue given.toValue).Reports fault ↔
        RefusedFor given.Misspelled given fault) ∧
      ((∃ slot, TimeSlot.ofValue given.toValue = .valid slot) ↔
        ∀ fault, ¬ RefusedFor given.Misspelled given fault) ∧
      ∀ fault, RefusedFor given.Misspelled given fault →
        ∀ boundary, fault.cause.kind boundary = "value_error") ∧
    ∀ given : Assignment,
      (∀ fault, (Assignment.ofValue given.toValue).Reports fault ↔
        RefusedFor given.Misspelled given.slot fault) ∧
      ((∃ a, Assignment.ofValue given.toValue = .valid a) ↔
        ∀ fault, ¬ RefusedFor given.Misspelled given.slot fault) := by
  refine ⟨fun _ => Clock.read_of_isWritten, fun _ unwritten =>
    Clock.read_eq_error_iff.mpr ⟨unwritten, rfl⟩, fun _ accepted => accepted.spans,
    fun _ _ => SlotKey.exists_spans_of_normalize, fun _ _ => SlotKey.normalize_eq_error_iff,
    fun given => ⟨?slotFaults, ?slot, fun _ refused => TimeSlot.kind_of_refusedFor refused⟩,
    fun given => ⟨?assignmentFaults, ?assignment⟩⟩
  case slotFaults => exact given.readsSlot_entries.reports_andThen_iff
  case slot => exact given.readsSlot_entries.exists_andThen_iff
  case assignmentFaults => exact given.readsSlot_entries.reports_andThen_iff
  case assignment => exact given.readsSlot_entries.exists_andThen_iff

/-- A time in mixed digits with a line feed after it, a key that ends at such a time, one that ends
before it starts, and an assignment at an hour with one digit. -/
theorem written_times_name_minutes_scripts :
    let time := "1\u0669:3\u0664\n"
    let key := "Monday_09:00_1\u0669:3\u0664"
    let lesson : Assignment := ⟨"algebra", "hall", ⟨"mon", "9:00", "10:00"⟩⟩
    Clock.isWritten time.toList = true ∧ (∃ h m, Clock.read time = .ok (60 * h + m)) ∧
      SlotKey.normalize "mon_09:00_1\u0669:3\u0664\n" = .ok key ∧
      (∃ (day : Day) (start finish : String), key = SlotKey.of day.name start finish ∧
        Clock.Spans start finish) ∧
      SlotKey.normalize "Monday_10:00_09:00" = .error .keyOutOfOrder ∧
      ¬ ∃ a, Assignment.ofValue lesson.toValue = .valid a := by
  intro time key lesson
  obtain ⟨reads, -, -, keys, refusals, -, assignments⟩ := written_times_name_minutes
  have written : Clock.isWritten time.toList = true := by decide +kernel
  obtain ⟨-, -, h, m, -, -, -, read, -⟩ := reads time written
  have normal : SlotKey.normalize "mon_09:00_1\u0669:3\u0664\n" = .ok key := by decide +kernel
  have cut : Text.pieces '_' (Text.trimmed "Monday_10:00_09:00".toList) =
      ["Monday".toList, "10:00".toList, "09:00".toList] := by decide +kernel
  have backward : Clock.Backward "10:00" "09:00" :=
    ⟨600, 540, by decide +kernel, by decide +kernel, by decide⟩
  have unwritten : Clock.isWritten "9:00".toList = false := by decide +kernel
  refine ⟨written, ⟨h, m, read⟩, normal, keys _ key normal,
    (refusals _ _).mpr (.order cut backward), ?_⟩
  intro accepted
  exact (assignments lesson).2.mp accepted _ (.text (.slot (.start unwritten)))

end Timetabling
