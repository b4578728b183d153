import Timetabling.Proofs.KeyForms

/-!
# Written times and their minutes

A written time is cut into two numerals and names a minute of the day, whatever scripts its digits
come from, so nothing can go wrong any more when it is read. Hence an accepted key is from one
minute to a later one, and a key is refused for what is wrong with it: its form, one of its times,
their order or its day.
-/

namespace Timetabling

namespace Text

variable {c tens units : Char} {t u : Nat}

theorem digit?_lt (found : digit? c = some u) : u < 10 := by
  obtain ⟨_, -, inRange⟩ := List.exists_of_findSome?_eq_some found
  split at inRange
  next bounds =>
    obtain rfl := Option.some.inj inRange
    omega
  next => cases inRange

theorem isBlank_of_digit? (found : digit? c = some u) : isBlank c = false :=
  isBlank_of_isDigit (by rw [isDigit, found, Option.isSome_some])

theorem numeral?_two (first : digit? tens = some t) (second : digit? units = some u) :
    numeral? [tens, units] = some (10 * t + u) := by
  simp [numeral?, trimmed, strip, isBlank_of_digit? first, isBlank_of_digit? second, digitsFrom?,
    first, second]

theorem numeral?_concat {cs : List Char} (blank : isBlank c = true) :
    numeral? (cs ++ [c]) = numeral? cs := by
  rw [numeral?, trimmed, strip_concat blank, numeral?, trimmed]

end Text

namespace Clock

theorem isHour_value {tens units : Char} (hour : isHour tens units = true) :
    ∃ t u, Text.digit? tens = some t ∧ Text.digit? units = some u ∧ 10 * t + u ≤ 23 := by
  simp only [isHour, isHourTens, isLateHourUnits, Bool.or_eq_true, Bool.and_eq_true,
    beq_iff_eq] at hour
  rcases hour with ⟨early, digit⟩ | ⟨rfl, late⟩
  · obtain ⟨u, found⟩ := Option.isSome_iff_exists.mp digit
    have small := Text.digit?_lt found
    rcases early with rfl | rfl
    · exact ⟨0, u, by decide, found, by omega⟩
    · exact ⟨1, u, by decide, found, by omega⟩
  · rcases late with ((rfl | rfl) | rfl) | rfl <;> exact ⟨2, _, by decide, rfl, by decide⟩

theorem isMinute_value {tens units : Char} (minute : isMinute tens units = true) :
    ∃ t u, Text.digit? tens = some t ∧ Text.digit? units = some u ∧ 10 * t + u ≤ 59 := by
  obtain ⟨⟨ascii, low⟩, digit⟩ := isDigit_of_isMinute minute
  obtain ⟨u, found⟩ := Option.isSome_iff_exists.mp digit
  have small := Text.digit?_lt found
  exact ⟨tens.toNat - 48, u, Text.digit?_of_asciiDigit ascii, found, by omega⟩

/-- The two numerals of a written time, on both sides of its only colon. -/
theorem exists_numerals {cs : List Char} (written : isWritten cs = true) :
    ∃ hour minute h m, Text.pieces ':' cs = [hour, minute] ∧ Text.numeral? hour = some h ∧
      Text.numeral? minute = some m ∧ h ≤ 23 ∧ m ≤ 59 := by
  obtain ⟨a, b, c, d, spelled, hour, minute⟩ := isWritten_iff.mp written
  obtain ⟨ta, ub, tens, units, inDay⟩ := isHour_value hour
  obtain ⟨tc, ud, tens', units', inHour⟩ := isMinute_value minute
  have apart {x : Char} {v : Nat} (found : Text.digit? x = some v) : ':' ≠ x := by
    rintro rfl
    have colon : Text.digit? ':' = none := by decide
    cases colon.symm.trans found
  have hourClear : ':' ∉ [a, b] := by simp [apart tens, apart units]
  have minuteClear : ':' ∉ [c, d] := by simp [apart tens', apart units']
  rcases spelled with rfl | rfl
  · refine ⟨[a, b], [c, d], _, _, ?_, Text.numeral?_two tens units, Text.numeral?_two tens' units',
      inDay, inHour⟩
    rw [show [a, b, ':', c, d] = [a, b] ++ ':' :: [c, d] from rfl,
      Text.pieces_append_cons hourClear, Text.pieces_of_notMem minuteClear]
  · have feedClear : ':' ∉ [c, d] ++ ['\n'] := by simpa using minuteClear
    refine ⟨[a, b], [c, d] ++ ['\n'], _, _, ?_, Text.numeral?_two tens units, ?_, inDay, inHour⟩
    · rw [show [a, b, ':', c, d, '\n'] = [a, b] ++ ':' :: ([c, d] ++ ['\n']) from rfl,
        Text.pieces_append_cons hourClear, Text.pieces_of_notMem feedClear]
    · rw [Text.numeral?_concat (by decide)]
      exact Text.numeral?_two tens' units'

theorem read_of_isWritten {time : String} (written : isWritten time.toList = true) :
    ∃ hour minute h m, Text.pieces ':' time.toList = [hour, minute] ∧
      Text.numeral? hour = some h ∧ Text.numeral? minute = some m ∧
      read time = .ok (60 * h + m) ∧ 60 * h + m ≤ 1439 := by
  obtain ⟨hour, minute, h, m, cut, hourRead, minuteRead, inDay, inHour⟩ := exists_numerals written
  refine ⟨hour, minute, h, m, cut, hourRead, minuteRead, ?_, by omega⟩
  rw [read_eq_ok_iff, minutes?, if_pos written, ofParts?, cut]
  simp [hourRead, minuteRead]

theorem read_eq_error_iff {time : String} {fault : CalendarFault} :
    read time = .error fault ↔ isWritten time.toList = false ∧ fault = .malformedTime := by
  cases written : isWritten time.toList with
  | true =>
    obtain ⟨_, _, _, _, -, -, -, accepted, -⟩ := read_of_isWritten written
    simp [accepted]
  | false => simp [read, minutes?, written, eq_comm]

theorem read_le {time : String} {m : Nat} (accepted : read time = .ok m) : m ≤ 1439 := by
  have written := isWritten_of_minutes? (read_eq_ok_iff.mp accepted)
  obtain ⟨_, _, _, _, -, -, -, accepted', bounded⟩ := read_of_isWritten written
  rw [accepted, Except.ok.injEq] at accepted'
  omega

theorem isWritten_iff_read {time : String} :
    isWritten time.toList = true ↔ ∃ m, read time = .ok m := by
  constructor
  · intro written
    obtain ⟨_, _, _, _, -, -, -, accepted, -⟩ := read_of_isWritten written
    exact ⟨_, accepted⟩
  · rintro ⟨m, accepted⟩
    exact isWritten_of_minutes? (read_eq_ok_iff.mp accepted)

/-- Whether two times are those of a span within one day: both are read, and the second one is
later. -/
def Spans (start finish : String) : Prop :=
  ∃ s e, read start = .ok s ∧ read finish = .ok e ∧ s < e ∧ e ≤ 1439

def Backward (start finish : String) : Prop :=
  ∃ s e, read start = .ok s ∧ read finish = .ok e ∧ e ≤ s

theorem isAfter_iff_spans {start finish : String} :
    isAfter finish start = true ↔ Spans start finish := by
  simp only [isAfter_iff, ← read_eq_ok_iff, Spans]
  constructor
  · rintro ⟨e, finishes, s, starts, later⟩
    exact ⟨s, e, starts, finishes, later, read_le finishes⟩
  · rintro ⟨s, e, starts, finishes, later, -⟩
    exact ⟨e, finishes, s, starts, later⟩

theorem isAfter_eq_false_iff {start finish : String} (startWritten : isWritten start.toList = true)
    (finishWritten : isWritten finish.toList = true) :
    isAfter finish start = false ↔ Backward start finish := by
  obtain ⟨s, starts⟩ := isWritten_iff_read.mp startWritten
  obtain ⟨e, finishes⟩ := isWritten_iff_read.mp finishWritten
  simp [isAfter, Backward, starts, finishes, read_eq_ok_iff.mp starts, read_eq_ok_iff.mp finishes]

end Clock

theorem bind_eq_error_iff {ε α β : Type} {x : Except ε α} {f : α → Except ε β} {fault : ε} :
    (x >>= f) = .error fault ↔ x = .error fault ∨ ∃ a, x = .ok a ∧ f a = .error fault := by
  cases x <;> simp [bind, Except.bind]

theorem Day.read_eq_error_iff {text : String} {fault : CalendarFault} :
    Day.read text = .error fault ↔ Day.ofText? text = none ∧ fault = .unknownDay := by
  unfold Day.read
  cases Day.ofText? text <;> simp [eq_comm]

namespace SlotKey

/-- The faults of a key: it has other than three parts, a time that is not written as one, an end
that is not after its start, or no day. The times are looked at before the day. -/
inductive Refused (text : String) : CalendarFault → Prop
  | parts (cut : (Text.pieces '_' (Text.trimmed text.toList)).length ≠ 3) :
      Refused text .malformedKey
  | time {word start finish : List Char}
      (cut : Text.pieces '_' (Text.trimmed text.toList) = [word, start, finish])
      (unwritten : Clock.isWritten start = false ∨ Clock.isWritten finish = false) :
      Refused text .malformedTime
  | order {word start finish : List Char}
      (cut : Text.pieces '_' (Text.trimmed text.toList) = [word, start, finish])
      (backward : Clock.Backward (String.ofList start) (String.ofList finish)) :
      Refused text .keyOutOfOrder
  | day {word start finish : List Char}
      (cut : Text.pieces '_' (Text.trimmed text.toList) = [word, start, finish])
      (proper : Clock.Spans (String.ofList start) (String.ofList finish))
      (unnamed : Day.ofText? (String.ofList word) = none) : Refused text .unknownDay

theorem normalize_of_times {text : String} {word start finish : List Char} {s e : Nat}
    (cut : Text.pieces '_' (Text.trimmed text.toList) = [word, start, finish])
    (starts : Clock.read (String.ofList start) = .ok s)
    (finishes : Clock.read (String.ofList finish) = .ok e) :
    normalize text = if e ≤ s then .error .keyOutOfOrder else
      (Day.read (String.ofList word)).map fun day =>
        of day.name (String.ofList start) (String.ofList finish) := by
  unfold normalize
  rw [cut]
  simp only [starts, finishes, bind, Except.bind]
  by_cases early : e ≤ s
  · simp only [if_pos early]
    rfl
  · simp only [if_neg early]
    cases Day.read (String.ofList word) <;> rfl

theorem refused_of_normalize {text : String} {fault : CalendarFault}
    (refused : normalize text = .error fault) : Refused text fault := by
  unfold normalize at refused
  split at refused
  next word start finish cut =>
    rcases bind_eq_error_iff.mp refused with unread | ⟨e, finishes, refused⟩
    · obtain ⟨unwritten, rfl⟩ := Clock.read_eq_error_iff.mp unread
      rw [String.toList_ofList] at unwritten
      exact .time cut (.inr unwritten)
    rcases bind_eq_error_iff.mp refused with unread | ⟨s, starts, refused⟩
    · obtain ⟨unwritten, rfl⟩ := Clock.read_eq_error_iff.mp unread
      rw [String.toList_ofList] at unwritten
      exact .time cut (.inl unwritten)
    split at refused
    next early =>
      cases refused
      exact .order cut ⟨s, e, starts, finishes, early⟩
    next later =>
      have proper : Clock.Spans (String.ofList start) (String.ofList finish) :=
        ⟨s, e, starts, finishes, Nat.not_le.mp later, Clock.read_le finishes⟩
      rcases bind_eq_error_iff.mp refused with unread | ⟨day, -, accepted⟩
      · obtain ⟨unnamed, rfl⟩ := Day.read_eq_error_iff.mp unread
        exact .day cut proper unnamed
      · cases accepted
  next other =>
    cases refused
    apply Refused.parts
    intro three
    obtain ⟨word, start, finish, cut⟩ := List.length_eq_three.mp three
    exact other word start finish cut

theorem Refused.normalize_eq {text : String} {fault : CalendarFault}
    (refused : Refused text fault) : normalize text = .error fault := by
  cases refused with
  | parts cut =>
    unfold normalize
    split
    next parted => exact absurd (congrArg List.length parted) cut
    next => rfl
  | @time word start finish cut unwritten =>
    have unread (cs : List Char) (unwritten : Clock.isWritten cs = false) :
        Clock.read (String.ofList cs) = .error .malformedTime :=
      Clock.read_eq_error_iff.mpr ⟨by rwa [String.toList_ofList], rfl⟩
    unfold normalize
    rw [cut]
    cases finishes : Clock.isWritten finish with
    | false => exact bind_eq_error_iff.mpr (.inl (unread finish finishes))
    | true =>
      have starts : Clock.isWritten start = false := by simpa [finishes] using unwritten
      rw [← String.toList_ofList (l := finish), Clock.isWritten_iff_read] at finishes
      obtain ⟨e, finishes⟩ := finishes
      refine bind_eq_error_iff.mpr (.inr ⟨e, finishes, ?_⟩)
      exact bind_eq_error_iff.mpr (.inl (unread start starts))
  | order cut backward =>
    obtain ⟨s, e, starts, finishes, early⟩ := backward
    rw [normalize_of_times cut starts finishes, if_pos early]
  | day cut proper unnamed =>
    obtain ⟨s, e, starts, finishes, later, -⟩ := proper
    have unread := Day.read_eq_error_iff.mpr ⟨unnamed, rfl⟩
    rw [normalize_of_times cut starts finishes, if_neg (Nat.not_le.mpr later), unread]
    rfl

theorem normalize_eq_error_iff {text : String} {fault : CalendarFault} :
    normalize text = .error fault ↔ Refused text fault :=
  ⟨refused_of_normalize, Refused.normalize_eq⟩

theorem exists_spans_of_normalize {text key : String} (normal : normalize text = .ok key) :
    ∃ (day : Day) (start finish : String), key = of day.name start finish ∧
      Clock.Spans start finish := by
  obtain ⟨day, start, finish, kept⟩ := exists_normal_of_normalize normal
  exact ⟨day, start, finish, kept.spelled, Clock.isAfter_iff_spans.mp kept.proper⟩

end SlotKey

end Timetabling
