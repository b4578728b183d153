import Timetabling.Proofs.ExactSearch
import Timetabling.Proofs.Verdict

/-!
# Spellings of times

Slots are compared by the texts of their times, and a minute of the day has several of those: a
digit may come from another script, and a line feed may follow. In ASCII digits and a colon a minute
has one spelling only, so slots that are spelled in this way are the same if they name one time.
-/

namespace Timetabling

namespace Text

theorem asciiDigit_iff {c : Char} : c.isDigit = true ↔ 48 ≤ c.toNat ∧ c.toNat ≤ 57 := by
  simp only [Char.isDigit, Bool.and_eq_true, decide_eq_true_eq, ge_iff_le, UInt32.le_iff_toNat_le]
  rfl

theorem digit?_of_asciiDigit {c : Char} (digit : c.isDigit = true) :
    digit? c = some (c.toNat - 48) := by
  obtain ⟨least, greatest⟩ := asciiDigit_iff.mp digit
  unfold digit? zeros
  rw [List.findSome?_cons, if_pos (by omega)]

theorem isBlank_of_asciiDigit {c : Char} (digit : c.isDigit = true) : isBlank c = false := by
  obtain ⟨least, greatest⟩ := asciiDigit_iff.mp digit
  simp only [isBlank, isSpacing, Bool.or_eq_false_iff, Bool.and_eq_false_iff,
    decide_eq_false_iff_not, beq_eq_false_iff_ne]
  omega

theorem numeral?_pair {tens units : Char} (first : tens.isDigit = true)
    (second : units.isDigit = true) :
    numeral? [tens, units] = some (10 * (tens.toNat - 48) + (units.toNat - 48)) := by
  simp [numeral?, trimmed, strip, isBlank_of_asciiDigit first, isBlank_of_asciiDigit second,
    digitsFrom?, digit?_of_asciiDigit first, digit?_of_asciiDigit second]

end Text

namespace Clock

/-- Whether a time is spelled with ASCII digits and colons only. -/
def IsPlain (time : String) : Prop :=
  ∀ c ∈ time.toList, c.isDigit = true ∨ c = ':'

instance (time : String) : Decidable (IsPlain time) :=
  List.decidableBAll (fun c : Char => c.isDigit = true ∨ c = ':') time.toList

theorem isWritten_iff {cs : List Char} :
    isWritten cs = true ↔ ∃ a b c d, (cs = [a, b, ':', c, d] ∨ cs = [a, b, ':', c, d, '\n']) ∧
      isHour a b = true ∧ isMinute c d = true := by
  constructor
  · intro written
    unfold isWritten at written
    split at written
    next a b c d => exact ⟨a, b, c, d, .inl rfl, Bool.and_eq_true_iff.mp written⟩
    next a b c d => exact ⟨a, b, c, d, .inr rfl, Bool.and_eq_true_iff.mp written⟩
    next => cases written
  · rintro ⟨a, b, c, d, rfl | rfl, hour, minute⟩
    · exact Bool.and_eq_true_iff.mpr ⟨hour, minute⟩
    · exact Bool.and_eq_true_iff.mpr ⟨hour, minute⟩

theorem isDigit_of_isHour {tens units : Char} (hour : isHour tens units = true) :
    Text.isDigit tens = true ∧ Text.isDigit units = true := by
  simp only [isHour, isHourTens, isLateHourUnits, Bool.or_eq_true, Bool.and_eq_true,
    beq_iff_eq] at hour
  rcases hour with ⟨rfl | rfl, digit⟩ | ⟨rfl, ((rfl | rfl) | rfl) | rfl⟩
  · exact ⟨by decide, digit⟩
  · exact ⟨by decide, digit⟩
  all_goals decide

theorem isDigit_of_isMinute {tens units : Char} (minute : isMinute tens units = true) :
    (tens.isDigit = true ∧ tens.toNat ≤ 53) ∧ Text.isDigit units = true := by
  simp only [isMinute, isMinuteTens, Bool.or_eq_true, Bool.and_eq_true, beq_iff_eq] at minute
  obtain ⟨((((rfl | rfl) | rfl) | rfl) | rfl) | rfl, digit⟩ := minute <;>
    exact ⟨by decide, digit⟩

theorem exists_digits {time : String} (written : isWritten time.toList = true)
    (plain : IsPlain time) :
    ∃ a b c d : Char, time.toList = [a, b, ':', c, d] ∧ a.isDigit = true ∧ b.isDigit = true ∧
      (c.isDigit = true ∧ c.toNat ≤ 53) ∧ d.isDigit = true := by
  obtain ⟨a, b, c, d, spelled, hour, minute⟩ := isWritten_iff.mp written
  obtain ⟨ha, hb⟩ := isDigit_of_isHour hour
  obtain ⟨hc, hd⟩ := isDigit_of_isMinute minute
  have ascii {x : Char} (listed : x ∈ time.toList) (digit : Text.isDigit x = true) :
      x.isDigit = true := by
    apply (plain x listed).resolve_right
    rintro rfl
    exact absurd digit (by decide)
  rcases spelled with spelled | spelled
  · refine ⟨a, b, c, d, spelled, ascii ?_ ha, ascii ?_ hb, hc, ascii ?_ hd⟩ <;> simp [spelled]
  · have feed : '\n' ∈ time.toList := by simp [spelled]
    exact absurd (plain _ feed) (by decide)

theorem minutes?_of_digits {time : String} {a b c d : Char}
    (written : isWritten time.toList = true) (spelled : time.toList = [a, b, ':', c, d])
    (ha : a.isDigit = true) (hb : b.isDigit = true) (hc : c.isDigit = true)
    (hd : d.isDigit = true) :
    minutes? time = some (60 * (10 * (a.toNat - 48) + (b.toNat - 48)) +
      (10 * (c.toNat - 48) + (d.toNat - 48))) := by
  have apart {x : Char} (digit : x.isDigit = true) : x ≠ ':' := by
    rintro rfl
    cases digit
  have cut : Text.pieces ':' [a, b, ':', c, d] = [[a, b], [c, d]] := by
    simp [Text.pieces, apart ha, apart hb, apart hc, apart hd]
  rw [minutes?, if_pos written, spelled, ofParts?, cut]
  simp [Text.numeral?_pair ha hb, Text.numeral?_pair hc hd]

/-- A minute of the day has one plain spelling. -/
theorem IsPlain.eq_of_minutes? {time other : String} (plain : IsPlain time)
    (otherPlain : IsPlain other) (written : isWritten time.toList = true)
    (otherWritten : isWritten other.toList = true) (same : minutes? time = minutes? other) :
    time = other := by
  obtain ⟨a, b, c, d, spelled, ha, hb, ⟨hc, early⟩, hd⟩ := exists_digits written plain
  obtain ⟨a', b', c', d', spelled', ha', hb', ⟨hc', early'⟩, hd'⟩ :=
    exists_digits otherWritten otherPlain
  rw [minutes?_of_digits written spelled ha hb hc hd,
    minutes?_of_digits otherWritten spelled' ha' hb' hc' hd', Option.some.injEq] at same
  simp only [Text.asciiDigit_iff] at ha hb hc hd ha' hb' hc' hd'
  have sameMinute : 10 * (c.toNat - 48) + (d.toNat - 48) =
      10 * (c'.toNat - 48) + (d'.toNat - 48) := by omega
  have sameHour : 10 * (a.toNat - 48) + (b.toNat - 48) =
      10 * (a'.toNat - 48) + (b'.toNat - 48) := by omega
  apply String.toList_inj.mp
  rw [spelled, spelled', Char.toNat_inj.mp (show a.toNat = a'.toNat by omega),
    Char.toNat_inj.mp (show b.toNat = b'.toNat by omega),
    Char.toNat_inj.mp (show c.toNat = c'.toNat by omega),
    Char.toNat_inj.mp (show d.toNat = d'.toNat by omega)]

theorem underscore_notMem {time : String} (written : isWritten time.toList = true) :
    '_' ∉ time.toList := by
  obtain ⟨a, b, c, d, spelled, hour, minute⟩ := isWritten_iff.mp written
  have different {x : Char} (digit : Text.isDigit x = true) : '_' ≠ x := by
    rintro rfl
    exact absurd digit (by decide)
  have ha := different (isDigit_of_isHour hour).1
  have hb := different (isDigit_of_isHour hour).2
  have hc : '_' ≠ c := by
    rintro rfl
    exact absurd (isDigit_of_isMinute minute).1.1 (by decide)
  have hd := different (isDigit_of_isMinute minute).2
  rcases spelled with spelled | spelled <;> simp [spelled, ha, hb, hc, hd]

end Clock

theorem Day.underscore_notMem (day : Day) : '_' ∉ day.name.toList := by
  cases day <;> decide

theorem Text.append_cons_inj {α : Type} {separator : α} {first first' rest rest' : List α}
    (clear : separator ∉ first) (clear' : separator ∉ first') :
    first ++ separator :: rest = first' ++ separator :: rest' ↔ first = first' ∧ rest = rest' := by
  induction first generalizing first' with
  | nil =>
    cases first' with
    | nil => simp
    | cons c cs =>
      rw [List.mem_cons, not_or] at clear'
      simp [clear'.1]
  | cons c cs ih =>
    rw [List.mem_cons, not_or] at clear
    cases first' with
    | nil => simp [Ne.symm clear.1]
    | cons c' cs' =>
      rw [List.mem_cons, not_or] at clear'
      simp only [List.cons_append, List.cons.injEq, and_assoc, ih clear.2 clear'.2]

namespace TimeSlot

variable {s t : TimeSlot}

/-- Whether two slots are on one day from the same minute to the same minute. -/
structure SameTime (s t : TimeSlot) : Prop where
  day : s.day = t.day
  start : Clock.minutes? s.start = Clock.minutes? t.start
  finish : Clock.minutes? s.finish = Clock.minutes? t.finish

def IsPlain (slot : TimeSlot) : Prop :=
  Clock.IsPlain slot.start ∧ Clock.IsPlain slot.finish

instance (slot : TimeSlot) : Decidable slot.IsPlain :=
  inferInstanceAs (Decidable (_ ∧ _))

/-- Whether a slot comes from a request, as one to be used or as that of an assignment. -/
def Accepted (slot : TimeSlot) : Prop :=
  (∃ v, ofValue v = .valid slot) ∨ ∃ v a, Assignment.ofValue v = .valid a ∧ a.slot = slot

theorem Accepted.canonical (accepted : s.Accepted) : s.Canonical := by
  rcases accepted with ⟨v, read⟩ | ⟨v, a, read, rfl⟩
  · exact canonical_of_ofValue read
  · obtain ⟨entries, -, -, -, parts, proper⟩ := Assignment.ofValue_eq_valid_iff.mp read
    exact canonical_of_ofEntries parts proper

theorem Canonical.key_eq_iff (first : s.Canonical) (second : t.Canonical) :
    s.key = t.key ↔ s = t := by
  obtain ⟨day, named⟩ := first.day
  obtain ⟨day', named'⟩ := second.day
  refine ⟨fun sameKey => ?_, congrArg key⟩
  have texts := congrArg String.toList sameKey
  simp only [key, SlotKey.of, String.toList_append, String.reduceToList, List.append_assoc,
    List.cons_append, List.nil_append] at texts
  rw [named, named', Text.append_cons_inj day.underscore_notMem day'.underscore_notMem,
    Text.append_cons_inj (Clock.underscore_notMem first.start)
      (Clock.underscore_notMem second.start)] at texts
  obtain ⟨sameDay, sameStart, sameFinish⟩ := texts
  rw [← named, ← named', String.toList_inj] at sameDay
  cases s
  cases t
  exact (mk.injEq ..).mpr
    ⟨sameDay, String.toList_inj.mp sameStart, String.toList_inj.mp sameFinish⟩

theorem SameTime.eq_of_isPlain (same : s.SameTime t) (first : s.Canonical) (second : t.Canonical)
    (plain : s.IsPlain) (plain' : t.IsPlain) : s = t := by
  have start := plain.1.eq_of_minutes? plain'.1 first.start second.start same.start
  have finish := plain.2.eq_of_minutes? plain'.2 first.finish second.finish same.finish
  cases s
  cases t
  exact (mk.injEq ..).mpr ⟨same.day, start, finish⟩

theorem key_eq_iff_sameTime (first : s.Canonical) (second : t.Canonical) (plain : s.IsPlain)
    (plain' : t.IsPlain) : s.key = t.key ↔ s.SameTime t := by
  rw [first.key_eq_iff second]
  constructor
  · rintro rfl
    exact ⟨rfl, rfl, rfl⟩
  · intro same
    exact same.eq_of_isPlain first second plain plain'

end TimeSlot

def Lesson.Compete (a b : Lesson) : Prop :=
  a.session.instructor = b.session.instructor ∨
    a.placement.classroom.id = b.placement.classroom.id ∨
    ∃ student ∈ a.session.students, student ∈ b.session.students

section Detection

variable {l m : Lesson} (clash : l.Clash m)

include clash

theorem Lesson.Clash.fits_eq_false {r : Reservations} {lessons : List Lesson}
    (books : r.Books lessons) (placed : l ∈ lessons) : fits m.session m.placement r = false := by
  apply Bool.eq_false_iff.mpr
  intro fitting
  exact (books.fits_iff.mp fitting).1 l placed clash.symm

theorem Lesson.Clash.violations_ne_nil {p : Problem} {a b : Assignment}
    {assignments : List Assignment} (once : ∀ id, (p.studentsOf id).Nodup)
    (announced : p.lesson? a = some l) (announced' : p.lesson? b = some m)
    (listed : [a, b].Sublist assignments) : p.violations assignments ≠ [] := by
  intro clean
  have apart := ((Problem.violations_eq_nil_iff once).mp clean).2.sublist listed
  obtain ⟨separate, -⟩ := List.pairwise_cons.mp apart
  exact (separate b (List.mem_singleton_self b) l announced m announced').2 clash

end Detection

namespace TimeSlot

/-- The key of an accepted slot is its spelling. Among slots that are spelled plainly a time has one
key, so that a slot given twice is kept once and what is booked twice at one time is found, by the
reservations of a search and by the audit. -/
theorem one_key_of_plain (slots : List TimeSlot) (accepted : ∀ slot ∈ slots, slot.Accepted) :
    (∀ s ∈ slots, ∀ t ∈ slots, s.key = t.key ↔ s = t) ∧
    ((∀ slot ∈ slots, slot.IsPlain) →
      (∀ s ∈ slots, ∀ t ∈ slots, s.key = t.key ↔ s.SameTime t) ∧
      (∀ sections classrooms preferences enrollments,
        (Problem.build sections classrooms slots preferences enrollments).slots.Pairwise
          fun s t => ¬ s.SameTime t) ∧
      ∀ l m : Lesson, l.placement.slot ∈ slots → m.placement.slot ∈ slots →
        l.placement.slot.SameTime m.placement.slot → l.Compete m →
        (∀ (r : Reservations) (lessons : List Lesson), r.Books lessons → l ∈ lessons →
          fits m.session m.placement r = false) ∧
        ∀ (p : Problem) a b assignments, (∀ id, (p.studentsOf id).Nodup) →
          p.lesson? a = some l → p.lesson? b = some m → [a, b].Sublist assignments →
          p.violations assignments ≠ []) := by
  have canonical (slot) (listed : slot ∈ slots) := (accepted slot listed).canonical
  refine ⟨fun s first t second => (canonical s first).key_eq_iff (canonical t second), ?_⟩
  intro plain
  have oneKey (s) (first : s ∈ slots) (t) (second : t ∈ slots) :
      s.key = t.key ↔ s.SameTime t :=
    key_eq_iff_sameTime (canonical s first) (canonical t second) (plain s first) (plain t second)
  refine ⟨oneKey, ?collapsed, ?detected⟩
  case collapsed =>
    intro sections classrooms preferences enrollments
    have once : slots.eraseDups.Nodup := nodup_eraseDups slots
    apply List.Pairwise.imp_of_mem _ once
    intro s t first second different same
    rw [List.mem_eraseDups] at first second
    exact different (same.eq_of_isPlain (canonical s first) (canonical t second) (plain s first)
      (plain t second))
  case detected =>
    intro l m first second same compete
    have clash : l.Clash m := ⟨(oneKey _ first _ second).mpr same, compete⟩
    exact ⟨fun r lessons books placed => clash.fits_eq_false books placed,
      fun p a b assignments once announced announced' listed =>
        clash.violations_ne_nil once announced announced' listed⟩

def mornings : List TimeSlot :=
  [⟨"Monday", "09:00", "10:00"⟩, ⟨"Monday", "10:00", "11:00"⟩, ⟨"Monday", "09:00", "10:00"⟩]

theorem one_key_of_plain_mornings :
    (∀ slot ∈ mornings, slot.Accepted) ∧ (∀ slot ∈ mornings, slot.IsPlain) ∧
      (∀ s ∈ mornings, ∀ t ∈ mornings, s.key = t.key ↔ s.SameTime t) ∧
      (Problem.build [] [] mornings [] []).slots.Pairwise fun s t => ¬ s.SameTime t := by
  have accepted : ∀ slot ∈ mornings, slot.Accepted := by
    have read : ∀ slot ∈ mornings, ofValue slot.toValue = .valid slot := by decide +kernel
    exact fun slot listed => .inl ⟨_, read slot listed⟩
  have plain : ∀ slot ∈ mornings, slot.IsPlain := by decide +kernel
  obtain ⟨oneKey, collapsed, -⟩ := (one_key_of_plain mornings accepted).2 plain
  exact ⟨accepted, plain, oneKey, collapsed [] [] [] []⟩

/-- Three spellings of one hour: with an Arabic-Indic nine and with a line feed after it. -/
def spellings : List TimeSlot :=
  [⟨"Monday", "09:00", "10:00"⟩, ⟨"Monday", "0\u0669:00", "10:00"⟩,
    ⟨"Monday", "09:00\n", "10:00"⟩]

def overworked : Problem :=
  .build [⟨"algebra", "ada", 20, false⟩, ⟨"calculus", "ada", 20, false⟩,
    ⟨"logic", "ada", 20, false⟩] [⟨"hall", 30, []⟩] spellings [] []

/-- Accepted slots of one time have three keys, none of them is dropped, and the instructor is sent
to the classroom three times at that time: no search and no audit objects. -/
theorem keys_of_spellings :
    (∀ slot ∈ spellings, slot.Accepted) ∧ (∀ s ∈ spellings, ∀ t ∈ spellings, s.SameTime t) ∧
      (spellings.map key).Nodup ∧ overworked.slots = spellings ∧
      ∃ t, (ExactSolver.fresh overworked ⟨250000, .never⟩).solve.1 = some t ∧
        t.assignments.map Assignment.slot = spellings ∧
        overworked.violations t.assignments = [] := by
  have read : ∀ slot ∈ spellings, ofValue slot.toValue = .valid slot := by decide +kernel
  have same : ∀ s ∈ spellings, ∀ t ∈ spellings, s.day = t.day ∧
      Clock.minutes? s.start = Clock.minutes? t.start ∧
      Clock.minutes? s.finish = Clock.minutes? t.finish := by decide +kernel
  refine ⟨fun slot listed => .inl ⟨_, read slot listed⟩, ?_, by decide +kernel, by decide +kernel,
    ?_⟩
  · intro s first t second
    obtain ⟨day, start, finish⟩ := same s first t second
    exact ⟨day, start, finish⟩
  · have found : (ExactSolver.fresh overworked ⟨250000, .never⟩).solve.1.map (fun t =>
        (t.assignments.map Assignment.slot, overworked.violations t.assignments)) =
        some (spellings, []) := by decide +kernel
    obtain ⟨t, solved, both⟩ := Option.map_eq_some_iff.mp found
    obtain ⟨slots, clean⟩ := Prod.mk.inj both
    exact ⟨t, solved, slots, clean⟩

end TimeSlot

end Timetabling
