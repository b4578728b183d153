import Timetabling.Proofs.Posing
import Timetabling.Proofs.Spelling

/-!
# Normal slot keys

A slot key given by hand is replaced by its normal form: the full name of a day and two times, with
no blank at either end. A line feed after the start is kept, since it is not at an end. A normal key
is its own normal form.
-/

namespace Timetabling

namespace Text

variable {α : Type}

section Pieces

variable [DecidableEq α] {separator : α}

theorem pieces_of_notMem {cs : List α} (clear : separator ∉ cs) : pieces separator cs = [cs] := by
  induction cs with
  | nil => rfl
  | cons c rest ih =>
    rw [List.mem_cons, not_or] at clear
    rw [pieces, if_neg (Ne.symm clear.1), ih clear.2]

theorem pieces_append_cons {first rest : List α} (clear : separator ∉ first) :
    pieces separator (first ++ separator :: rest) = first :: pieces separator rest := by
  induction first with
  | nil => rw [List.nil_append, pieces, if_pos rfl]
  | cons c cs ih =>
    rw [List.mem_cons, not_or] at clear
    rw [List.cons_append, pieces, if_neg (Ne.symm clear.1), ih clear.2]

end Pieces

variable {p : α → Bool} {cs : List α}

theorem dropWhile_eq_self (first : ∀ c ∈ cs.head?, p c = false) : cs.dropWhile p = cs := by
  cases cs with
  | nil => rfl
  | cons c rest =>
    have kept : ¬ p c = true := Bool.eq_false_iff.mp (first c rfl)
    rw [List.dropWhile_cons_of_neg kept]

theorem strip_eq_self (first : ∀ c ∈ cs.head?, p c = false)
    (last : ∀ c ∈ cs.getLast?, p c = false) : strip p cs = cs := by
  rw [strip, dropWhile_eq_self first, dropWhile_eq_self, List.reverse_reverse]
  rw [List.head?_reverse]
  exact last

theorem getLast?_strip {c : α} (last : c ∈ (strip p cs).getLast?) : p c = false := by
  rw [strip, List.getLast?_reverse] at last
  have stopped := List.head?_dropWhile_not p (cs.dropWhile p).reverse
  rw [last] at stopped
  simpa using stopped

end Text

namespace Clock

theorem isAfter_iff {start finish : String} :
    isAfter finish start = true ↔
      ∃ e, minutes? finish = some e ∧ ∃ s, minutes? start = some s ∧ s < e := by
  unfold isAfter
  cases minutes? finish <;> cases minutes? start <;> simp

theorem isWritten_of_minutes? {time : String} {m : Nat} (named : minutes? time = some m) :
    isWritten time.toList = true := by
  unfold minutes? at named
  split at named
  next written => exact written
  next => cases named

theorem read_eq_ok_iff {time : String} {m : Nat} : read time = .ok m ↔ minutes? time = some m := by
  unfold read
  cases minutes? time <;> simp

theorem ne_nil_of_isWritten {cs : List Char} (written : isWritten cs = true) : cs ≠ [] := by
  rintro rfl
  cases written

end Clock

theorem Day.read_eq_ok_iff {text : String} {day : Day} :
    Day.read text = .ok day ↔ Day.ofText? text = some day := by
  unfold Day.read
  cases Day.ofText? text <;> simp

theorem Day.exists_first (day : Day) :
    ∃ c rest, day.name.toList = c :: rest ∧ Text.isBlank c = false := by
  cases day <;> exact ⟨_, _, rfl, by decide⟩

namespace SlotKey

theorem normalize_eq_ok_iff {text key : String} :
    normalize text = .ok key ↔ ∃ (word start finish : List Char) (day : Day),
      Text.pieces '_' (Text.trimmed text.toList) = [word, start, finish] ∧
        Clock.isAfter (String.ofList finish) (String.ofList start) = true ∧
        Day.ofText? (String.ofList word) = some day ∧
        of day.name (String.ofList start) (String.ofList finish) = key := by
  unfold normalize
  split
  next word start finish cut =>
    simp only [bind_eq_ok_iff, Clock.read_eq_ok_iff, Clock.isAfter_iff, cut]
    constructor
    · rintro ⟨e, finishes, s, starts, checked⟩
      split at checked
      next => cases checked
      next ordered =>
        obtain ⟨day, named, same⟩ := bind_eq_ok_iff.mp checked
        exact ⟨word, start, finish, day, rfl, ⟨e, finishes, s, starts, Nat.not_le.mp ordered⟩,
          Day.read_eq_ok_iff.mp named, Except.ok.inj same⟩
    · rintro ⟨_, _, _, day, same, ⟨e, finishes, s, starts, ordered⟩, named, rfl⟩
      cases same
      refine ⟨e, finishes, s, starts, ?_⟩
      rw [if_neg (Nat.not_le.mpr ordered)]
      exact bind_eq_ok_iff.mpr ⟨day, Day.read_eq_ok_iff.mpr named, rfl⟩
  next other =>
    constructor
    · intro accepted
      cases accepted
    · rintro ⟨word, start, finish, day, cut, -⟩
      exact absurd cut (other word start finish)

/-- A key as it is kept: that of a day and two times, the second one after the first and with no
blank after it. -/
structure Normal (key : String) (day : Day) (start finish : String) : Prop where
  spelled : key = of day.name start finish
  proper : Clock.isAfter finish start = true
  closed : ∀ c ∈ finish.toList.getLast?, Text.isBlank c = false

theorem toList_of (day start finish : String) :
    (of day start finish).toList =
      day.toList ++ '_' :: (start.toList ++ '_' :: finish.toList) := by
  simp [of]

theorem getLast?_joined {word start finish : List Char} (nonempty : finish ≠ []) :
    (word ++ '_' :: (start ++ '_' :: finish)).getLast? = finish.getLast? := by
  simp [List.getLast?_append, List.getLast?_cons, List.getLast?_eq_some_getLast nonempty]

theorem exists_normal_of_normalize {text key : String} (normal : normalize text = .ok key) :
    ∃ day start finish, Normal key day start finish := by
  obtain ⟨word, start, finish, day, cut, proper, -, rfl⟩ := normalize_eq_ok_iff.mp normal
  refine ⟨day, _, _, rfl, proper, ?_⟩
  intro c last
  -- The end of the key is the end of the text without its blanks.
  obtain ⟨e, named, -⟩ := Clock.isAfter_iff.mp proper
  have written := Clock.isWritten_of_minutes? named
  rw [String.toList_ofList] at written last
  have nonempty := Clock.ne_nil_of_isWritten written
  have joined := Text.joined_pieces '_' (Text.trimmed text.toList)
  rw [cut] at joined
  apply Text.getLast?_strip
  change c ∈ (Text.trimmed text.toList).getLast?
  rw [← joined]
  exact (getLast?_joined nonempty).symm ▸ last

variable {key start finish : String} {day : Day}

theorem Normal.pieces_eq (normal : Normal key day start finish) :
    Text.pieces '_' key.toList = [day.name.toList, start.toList, finish.toList] := by
  obtain ⟨e, named, s, named', -⟩ := Clock.isAfter_iff.mp normal.proper
  have startClear := Clock.underscore_notMem (Clock.isWritten_of_minutes? named')
  have finishClear := Clock.underscore_notMem (Clock.isWritten_of_minutes? named)
  rw [normal.spelled, toList_of, Text.pieces_append_cons day.underscore_notMem,
    Text.pieces_append_cons startClear, Text.pieces_of_notMem finishClear]

theorem Normal.trimmed_eq (normal : Normal key day start finish) :
    Text.trimmed key.toList = key.toList := by
  obtain ⟨e, named, -⟩ := Clock.isAfter_iff.mp normal.proper
  have nonempty := Clock.ne_nil_of_isWritten (Clock.isWritten_of_minutes? named)
  rw [normal.spelled, toList_of]
  apply Text.strip_eq_self
  · obtain ⟨c, rest, spelled, visible⟩ := day.exists_first
    rw [spelled]
    intro first here
    obtain rfl := Option.some.inj here
    exact visible
  · rw [getLast?_joined nonempty]
    exact normal.closed

theorem Normal.normalize_eq (normal : Normal key day start finish) : normalize key = .ok key := by
  refine normalize_eq_ok_iff.mpr ⟨day.name.toList, start.toList, finish.toList, day, ?_, ?_, ?_, ?_⟩
  · rw [normal.trimmed_eq, normal.pieces_eq]
  · rw [String.ofList_toList, String.ofList_toList]
    exact normal.proper
  · rw [String.ofList_toList]
    exact day.ofText?_name
  · rw [String.ofList_toList, String.ofList_toList]
    exact normal.spelled.symm

theorem normalize_idempotent {text key : String} (normal : normalize text = .ok key) :
    normalize key = .ok key := by
  obtain ⟨day, start, finish, kept⟩ := exists_normal_of_normalize normal
  exact kept.normalize_eq

end SlotKey

end Timetabling
